import Mathlib.Order.Filter.AtTopBot.Basic
import Imperative.Proofs.Machine.Discipline
import Imperative.Proofs.Rendering.Names
import Imperative.Proofs.Rendering.Tree
import Imperative.Proofs.Value.Operation

/-!
Running two renderings of one program.

Where positions and labels are the same, the two runs go in step and take the same fuel. A label
costs fuel, though. So where labels may differ, a run is followed by the other one only if it ends,
and with whatever fuel is enough for that one.
-/

namespace Imperative

open Filter
open List (Forall₂)

variable {τ : Rendering} {α β : Type} {n : Nat}

def Fault.rename (f : String → String) : Fault → Fault
  | undefinedVariable name => undefinedVariable (f name)
  | undefinedFunction name => undefinedFunction (f name)
  | missingReturnValue function => missingReturnValue (f function)
  | fault => fault

@[simp] lemma Fault.rename_id (f : Fault) : f.rename id = f := by
  cases f <;> rfl

lemma Value.rename_apply_error {op : Operator} {a b : Value} {fault : Fault}
    (h : apply op a b = .error fault) (f : String → String) : fault.rename f = fault := by
  cases apply_stops h <;> rfl

lemma Value.rename_ofLiteral_error {l : Literal} {fault : Fault} (h : ofLiteral l = .error fault)
    (f : String → String) : fault.rename f = fault := by
  unfold ofLiteral at h
  split at h
  · cases h
  · cases h
    rfl

structure RuntimeError.Rendered (τ : Rendering) (e e' : RuntimeError) : Prop where
  fault : e'.fault = e.fault.rename τ.name
  position : τ.Pins e.position e'.position

/-- Tables with the same functions in the same order. -/
def Bindings.Rendered (τ : Rendering) (fs fs' : Bindings FnDecl) : Prop :=
  Forall₂ (fun d d' => d'.1 = τ.name d.1 ∧ d.2.Rendered τ d'.2) fs.entries fs'.entries

structure Machine.Rendered (τ : Rendering) (m m' : Machine) : Prop where
  memory : m'.memory = m.memory.rename τ.name
  functions : m.functions.Rendered τ m'.functions
  sink : m'.sink = m.sink
  file : τ.Pins m.file m'.file

/-- The same end, with machines and errors of two renderings. -/
inductive Outcome.Rendered (τ : Rendering) : Outcome α → Outcome α → Prop
  | done (a : α) {m m' : Machine} : m.Rendered τ m' → Rendered τ (.done a m) (.done a m')
  | failed {e e' : RuntimeError} {m m' : Machine} :
    e.Rendered τ e' → m.Rendered τ m' → Rendered τ (.failed e m) (.failed e' m')
  | outOfFuel : Rendered τ .outOfFuel .outOfFuel

/-- The fuel for the second run when the first has `n`: as much, or whatever is enough. -/
def Rendering.fuels (τ : Rendering) (n : Nat) : Filter Nat := if τ.free then atTop else pure n

lemma Rendering.fuels_succ (n : Nat) : τ.fuels (n + 1) = (τ.fuels n).map (· + 1) := by
  unfold fuels
  split
  · exact (map_add_atTop_eq_nat 1).symm
  · exact (map_pure _ n).symm

lemma Rendering.fuels_free (h : τ.free = true) (n n' : Nat) : τ.fuels n = τ.fuels n' := by
  unfold fuels
  rw [if_pos h, if_pos h]

/-- The computation `c`, with the fuel `n`, is followed by `c'`. -/
def Exec.Tracked (τ : Rendering) (n : Nat) (c : Exec α) (c' : Nat → Exec α) : Prop :=
  ∀ m m', m.Rendered τ m' →
    τ.free = true ∧ c.run m = .outOfFuel ∨
      ∃ o', (c.run m).Rendered τ o' ∧ ∀ᶠ k in τ.fuels n, (c' k).run m' = o'

/-! ### Machines -/

namespace Bindings.Rendered

variable {fs fs' : Bindings FnDecl}

lemma get? (h : fs.Rendered τ fs') (name : String) :
    fs.get? name = none ∧ fs'.get? (τ.name name) = none ∨
      ∃ d d', fs.get? name = some d ∧ fs'.get? (τ.name name) = some d' ∧ d.Rendered τ d' := by
  obtain ⟨es⟩ := fs
  obtain ⟨es'⟩ := fs'
  change Forall₂ _ es es' at h
  unfold Bindings.get?
  induction h with
  | nil => exact .inl ⟨rfl, rfl⟩
  | @cons d d' ds ds' hd _ ih =>
    simp only [Bindings.find, hd.1, τ.name_injective.eq_iff]
    split
    · exact .inr ⟨d.2, d'.2, rfl, rfl, hd.2⟩
    · exact ih

lemma insert (h : fs.Rendered τ fs') {d d' : FnDecl} (hd : d.Rendered τ d') (name : String) :
    (fs.insert name d).Rendered τ (fs'.insert (τ.name name) d') := by
  obtain ⟨es⟩ := fs
  obtain ⟨es'⟩ := fs'
  change Forall₂ _ es es' at h
  show Forall₂ _ (put name d es) (put (τ.name name) d' es')
  induction h with
  | nil => exact .cons ⟨rfl, hd⟩ .nil
  | @cons e e' es es' he hes ih =>
    simp only [put, he.1, τ.name_injective.eq_iff]
    split
    · exact .cons ⟨rfl, hd⟩ hes
    · exact .cons he ih

end Bindings.Rendered

namespace Machine.Rendered

variable {m m' : Machine} (h : m.Rendered τ m')
include h

lemma enter (f : Frame) : (m.enter f).Rendered τ (m'.enter (f.rename τ.name)) := by
  refine ⟨?_, h.functions, h.sink, h.file⟩
  show m'.memory.push _ = _
  rw [h.memory]
  rfl

lemma leave : m.leave.Rendered τ m'.leave := by
  refine ⟨?_, h.functions, h.sink, h.file⟩
  show m'.memory.pop = _
  rw [h.memory, Memory.pop_rename]
  rfl

lemma lookup (name : String) : m'.memory.lookup (τ.name name) = m.memory.lookup name := by
  rw [h.memory, Memory.lookup_rename τ.name_injective]

lemma insert {d d' : FnDecl} (hd : d.Rendered τ d') (name : String) :
    Rendered τ { m with functions := m.functions.insert name d }
      { m' with functions := m'.functions.insert (τ.name name) d' } :=
  ⟨h.memory, h.functions.insert hd name, h.sink, h.file⟩

lemma changeMemory {f f' : Memory → Memory}
    (hf : f' (m.memory.rename τ.name) = (f m.memory).rename τ.name) :
    Rendered τ { m with memory := f m.memory } { m' with memory := f' m'.memory } := by
  refine ⟨?_, h.functions, h.sink, h.file⟩
  show f' m'.memory = _
  rw [h.memory, hf]

lemma print (s : Sink) : Rendered τ { m with sink := s } { m' with sink := s } :=
  ⟨h.memory, h.functions, rfl, h.file⟩

lemma error {line line' : Nat} (hn : τ.Pins line line') (fault : Fault) :
    RuntimeError.Rendered τ ⟨fault, ⟨line, m.file⟩⟩ ⟨fault.rename τ.name, ⟨line', m'.file⟩⟩ :=
  ⟨rfl, fun hfree => by rw [hn hfree, h.file hfree]⟩

end Machine.Rendered

lemma Machine.rendered_initial {file file' : String} (h : τ.Pins file file') (sink : Sink) :
    (Machine.initial file sink).Rendered τ (.initial file' sink) := ⟨rfl, .nil, rfl, h⟩

lemma Outcome.Rendered.leave {o o' : Outcome α} (h : o.Rendered τ o') :
    o.leave.Rendered τ o'.leave := by
  cases h with
  | done a hm => exact .done a hm.leave
  | failed he hm => exact .failed he hm.leave
  | outOfFuel => exact .outOfFuel

lemma foldl_declare_rendered {ps ps' : List Param} (h : Forall₂ (Param.Rendered τ) ps ps')
    (vs : List Value) (f : Frame) :
    (ps'.zip vs).foldl (fun f p => f.declare p.1.name p.2) (f.rename τ.name) =
      ((ps.zip vs).foldl (fun f p => f.declare p.1.name p.2) f).rename τ.name := by
  induction h generalizing vs f with
  | nil => rfl
  | cons hp _ ih =>
    cases vs with
    | nil => rfl
    | cons v vs =>
      rw [List.zip_cons_cons, List.zip_cons_cons, List.foldl_cons, List.foldl_cons, hp.name,
        Frame.declare_rename τ.name_injective, ih]

/-- The second frame holds the same values under its own names. -/
lemma callFrame_rendered {h h' : FnHeader} (hh : h.Rendered τ h') (vs : List Value) :
    callFrame h' vs = (callFrame h vs).rename τ.name := by
  have hcall : Frame.call h'.name = (Frame.call h.name).rename τ.name := by
    rw [hh.name]
    rfl
  unfold callFrame
  rw [hcall, foldl_declare_rendered hh.params]

/-! ### Computations -/

namespace Exec.Tracked

open Exec

lemma zero {c' : Nat → Exec α} (h : c' 0 = outOfFuel) : Tracked τ 0 outOfFuel c' := by
  intro m m' _
  cases hfree : τ.free with
  | true => exact .inl ⟨rfl, rfl⟩
  | false =>
    refine .inr ⟨.outOfFuel, .outOfFuel, ?_⟩
    unfold Rendering.fuels
    rw [hfree, if_neg Bool.false_ne_true, eventually_pure, h]
    rfl

lemma succ {c : Exec α} {c' : Nat → Exec α} (h : Tracked τ n c fun k => c' (k + 1)) :
    Tracked τ (n + 1) c c' := by
  intro m m' hm
  refine (h m m' hm).imp_right ?_
  rintro ⟨o', ho, hk⟩
  refine ⟨o', ho, ?_⟩
  rw [τ.fuels_succ, eventually_map]
  exact hk

/-- Where labels are free, how much fuel the first run has does not matter. -/
lemma refuel (hfree : τ.free = true) {c : Exec α} {c' : Nat → Exec α} (h : Tracked τ n c c')
    (n' : Nat) : Tracked τ n' c c' := by
  unfold Tracked at h ⊢
  rwa [τ.fuels_free hfree n' n]

/-- Computations without fuel. -/
lemma step {c c' : Exec α} (h : ∀ m m', m.Rendered τ m' → (c.run m).Rendered τ (c'.run m')) :
    Tracked τ n c fun _ => c' :=
  fun m m' hm => .inr ⟨_, h m m' hm, .of_forall fun _ => rfl⟩

lemma pure (a : α) : Tracked τ n (Pure.pure a) fun _ => Pure.pure a := step fun _ _ => .done a

lemma raise {fault fault' : Fault} {line line' : Nat} (hf : fault' = fault.rename τ.name)
    (hn : τ.Pins line line') :
    Tracked τ n (Exec.raise fault line : Exec α) fun _ => Exec.raise fault' line' := by
  subst hf
  exact step fun m m' hm => .failed (hm.error hn fault) hm

lemma orRaise {r : Except Fault α} {line line' : Nat}
    (hr : ∀ fault, r = .error fault → fault.rename τ.name = fault) (hn : τ.Pins line line') :
    Tracked τ n (Exec.orRaise line r) fun _ => Exec.orRaise line' r := by
  cases r with
  | ok a => exact pure a
  | error fault => exact raise (hr fault rfl).symm hn

lemma bind {c : Exec α} {c' : Nat → Exec α} {next : α → Exec β} {next' : Nat → α → Exec β}
    (hc : Tracked τ n c c') (hn : ∀ a, Tracked τ n (next a) fun k => next' k a) :
    Tracked τ n (c >>= next) fun k => c' k >>= next' k := by
  intro m m' hm
  rw [run_bind]
  obtain ⟨hfree, hr⟩ | ⟨o', ho, hk⟩ := hc m m' hm
  · rw [hr]
    exact .inl ⟨hfree, rfl⟩
  · cases hr : c.run m with
    | done a m₁ =>
      rw [hr] at ho
      cases ho with
      | done _ hm₁ =>
        refine (hn a m₁ _ hm₁).imp_right ?_
        rintro ⟨o'', ho, hk'⟩
        refine ⟨o'', ho, (hk.and hk').mono ?_⟩
        rintro k ⟨h, h'⟩
        rw [run_bind, h]
        exact h'
    | failed e m₁ =>
      rw [hr] at ho
      cases ho with
      | failed he hm₁ => exact .inr ⟨_, .failed he hm₁, hk.mono fun k h => by rw [run_bind, h]⟩
    | outOfFuel =>
      rw [hr] at ho
      cases ho
      exact .inr ⟨_, .outOfFuel, hk.mono fun k h => by rw [run_bind, h]⟩

lemma inFrame {c : Exec α} {c' : Nat → Exec α} {f f' : Frame} (hf : f' = f.rename τ.name)
    (hc : Tracked τ n c c') : Tracked τ n (Exec.inFrame f c) fun k => Exec.inFrame f' (c' k) := by
  subst hf
  intro m m' hm
  rw [run_inFrame]
  obtain ⟨hfree, hr⟩ | ⟨o', ho, hk⟩ := hc _ _ (hm.enter f)
  · rw [hr]
    exact .inl ⟨hfree, rfl⟩
  · exact .inr ⟨o'.leave, ho.leave, hk.mono fun k h => by rw [run_inFrame, h]⟩

lemma read (name : String) {line line' : Nat} (hn : τ.Pins line line') :
    Tracked τ n (Exec.read name line) fun _ => Exec.read (τ.name name) line' := by
  refine step fun m m' hm => ?_
  unfold Exec.read
  rw [run_find, run_find, hm.lookup]
  cases m.memory.lookup name with
  | some v => exact .done v hm
  | none => exact .failed (hm.error hn (.undefinedVariable name)) hm

/-- Of the function that a call finds, only a rendering is found in the other run. -/
lemma callee {next : FnDecl → Exec α} {next' : Nat → FnDecl → Exec α} (name : String)
    {line line' : Nat} (hn : τ.Pins line line')
    (hnext : ∀ d d', d.Rendered τ d' → Tracked τ n (next d) fun k => next' k d') :
    Tracked τ n (Exec.callee name line >>= next) fun k =>
      Exec.callee (τ.name name) line' >>= next' k := by
  intro m m' hm
  unfold Exec.callee
  simp only [run_bind, run_find]
  obtain ⟨hd, hd'⟩ | ⟨d, d', hd, hd', hdecl⟩ := hm.functions.get? name
  · rw [hd, hd']
    exact .inr ⟨_, .failed (hm.error hn (.undefinedFunction name)) hm, .of_forall fun _ => rfl⟩
  · rw [hd, hd']
    exact hnext d d' hdecl m m' hm

lemma taken {d d' : FnDecl} (hd : d.Rendered τ d') {line line' : Nat} (hn : τ.Pins line line')
    (s : Signal) : Tracked τ n (Exec.taken d line s) fun _ => Exec.taken d' line' s := by
  cases s with
  | ret v => exact pure v
  | normal =>
    refine raise ?_ hn
    rw [hd.header.name]
    rfl
  | brk | cont => exact raise rfl hn

lemma define {h h' : FnHeader} {body body' : List Stmt} (hh : h.Rendered τ h')
    (hbody : Forall₂ (Stmt.Rendered τ) body body') :
    Tracked τ n (change fun m => { m with functions := m.functions.insert h.name ⟨h, body⟩ })
      fun _ => change fun m => { m with functions := m.functions.insert h'.name ⟨h', body'⟩ } := by
  rw [hh.name]
  exact step fun _ _ hm => .done () (hm.insert ⟨hh, hbody⟩ h.name)

lemma changeMemory {f f' : Memory → Memory}
    (h : ∀ m : Memory, f' (m.rename τ.name) = (f m).rename τ.name) :
    Tracked τ n (Exec.changeMemory f) fun _ => Exec.changeMemory f' :=
  step fun m _ hm => .done () (hm.changeMemory (h m.memory))

lemma declare (name : String) (v : Value) :
    Tracked τ n (Exec.changeMemory fun m => m.declare name v) fun _ =>
      Exec.changeMemory fun m => m.declare (τ.name name) v :=
  changeMemory fun _ => Memory.declare_rename τ.name_injective name v

lemma store (name : String) (v : Value) :
    Tracked τ n (Exec.changeMemory fun m => m.store name v) fun _ =>
      Exec.changeMemory fun m => m.store (τ.name name) v :=
  changeMemory fun _ => Memory.store_rename τ.name_injective name v

lemma print (text : String) {line line' : Nat} (hn : τ.Pins line line') :
    Tracked τ n (Exec.print text line) fun _ => Exec.print text line' := by
  refine step fun m m' hm => ?_
  have hwrite : m'.sink.write (text ++ "\n") = m.sink.write (text ++ "\n") := by rw [hm.sink]
  rw [run_print rfl, run_print hwrite]
  split
  · exact .done () (hm.print _)
  · exact .failed ((hm.print _).error hn (.output _)) (hm.print _)

end Exec.Tracked

/-! ### Evaluation -/

namespace Rendering

open Exec

/-- With the fuel `n`, all that is evaluated and executed is followed. -/
structure TrackedAt (τ : Rendering) (n : Nat) : Prop where
  expr : ∀ {e e'}, Expr.Rendered τ e e' → Tracked τ n (evalExpr n e) fun k => evalExpr k e'
  args : ∀ {es es'}, Forall₂ (Expr.Rendered τ) es es' →
    Tracked τ n (evalArgs n es) fun k => evalArgs k es'
  inits : ∀ type {is is'}, Forall₂ (Init.Rendered τ) is is' →
    Tracked τ n (execInits n type is) fun k => execInits k type is'
  stmt : ∀ {s s'}, Stmt.Rendered τ s s' → Tracked τ n (execStmt n s) fun k => execStmt k s'
  stmts : ∀ {ss ss'}, Forall₂ (Stmt.Rendered τ) ss ss' →
    Tracked τ n (execStmts n ss) fun k => execStmts k ss'
  loop : ∀ {test test' body body'}, Expr.Rendered τ test test' → Stmt.Rendered τ body body' →
    Tracked τ n (execLoop n test body) fun k => execLoop k test' body'
  repeatUntil : ∀ {body body' test test'}, Forall₂ (Stmt.Rendered τ) body body' →
    Expr.Rendered τ test test' →
    Tracked τ n (execRepeat n body test) fun k => execRepeat k body' test'

namespace TrackedAt

lemma zero : τ.TrackedAt 0 :=
  ⟨fun _ => .zero rfl, fun _ => .zero rfl, fun _ _ _ _ => .zero rfl, fun _ => .zero rfl,
    fun _ => .zero rfl, fun _ _ => .zero rfl, fun _ _ => .zero rfl⟩

variable (ih : τ.TrackedAt n)
include ih

lemma expr_succ {e e' : Expr} (h : e.Rendered τ e') :
    Tracked τ (n + 1) (evalExpr (n + 1) e) fun k => evalExpr k e' := by
  refine .succ ?_
  cases h with
  | lit l hn =>
    exact .orRaise (r := Value.ofLiteral l) (fun _ h => Value.rename_ofLiteral_error h τ.name) hn
  | var name hn =>
    simp only [evalExpr_var]
    exact .read name hn
  | bin op hl hr hn =>
    unfold evalExpr
    refine .bind (ih.expr hl) fun a => .bind (ih.expr hr) fun b => ?_
    exact .orRaise (fun _ h => Value.rename_apply_error h τ.name) hn
  | call name hargs hn =>
    simp only [evalExpr_call]
    refine .callee name hn fun d d' hd => .bind (ih.args hargs) fun vs => ?_
    refine .bind ?_ (.taken hd hn)
    exact .inFrame (callFrame_rendered hd.header vs) (ih.stmts hd.body)

lemma args_succ {es es' : List Expr} (h : Forall₂ (Expr.Rendered τ) es es') :
    Tracked τ (n + 1) (evalArgs (n + 1) es) fun k => evalArgs k es' := by
  refine .succ ?_
  cases h with
  | nil => exact .pure []
  | cons he hes =>
    exact .bind (ih.expr he) fun v => .bind (ih.args hes) fun vs => .pure (v :: vs)

lemma inits_succ (type : Ty) {is is' : List Init} (h : Forall₂ (Init.Rendered τ) is is') :
    Tracked τ (n + 1) (execInits (n + 1) type is) fun k => execInits k type is' := by
  refine .succ ?_
  cases h with
  | nil => exact .pure _
  | @cons i i' is is' hi his =>
    unfold execInits
    rw [hi.name]
    refine .bind (ih.expr hi.value) fun v => ?_
    exact .bind (.declare i.name (v.coerce type)) fun _ => ih.inits type his

lemma stmts_succ {ss ss' : List Stmt} (h : Forall₂ (Stmt.Rendered τ) ss ss') :
    Tracked τ (n + 1) (execStmts (n + 1) ss) fun k => execStmts k ss' := by
  refine .succ ?_
  cases h with
  | nil => exact .pure _
  | cons hs hss =>
    unfold execStmts
    refine .bind (ih.stmt hs) fun signal => ?_
    cases signal with
    | normal => exact ih.stmts hss
    | brk | cont | ret => exact .pure _

lemma loop_succ {test test' : Expr} {body body' : Stmt} (htest : test.Rendered τ test')
    (hbody : body.Rendered τ body') :
    Tracked τ (n + 1) (execLoop (n + 1) test body) fun k => execLoop k test' body' := by
  refine .succ ?_
  unfold execLoop
  refine .bind (ih.expr htest) fun v => ?_
  split
  · refine .bind (.inFrame rfl (ih.stmt hbody)) fun signal => ?_
    cases signal with
    | normal | cont => exact ih.loop htest hbody
    | brk | ret => exact .pure _
  · exact .pure _

lemma repeat_succ {body body' : List Stmt} {test test' : Expr}
    (hbody : Forall₂ (Stmt.Rendered τ) body body') (htest : test.Rendered τ test') :
    Tracked τ (n + 1) (execRepeat (n + 1) body test) fun k => execRepeat k body' test' := by
  refine .succ ?_
  have again : Tracked τ n (do
      if (← evalExpr n test).truthy then Pure.pure Signal.normal
      else execRepeat n body test : Exec Signal) fun k => (do
        if (← evalExpr k test').truthy then Pure.pure Signal.normal
        else execRepeat k body' test' : Exec Signal) := by
    refine .bind (ih.expr htest) fun v => ?_
    split
    · exact .pure _
    · exact ih.repeatUntil hbody htest
  unfold execRepeat
  refine .bind (.inFrame rfl (ih.stmts hbody)) fun signal => ?_
  cases signal with
  | normal | cont => exact again
  | brk | ret => exact .pure _

lemma stmt_succ {s s' : Stmt} (h : s.Rendered τ s') :
    Tracked τ (n + 1) (execStmt (n + 1) s) fun k => execStmt k s' := by
  -- The labels that only the second statement has are taken off first, all for the same fuel.
  induction hsize : sizeOf s' using Nat.strong_induction_on generalizing s s' with | _ size hinner
  cases h with
  | decl type his _ => exact .succ (ih.inits type his)
  | assign name he _ =>
    refine .succ (.bind (ih.expr he) fun v => ?_)
    exact .bind (.store name v) fun _ => .pure Signal.normal
  | cond htest hyes _ =>
    refine .succ (.bind (ih.expr htest) fun v => ?_)
    split
    · exact ih.stmt hyes
    · exact .pure Signal.normal
  | condElse htest hyes hno _ =>
    refine .succ (.bind (ih.expr htest) fun v => ?_)
    split
    · exact ih.stmt hyes
    · exact ih.stmt hno
  | loop htest hbody _ => exact .succ (ih.loop htest hbody)
  | repeatUntil hbody htest _ => exact .succ (ih.repeatUntil hbody htest)
  | fn hh hbody => exact .succ (.bind (.define hh hbody) fun _ => .pure Signal.normal)
  | block hbody _ => exact .succ (.inFrame rfl (ih.stmts hbody))
  | ret he _ => exact .succ (.bind (ih.expr he) fun v => .pure (Signal.ret v))
  | brk _ => exact .succ (.pure Signal.brk)
  | cont _ => exact .succ (.pure Signal.cont)
  | print he hn =>
    refine .succ (.bind (ih.expr he) fun v => ?_)
    exact .bind (.print v.text hn) fun _ => .pure Signal.normal
  | expr he _ => exact .succ (.bind (ih.expr he) fun _ => .pure Signal.normal)
  | labeled _ hbody _ => exact .succ (ih.stmt hbody)
  | dropped _ _ hfree hbody => exact .refuel hfree (ih.stmt hbody) (n + 1)
  | added _ _ hfree hbody =>
    have htracked := hinner _ (by simp at hsize; omega) hbody rfl
    exact .refuel hfree (.succ htracked) (n + 1)

end TrackedAt

/-- **What is rendered is followed.** -/
theorem trackedAt (n : Nat) : τ.TrackedAt n := by
  induction n with
  | zero => exact .zero
  | succ n ih =>
    exact ⟨ih.expr_succ, ih.args_succ, ih.inits_succ, ih.stmt_succ, ih.stmts_succ, ih.loop_succ,
      ih.repeat_succ⟩

lemma tracked_program {p p' : Program} (h : p.Rendered τ p') :
    Tracked τ n (execProgram n p) fun k => execProgram k p' := by
  unfold Program.Rendered at h
  induction h with
  | nil => exact .pure ()
  | @cons s s' p p' hs _ ih =>
    unfold execProgram
    refine .bind ((trackedAt n).stmt hs) fun signal => ?_
    cases signal with
    | normal => exact ih
    | brk | cont | ret => exact .raise rfl hs.line

end Rendering

namespace Program.Rendered

variable {p p' : Program} {sink : Sink}

/-- With positions and labels the same, two runs with the same fuel end alike. -/
theorem interpret_rendered (h : p.Rendered τ p') (hfree : τ.free = false) (n : Nat) (file : String)
    (sink : Sink) :
    (interpret n p file sink).Rendered τ (interpret n p' file sink) := by
  have hfile : τ.Pins file file := fun _ => rfl
  obtain ⟨hfree', -⟩ | ⟨o', ho, hk⟩ :=
    Rendering.tracked_program h _ _ (Machine.rendered_initial hfile sink)
  · cases hfree.symm.trans hfree'
  · unfold Rendering.fuels at hk
    rw [hfree, if_neg Bool.false_ne_true, eventually_pure] at hk
    unfold interpret
    rwa [hk]

/-- What one run ends with, the other one does with all but too little fuel. -/
theorem eventually_interpret (h : p.Rendered τ p') (hfree : τ.free = true) {file : String}
    (hr : interpret n p file sink ≠ .outOfFuel) (file' : String) :
    ∃ o', (interpret n p file sink).Rendered τ o' ∧
      ∀ᶠ k in atTop, interpret k p' file' sink = o' := by
  have hfile : τ.Pins file file' := fun h => by cases hfree.symm.trans h
  obtain ⟨-, hout⟩ | ⟨o', ho, hk⟩ :=
    Rendering.tracked_program h _ _ (Machine.rendered_initial hfile sink)
  · exact absurd hout hr
  · unfold Rendering.fuels at hk
    rw [if_pos hfree] at hk
    exact ⟨o', ho, hk⟩

end Program.Rendered

end Imperative
