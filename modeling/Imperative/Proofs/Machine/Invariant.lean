import Imperative.Proofs.Check.Passing
import Imperative.Proofs.Check.Source
import Imperative.Proofs.Machine.Growth
import Imperative.Proofs.Value.Operation
import Imperative.Run

/-!
Invariants of runs of checked programs.

An invariant is a property of the machine at a place of the program. The place is given by the table
of symbols that the check has there and by the tables at the calls that are under way. Where each
single step keeps the invariant, all runs keep it, and no break, continue or return gets out of the
construct that takes it.
-/

namespace Imperative

/-- A signal that may come out of a statement at a place; `R` says what the functions return. -/
def Signal.Fits (R : String → Value → Prop) (t : SymbolTable) : Signal → Prop
  | normal => True
  | brk | cont => t.inLoop = true
  | ret v => ∃ f, t.enclosingFunction? = some f ∧ R f v

namespace Signal.Fits

open SymbolTable

variable {R : String → Value → Prop} {t t' : SymbolTable} {s : Signal}
  {l : List (String × Symbol)}

lemma of_extends (h : t.Extends l t') (hs : s.Fits R t') : s.Fits R t := by
  cases s with
  | normal => trivial
  | brk | cont => exact h.inLoop_eq.symm.trans hs
  | ret v =>
    obtain ⟨f, hf, hv⟩ := hs
    exact ⟨f, h.enclosingFunction?_eq.symm.trans hf, hv⟩

lemma of_block (hs : s.Fits R (t.push .block)) : s.Fits R t := by
  cases s <;> exact hs

lemma of_loop {v : Value} (hs : (ret v).Fits R (t.push .loop)) : (ret v).Fits R t := hs

/-- Only a return comes out of the body of a function. -/
lemma of_function {f : String} (hs : s.Fits R (t.push (.function f))) :
    s = .normal ∨ ∃ v, s = .ret v ∧ R f v := by
  cases s with
  | normal => exact .inl rfl
  | brk | cont => cases hs
  | ret v =>
    obtain ⟨g, hg, hv⟩ := hs
    cases hg
    exact .inr ⟨v, rfl, hv⟩

/-- Nothing comes out of a statement of the program itself. -/
lemma of_initial (h : SymbolTable.initial.Extends l t) (hs : s.Fits R t) : s = .normal := by
  cases s with
  | normal => rfl
  | brk | cont => cases h.inLoop_eq.symm.trans hs
  | ret v =>
    obtain ⟨g, hg, -⟩ := hs
    cases h.enclosingFunction?_eq.symm.trans hg

end Signal.Fits

/-- A property of the machine at each place of a program, together with all that keeps it. -/
structure Invariant (p : Program) where
  /-- What holds of the machine at a place with the table `t`, with calls under way from places with
  the tables `cs`, the latest first. -/
  Holds (cs : List SymbolTable) (t : SymbolTable) (m : Machine) : Prop
  /-- What an expression at a place may come to. -/
  Yields (t : SymbolTable) (e : Expr) (v : Value) : Prop
  /-- What functions of a name may return. -/
  Returns (name : String) (v : Value) : Prop
  /-- What a run may stop with. -/
  Faults (f : Fault) : Prop
  ordinary {f : Fault} : f.Ordinary → Faults f
  lit {t : SymbolTable} {l : Literal} {v : Value} :
    Value.ofLiteral l = .ok v → Yields t (.lit l) v
  var {cs t m name line} : Seen p t (.expr (.var name line)) → Holds cs t m →
    ∀ v, m.memory.lookup name = some v → Yields t (.var name line) v
  unbound {cs t m name line} : Seen p t (.expr (.var name line)) → Holds cs t m →
    m.memory.lookup name = none → Faults (.undefinedVariable name)
  bin {t op l r line a b} : Seen p t (.expr (.bin op l r line)) → Yields t l a → Yields t r b →
    (∀ v, Value.apply op a b = .ok v → Yields t (.bin op l r line) v) ∧
      ∀ f, Value.apply op a b = .error f → Faults f
  undefined {cs t m name args line} : Seen p t (.expr (.call name args line)) → Holds cs t m →
    m.functions.get? name = none → Faults (.undefinedFunction name)
  /-- The function may have been looked up before the arguments changed the machine. -/
  call {cs t m m' name args line d vs} : Seen p t (.expr (.call name args line)) →
    Holds cs t m → m.functions.get? name = some d → m.Grows m' → Holds cs t m' →
    List.Forall₂ (Yields t) args vs →
    ∃ u v, Seen p u (.stmt (.fn d.header d.body)) ∧
      u.declare d.header.name (.fn (Check.signatureOf d.header)) = .ok v ∧
      Holds (t :: cs) (Check.entry d.header v) (m'.enter (callFrame d.header vs))
  result {cs t m name args line d v} : Seen p t (.expr (.call name args line)) → Holds cs t m →
    m.functions.get? name = some d → Returns d.header.name v → Yields t (.call name args line) v
  leaveCall {cs t u u' m f l} : (SymbolTable.push u (.function f)).Extends l u' →
    Holds (t :: cs) u' m → Holds cs t m.leave
  enterScope {cs t m label name} : (∀ f, label ≠ .function f) → Holds cs t m →
    Holds cs (t.push label) (m.enter (.block name))
  leaveScope {cs t u m label l} : (∀ f, label ≠ .function f) →
    (SymbolTable.push t label).Extends l u → Holds cs u m → Holds cs t m.leave
  settle {cs t t' m} : SymbolTable.Extends [] t t' → (Holds cs t m ↔ Holds cs t' m)
  declare {cs t m type i is v} : Seen p t (.inits type (i :: is)) → Holds cs t m →
    Yields t i.value v → Holds cs (Check.declare i.name (.var type) i.line t).symbols
      { m with memory := m.memory.declare i.name (v.coerce type) }
  store {cs t m name e line v} : Seen p t (.stmt (.assign name e line)) → Holds cs t m →
    Yields t e v → Holds cs t { m with memory := m.memory.store name v }
  define {cs t u m h body} : Seen p t (.stmt (.fn h body)) →
    t.declare h.name (.fn (Check.signatureOf h)) = .ok u → Holds cs t m →
    Holds cs u { m with functions := m.functions.insert h.name ⟨h, body⟩ }
  print {cs t m s} : Holds cs t m → Holds cs t { m with sink := s }
  /-- The branch of a condition that is not taken. -/
  skip {cs t u m test yes no line s} : Seen p u (.stmt (.cond test yes no line)) →
    s = yes ∨ no = some s → Seen p t (.stmt s) → Holds cs t m →
    Holds cs (Check.stmt s t).symbols m
  ret {t e line f v} : Seen p t (.stmt (.ret e line)) → t.enclosingFunction? = some f →
    Yields t e v → Returns f v

namespace Invariant

variable {p : Program} (I : Invariant p) {cs : List SymbolTable} {t u : SymbolTable} {n : Nat}

/-- A statement has ended at a place in the same scope; normally, at the one that follows it. -/
structure Ended (cs : List SymbolTable) (t : SymbolTable) (check : SymbolTable → Checked)
    (s : Signal) (m : Machine) : Prop where
  place : ∃ l t', t.Extends l t' ∧ I.Holds cs t' m ∧ (s = .normal → t' = (check t).symbols)
  fits : s.Fits I.Returns t

/-- The run has been stopped within what stands at the place. -/
structure Stopped (cs : List SymbolTable) (t : SymbolTable) (f : Fault) (m : Machine) : Prop where
  faults : I.Faults f
  inside : ∀ signal, f ≠ .signalEscaped signal
  place : ∃ l t', t.Extends l t' ∧ I.Holds cs t' m

section

variable {I} {check check' : SymbolTable → Checked} {s : Signal} {m : Machine} {f : Fault}
  {l : List (String × Symbol)}

/-- What ends at a later place of the scope ends at the earlier one, unless it goes on normally to
another place than that one. -/
lemma Ended.of_extends (h : I.Ended cs u check' s m) (ht : t.Extends l u)
    (hc : s = .normal → (check' u).symbols = (check t).symbols) : I.Ended cs t check s m := by
  obtain ⟨l', t', he, hm, hn⟩ := h.place
  exact ⟨⟨_, t', ht.append he, hm, fun hs => (hn hs).trans (hc hs)⟩, h.fits.of_extends ht⟩

lemma Ended.normal (h : I.Holds cs (check t).symbols m) (ht : t.Extends l (check t).symbols) :
    I.Ended cs t check .normal m :=
  ⟨⟨l, _, ht, h, fun _ => rfl⟩, trivial⟩

/-- What ends where the check changes nothing, or not normally. -/
lemma Ended.here (h : I.Holds cs t m) (hs : s.Fits I.Returns t)
    (hc : s = .normal → (check t).symbols = t) : I.Ended cs t check s m :=
  ⟨⟨[], t, .refl [] t, h, fun hn => (hc hn).symm⟩, hs⟩

/-- What ends where the check notes returns at most. -/
lemma Ended.settled (h : I.Holds cs t m) (hs : s.Fits I.Returns t)
    (ht : SymbolTable.Extends [] t (check t).symbols) : I.Ended cs t check s m :=
  ⟨⟨[], _, ht, (I.settle ht).1 h, fun _ => rfl⟩, hs⟩

lemma Ended.holds (h : I.Ended cs t check .normal m) : I.Holds cs (check t).symbols m := by
  obtain ⟨_, t', -, hm, hn⟩ := h.place
  exact hn rfl ▸ hm

lemma Ended.leaveScope {label : ScopeLabel} (h : I.Ended cs (t.push label) check s m)
    (hl : ∀ f, label ≠ .function f) : I.Holds cs t m.leave := by
  obtain ⟨_, _, he, hm, -⟩ := h.place
  exact I.leaveScope hl he hm

lemma Stopped.of_extends (h : I.Stopped cs u f m) (ht : t.Extends l u) : I.Stopped cs t f m := by
  obtain ⟨_, t', he, hm⟩ := h.place
  exact ⟨h.faults, h.inside, _, t', ht.append he, hm⟩

lemma Stopped.here (hf : I.Faults f) (hi : ∀ signal, f ≠ .signalEscaped signal)
    (h : I.Holds cs t m) : I.Stopped cs t f m :=
  ⟨hf, hi, [], t, .refl [] t, h⟩

lemma Stopped.leaveScope {label : ScopeLabel} (h : I.Stopped cs (t.push label) f m)
    (hl : ∀ f, label ≠ .function f) : I.Stopped cs t f m.leave := by
  obtain ⟨_, _, he, hm⟩ := h.place
  exact .here h.faults h.inside (I.leaveScope hl he hm)

lemma Stopped.leaveCall {t' : SymbolTable} {g : String} {l' : List (String × Symbol)}
    (h : I.Stopped (t :: cs) u f m) (hu : (SymbolTable.push t' (.function g)).Extends l' u) :
    I.Stopped cs t f m.leave := by
  obtain ⟨_, _, he, hm⟩ := h.place
  exact .here h.faults h.inside (I.leaveCall (hu.append he) hm)

end

/-- What holds of all computations of a depth. -/
structure Keeps (n : Nat) : Prop where
  expr {cs t e m} : Seen p t (.expr e) → I.Holds cs t m →
    ((evalExpr n e).run m).Ends (fun v m' => I.Holds cs t m' ∧ I.Yields t e v) (I.Stopped cs t)
  args {cs t es m} : Seen p t (.args es) → I.Holds cs t m →
    ((evalArgs n es).run m).Ends (fun vs m' => I.Holds cs t m' ∧ List.Forall₂ (I.Yields t) es vs)
      (I.Stopped cs t)
  inits {cs t type is m} : Seen p t (.inits type is) → I.Holds cs t m →
    ((execInits n type is).run m).Ends (I.Ended cs t (Check.inits type is)) (I.Stopped cs t)
  stmt {cs t s m} : Seen p t (.stmt s) → I.Holds cs t m →
    ((execStmt n s).run m).Ends (I.Ended cs t (Check.stmt s)) (I.Stopped cs t)
  stmts {cs t ss m} : Seen p t (.stmts ss) → I.Holds cs t m →
    ((execStmts n ss).run m).Ends (I.Ended cs t (Check.stmts ss)) (I.Stopped cs t)
  loop {cs t test body m} : Seen p t (.expr test) → Seen p (t.push .loop) (.stmt body) →
    I.Holds cs t m → ((execLoop n test body).run m).Ends
      (fun s m' => I.Holds cs t m' ∧ s.Fits I.Returns t) (I.Stopped cs t)
  repeatUntil {cs t u test body m} : Seen p (t.push .loop) (.stmts body) → Seen p u (.expr test) →
    SymbolTable.Extends [] t u → I.Holds cs t m → ((execRepeat n body test).run m).Ends
      (fun s m' => I.Holds cs t m' ∧ s.Fits I.Returns t) (I.Stopped cs t)

lemma Keeps.zero : I.Keeps 0 :=
  ⟨fun _ _ => trivial, fun _ _ => trivial, fun _ _ => trivial, fun _ _ => trivial,
    fun _ _ => trivial, fun _ _ _ => trivial, fun _ _ _ _ => trivial⟩

namespace Keeps

open Outcome.Ends

variable {I} {m : Machine} (ih : I.Keeps n)
include ih

/-- The body of a function that is called. -/
lemma body {h : FnHeader} {b : List Stmt} {t' v : SymbolTable}
    (hs : Seen p t' (.stmt (.fn h b)))
    (hv : t'.declare h.name (.fn (Check.signatureOf h)) = .ok v) {f : Frame}
    (hm : I.Holds (t :: cs) (Check.entry h v) (m.enter f)) :
    ((Exec.inFrame f (execStmts n b)).run m).Ends
      (fun s m' => I.Holds cs t m' ∧ (s = .normal ∨ ∃ v, s = .ret v ∧ I.Returns h.name v))
      (I.Stopped cs t) := by
  have hentry : (v.push (.function h.name)).Extends _ (Check.entry h v) :=
    Check.params_extends h.params _
  have hb : Seen p (Check.entry h v) (.stmts b) := hs.part (by simp [Task.parts, hv])
  refine inFrame ((ih.stmts hb hm).mono (fun s m' h' => ?_) fun f m' h' => h'.leaveCall hentry)
  obtain ⟨_, _, he, hm', -⟩ := h'.place
  exact ⟨I.leaveCall (hentry.append he) hm', (h'.fits.of_extends hentry).of_function⟩

lemma expr_succ {e : Expr} (h : Seen p t (.expr e)) (hm : I.Holds cs t m) :
    ((evalExpr (n + 1) e).run m).Ends (fun v m' => I.Holds cs t m' ∧ I.Yields t e v)
      (I.Stopped cs t) := by
  cases e with
  | lit l =>
    refine orRaise (fun v hv => ⟨hm, I.lit hv⟩) fun f hf => ?_
    have hinvalid : f = .invalidLiteral l.text := by
      unfold Value.ofLiteral at hf
      split at hf <;> cases hf
      rfl
    subst hinvalid
    exact .here (I.ordinary trivial) (by simp) hm
  | var name line =>
    unfold evalExpr
    refine bind (P := fun m' m'' => m' = m ∧ m'' = m) ⟨rfl, rfl⟩ ?_
    rintro _ _ ⟨rfl, rfl⟩
    split
    · next v hv => exact ⟨hm, I.var h hm v hv⟩
    · next hv => exact .here (I.unbound h hm hv) (by simp) hm
  | bin op l r line =>
    unfold evalExpr
    refine bind (ih.expr (h.part (.head _)) hm) ?_
    rintro a m₁ ⟨hm₁, ha⟩
    refine bind (ih.expr (h.part (.tail _ (.head _))) hm₁) ?_
    rintro b m₂ ⟨hm₂, hb⟩
    obtain ⟨hok, herr⟩ := I.bin h ha hb
    refine orRaise (fun v hv => ⟨hm₂, hok v hv⟩) fun f hf => ?_
    refine .here (herr f hf) (fun signal hs => ?_) hm₂
    rcases Value.apply_error hf with ho | ⟨_, _, rfl⟩
    · subst hs; exact ho
    · cases hs
  | call name args line =>
    unfold evalExpr
    refine bind (P := fun m' m'' => m' = m ∧ m'' = m) ⟨rfl, rfl⟩ ?_
    rintro _ _ ⟨rfl, rfl⟩
    split
    · next hd => exact .here (I.undefined h hm hd) (by simp) hm
    · next d hd =>
      have hargs := (ih.args (h.part (.head _)) hm).and ((growsAt n).args args _)
      refine bind hargs ?_
      rintro vs m₁ ⟨⟨hm₁, hvs⟩, hgrow⟩
      obtain ⟨u, v, hs, hv, hentry⟩ := I.call h hm hd hgrow hm₁ hvs
      refine bind (ih.body hs hv hentry) ?_
      rintro s m₂ ⟨hm₂, hs⟩
      rcases hs with rfl | ⟨v, rfl, hv⟩
      · exact .here (I.ordinary trivial) (by simp) hm₂
      · exact ⟨hm₂, I.result h hm hd hv⟩

lemma args_succ {es : List Expr} (h : Seen p t (.args es)) (hm : I.Holds cs t m) :
    ((evalArgs (n + 1) es).run m).Ends
      (fun vs m' => I.Holds cs t m' ∧ List.Forall₂ (I.Yields t) es vs) (I.Stopped cs t) := by
  cases es with
  | nil => exact ⟨hm, .nil⟩
  | cons e es =>
    unfold evalArgs
    refine bind (ih.expr (h.part (.head _)) hm) ?_
    rintro v m₁ ⟨hm₁, hv⟩
    refine bind (ih.args (h.part (.tail _ (.head _))) hm₁) ?_
    rintro vs m₂ ⟨hm₂, hvs⟩
    exact ⟨hm₂, .cons hv hvs⟩

lemma inits_succ {type : Ty} {is : List Init} (h : Seen p t (.inits type is))
    (hm : I.Holds cs t m) : ((execInits (n + 1) type is).run m).Ends
      (I.Ended cs t (Check.inits type is)) (I.Stopped cs t) := by
  cases is with
  | nil => exact Ended.here hm trivial fun _ => rfl
  | cons i is =>
    have hext := Check.declare_extends i.name (.var type) i.line t
    unfold execInits
    refine bind (ih.expr (h.part (.head _)) hm) ?_
    rintro v m₁ ⟨hm₁, hv⟩
    refine bind (P := fun _ m' => m' = _) rfl ?_
    rintro _ _ rfl
    refine (ih.inits (h.part (.tail _ (.head _))) (I.declare h hm₁ hv)).mono ?_ ?_
    · exact fun s m' h' => h'.of_extends hext fun _ => rfl
    · exact fun f m' h' => h'.of_extends hext

lemma stmts_succ {ss : List Stmt} (h : Seen p t (.stmts ss)) (hm : I.Holds cs t m) :
    ((execStmts (n + 1) ss).run m).Ends (I.Ended cs t (Check.stmts ss)) (I.Stopped cs t) := by
  cases ss with
  | nil => exact Ended.here hm trivial fun _ => rfl
  | cons s ss =>
    have hext := Check.stmt_extends s t
    unfold execStmts
    refine bind (ih.stmt (h.part (.head _)) hm) fun s' m₁ h₁ => ?_
    split
    · refine (ih.stmts (h.part (.tail _ (.head _))) h₁.holds).mono ?_ ?_
      · exact fun s m' h' => h'.of_extends hext fun _ => rfl
      · exact fun f m' h' => h'.of_extends hext
    · next hne => exact h₁.of_extends (.refl [] t) fun hn => (hne hn).elim

lemma loop_succ {test : Expr} {body : Stmt} (ht : Seen p t (.expr test))
    (hb : Seen p (t.push .loop) (.stmt body)) (hm : I.Holds cs t m) :
    ((execLoop (n + 1) test body).run m).Ends (fun s m' => I.Holds cs t m' ∧ s.Fits I.Returns t)
      (I.Stopped cs t) := by
  unfold execLoop
  refine bind (ih.expr ht hm) ?_
  rintro v m₁ ⟨hm₁, -⟩
  split
  · refine bind (P := fun s m' => I.Holds cs t m' ∧ s.Fits I.Returns (t.push .loop)) ?_ ?_
    · refine inFrame ((ih.stmt hb (I.enterScope (by simp) hm₁)).mono ?_ ?_)
      · exact fun s m' h' => ⟨h'.leaveScope (by simp), h'.fits⟩
      · exact fun f m' h' => h'.leaveScope (by simp)
    · rintro s m₂ ⟨hm₂, hs⟩
      cases s with
      | normal | cont => exact ih.loop ht hb hm₂
      | brk => exact ⟨hm₂, trivial⟩
      | ret v => exact ⟨hm₂, hs.of_loop⟩
  · exact ⟨hm₁, trivial⟩

lemma repeat_succ {body : List Stmt} {test : Expr} (hb : Seen p (t.push .loop) (.stmts body))
    (ht : Seen p u (.expr test)) (hu : SymbolTable.Extends [] t u) (hm : I.Holds cs t m) :
    ((execRepeat (n + 1) body test).run m).Ends
      (fun s m' => I.Holds cs t m' ∧ s.Fits I.Returns t) (I.Stopped cs t) := by
  unfold execRepeat
  refine bind (P := fun s m' => I.Holds cs t m' ∧ s.Fits I.Returns (t.push .loop)) ?_ ?_
  · refine inFrame ((ih.stmts hb (I.enterScope (by simp) hm)).mono ?_ ?_)
    · exact fun s m' h' => ⟨h'.leaveScope (by simp), h'.fits⟩
    · exact fun f m' h' => h'.leaveScope (by simp)
  · rintro s m₁ ⟨hm₁, hs⟩
    have again : ((do
        if (← evalExpr n test).truthy then pure Signal.normal
        else execRepeat n body test : Exec Signal).run m₁).Ends
          (fun s m' => I.Holds cs t m' ∧ s.Fits I.Returns t) (I.Stopped cs t) := by
      have htest : ((evalExpr n test).run m₁).Ends
          (fun v m' => I.Holds cs u m' ∧ I.Yields u test v) (I.Stopped cs t) :=
        (ih.expr ht ((I.settle hu).1 hm₁)).mono (fun _ _ h' => h') fun _ _ h' => h'.of_extends hu
      refine bind htest ?_
      rintro v m₂ ⟨hm₂, -⟩
      have hback := (I.settle hu).2 hm₂
      split
      · exact ⟨hback, trivial⟩
      · exact ih.repeatUntil hb ht hu hback
    cases s with
    | normal | cont => exact again
    | brk => exact ⟨hm₁, trivial⟩
    | ret v => exact ⟨hm₁, hs.of_loop⟩

lemma cond_succ (test : Expr) (yes : Stmt) (no : Option Stmt) (line : Nat)
    (h : Seen p t (.stmt (.cond test yes no line))) (hm : I.Holds cs t m) :
    ((execStmt (n + 1) (.cond test yes no line)).run m).Ends
      (I.Ended cs t (Check.stmt (.cond test yes no line))) (I.Stopped cs t) := by
  have hext := Check.stmt_extends yes t
  unfold execStmt
  cases no with
  | none =>
    have hyes : Seen p t (.stmt yes) := h.part (.tail _ (.head _))
    refine bind (ih.expr (h.part (.head _)) hm) ?_
    rintro v m₁ ⟨hm₁, -⟩
    split
    · exact (ih.stmt hyes hm₁).mono (fun s m' h' => h'.of_extends (.refl [] t) fun _ => rfl)
        fun _ _ h' => h'
    · have hskip : I.Holds cs (Check.stmt yes t).symbols m₁ := I.skip h (.inl rfl) hyes hm₁
      exact Ended.normal hskip hext
  | some no =>
    have hyes : Seen p t (.stmt yes) := h.part (.tail _ (.head _))
    have hno : Seen p (Check.stmt yes t).symbols (.stmt no) :=
      h.part (.tail _ (.tail _ (.head _)))
    refine bind (ih.expr (h.part (.head _)) hm) ?_
    rintro v m₁ ⟨hm₁, -⟩
    split
    · -- The check goes on to the other branch, which the run leaves out.
      refine (ih.stmt hyes hm₁).mono (fun s m' h' => ?_) fun _ _ h' => h'
      by_cases hs : s = .normal
      · subst hs
        have hskip := I.skip h (.inr rfl) hno h'.holds
        exact Ended.normal hskip (hext.append (Check.stmt_extends no _))
      · exact h'.of_extends (.refl [] t) fun hn => (hs hn).elim
    · refine (ih.stmt hno (I.skip h (.inl rfl) hyes hm₁)).mono ?_ ?_
      · exact fun s m' h' => h'.of_extends hext fun _ => rfl
      · exact fun f m' h' => h'.of_extends hext

lemma stmt_succ (hp : Passes p) {s : Stmt} (h : Seen p t (.stmt s)) (hm : I.Holds cs t m) :
    ((execStmt (n + 1) s).run m).Ends (I.Ended cs t (Check.stmt s)) (I.Stopped cs t) := by
  cases s with
  | decl type is _ => exact ih.inits (h.part (.head _)) hm
  | assign name value _ =>
    unfold execStmt
    refine bind (ih.expr (h.part (.head _)) hm) ?_
    rintro v m₁ ⟨hm₁, hv⟩
    exact Ended.here (I.store h hm₁ hv) trivial fun _ => rfl
  | cond test yes no line => exact ih.cond_succ test yes no line h hm
  | loop test body line =>
    have hext := Check.stmt_extends (.loop test body line) t
    refine (ih.loop (h.part (.head _)) (h.part (.tail _ (.head _))) hm).mono ?_ fun _ _ h' => h'
    exact fun s m' h' => Ended.settled h'.1 h'.2 hext
  | repeatUntil body test line =>
    have hbody := Check.stmts_extends body (t.push .loop)
    refine (ih.repeatUntil (h.part (.head _)) (h.part (.tail _ (.head _))) hbody.pop hm).mono ?_
      fun _ _ h' => h'
    exact fun s m' h' => Ended.settled h'.1 h'.2 hbody.pop
  | fn header body =>
    obtain ⟨u, hu, -⟩ := (h.passes hp).fn
    have hext := Check.fn_extends body hu
    exact Ended.normal ((I.settle hext).1 (I.define h hu hm)) (Check.stmt_extends _ t)
  | block body _ =>
    refine inFrame ((ih.stmts (h.part (.head _)) (I.enterScope (by simp) hm)).mono ?_ ?_)
    · exact fun s m' h' => Ended.settled (h'.leaveScope (by simp)) h'.fits.of_block
        (Check.stmts_extends body (t.push .block)).pop
    · exact fun f m' h' => h'.leaveScope (by simp)
  | ret value _ =>
    obtain ⟨f, hf, -⟩ := (h.passes hp).ret
    unfold execStmt
    refine bind (ih.expr (h.part (.head _)) hm) ?_
    rintro v m₁ ⟨hm₁, hv⟩
    refine Ended.here hm₁ ⟨f, hf, I.ret h hf hv⟩ ?_
    rintro ⟨⟩
  | brk _ => exact Ended.here hm (h.passes hp).brk fun _ => rfl
  | cont _ => exact Ended.here hm (h.passes hp).cont fun _ => rfl
  | print value line =>
    unfold execStmt
    refine bind (ih.expr (h.part (.head _)) hm) ?_
    rintro v m₁ ⟨hm₁, -⟩
    refine bind (P := fun _ => I.Holds cs t) (Outcome.Ends.print ?_ ?_) fun _ m₂ hm₂ => ?_
    · exact fun s => I.print hm₁
    · exact fun s r => .here (I.ordinary trivial) (by simp) (I.print hm₁)
    · exact Ended.here hm₂ trivial fun _ => rfl
  | labeled _ body _ =>
    exact (ih.stmt (h.part (.head _)) hm).mono
      (fun s m' h' => h'.of_extends (.refl [] t) fun _ => rfl) fun _ _ h' => h'
  | expr value _ =>
    unfold execStmt
    refine bind (ih.expr (h.part (.head _)) hm) ?_
    rintro v m₁ ⟨hm₁, -⟩
    exact Ended.here hm₁ trivial fun _ => rfl

end Keeps

/-- **All that runs keeps the invariant.** -/
theorem keeps (hp : Passes p) (n : Nat) : I.Keeps n := by
  induction n with
  | zero => exact .zero I
  | succ n ih =>
    exact ⟨ih.expr_succ, ih.args_succ, ih.inits_succ, ih.stmt_succ hp, ih.stmts_succ, ih.loop_succ,
      ih.repeat_succ⟩

/-- The same of the statements of a program, out of which no signal comes. -/
lemma keeps_program (hp : Passes p) (n : Nat) {l : List (String × Symbol)} {ss : List Stmt}
    {m : Machine} (ht : SymbolTable.initial.Extends l t) (h : Seen p t (.stmts ss))
    (hm : I.Holds [] t m) : ((execProgram n ss).run m).Ends
      (fun _ => I.Holds [] (Check.stmts ss t).symbols) (I.Stopped [] .initial) := by
  induction ss generalizing t l m with
  | nil => exact hm
  | cons s ss ih =>
    have hs : ((execStmt n s).run m).Ends (I.Ended [] t (Check.stmt s)) (I.Stopped [] .initial) :=
      ((I.keeps hp n).stmt (h.part (.head _)) hm).mono (fun _ _ h' => h') fun _ _ h' =>
        h'.of_extends ht
    unfold execProgram
    refine Outcome.Ends.bind hs fun s' m₁ h₁ => ?_
    obtain rfl := h₁.fits.of_initial ht
    exact ih (ht.append (Check.stmt_extends s t)) (h.part (.tail _ (.head _))) h₁.holds

/-- A statement of a program finds the machine that the statements before it leave. -/
lemma holds_at (hp : Passes p) (n : Nat) {l : List (String × Symbol)} {before after : List Stmt}
    {s : Stmt} {m m' : Machine} (ht : SymbolTable.initial.Extends l t)
    (h : Seen p t (.stmts (before ++ s :: after))) (hm : I.Holds [] t m)
    (hr : (execProgram n before).run m = .done () m') :
    ∃ l' t', SymbolTable.initial.Extends l' t' ∧ Seen p t' (.stmt s) ∧ I.Holds [] t' m' := by
  induction before generalizing t l m with
  | nil =>
    cases hr
    exact ⟨l, t, ht, h.part (.head _), hm⟩
  | cons s' before ih =>
    have hs := (I.keeps hp n).stmt (h.part (.head _)) hm
    unfold execProgram at hr
    rw [Exec.run_bind] at hr
    split at hr
    · next s₁ m₁ hs₁ =>
      have h₁ := hs.done hs₁
      obtain rfl := h₁.fits.of_initial ht
      exact ih (ht.append (Check.stmt_extends s' t)) (h.part (.tail _ (.head _))) h₁.holds hr
    · cases hr
    · cases hr

/-- **A run of a checked program keeps the invariant to its end.** -/
theorem interpret_ends (hp : Passes p) (n : Nat) {file : String} {sink : Sink}
    (hm : I.Holds [] .initial (.initial file sink)) : (interpret n p file sink).Ends
      (fun _ => I.Holds [] (Check.stmts p .initial).symbols) (I.Stopped [] .initial) :=
  I.keeps_program hp n (.refl [] .initial) .program hm

end Invariant

end Imperative
