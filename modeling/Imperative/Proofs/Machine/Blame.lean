import Imperative.Proofs.Check.Nodes
import Imperative.Proofs.Machine.Ends
import Imperative.Proofs.Program.Construct
import Imperative.Proofs.Value.Operation

/-!
What a run that fails blames: a construct of the program, on the line of the error.

It may be a construct of any function, for an error keeps its position through all calls. What it
takes is that every function in the table is found by its own name and stands in the program.
-/

namespace Imperative

variable {p : Program} {file : String}

/-- The machine runs functions of the program, each under its own name, and names the file. -/
structure Machine.Runs (p : Program) (file : String) (m : Machine) : Prop where
  file : m.file = file
  callees : ∀ name d, m.functions.get? name = some d → d.header.name = name ∧ d.Stands p

namespace Machine.Runs

lemma initial (sink : Sink) : (Machine.initial file sink).Runs p file :=
  ⟨rfl, fun _ _ hd => nomatch hd⟩

lemma define {m : Machine} {h : FnHeader} {body : List Stmt} (hm : m.Runs p file)
    (hs : .stmt (.fn h body) ∈ (Node.program p).walk) :
    Runs p file { m with functions := m.functions.insert h.name ⟨h, body⟩ } := by
  refine ⟨hm.file, fun name d hd => ?_⟩
  rw [Bindings.get?_insert] at hd
  split at hd
  · next hname =>
    cases hd
    exact ⟨hname, hs⟩
  · exact hm.callees name d hd

end Machine.Runs

/-- The error that stops a computation. -/
def Outcome.error? {α : Type} : Outcome α → Option RuntimeError
  | failed e _ => some e
  | _ => none

/-- The error names the file and a line with a construct that the fault can be laid to. -/
def RuntimeError.Placed (p : Program) (file : String) (e : RuntimeError) : Prop :=
  e.position.file = file ∧ ∃ c, e.fault.blames c = true ∧ c.Stands p e.position.line

namespace Exec

variable {α β : Type}

/-- The computation leaves a machine as before, or fails with an error that has its place. -/
def Accounts (p : Program) (file : String) (x : Exec α) : Prop :=
  ∀ m, m.Runs p file → match x.run m with
    | .done _ m' => m'.Runs p file
    | .failed e _ => e.Placed p file
    | .outOfFuel => True

namespace Accounts

lemma pure (a : α) : (Pure.pure a : Exec α).Accounts p file := fun _ hm => hm

lemma outOfFuel : (Exec.outOfFuel : Exec α).Accounts p file := fun _ _ => trivial

lemma raise {f : Fault} {line : Nat} {c : Construct} (hf : f.blames c = true)
    (hc : c.Stands p line) : (Exec.raise f line : Exec α).Accounts p file :=
  fun _ hm => ⟨hm.file, c, hf, hc⟩

lemma orRaise {r : Except Fault α} {line : Nat} {c : Construct}
    (hf : ∀ f, r = .error f → f.blames c = true) (hc : c.Stands p line) :
    (Exec.orRaise line r).Accounts p file := by
  cases r with
  | ok a => exact pure a
  | error f => exact raise (hf f rfl) hc

lemma bind {x : Exec α} {next : α → Exec β} (hx : x.Accounts p file)
    (hn : ∀ a, (next a).Accounts p file) : (x >>= next).Accounts p file := by
  intro m hm
  have hx := hx m hm
  rw [run_bind]
  cases hr : x.run m with
  | done a m' => rw [hr] at hx; exact hn a m' hx
  | failed e m' => rw [hr] at hx; exact hx
  | outOfFuel => trivial

/-- A computation may go by the machine that it starts from. -/
lemma machine {next : Machine → Exec β} (h : ∀ m, m.Runs p file → (next m).Accounts p file) :
    (Exec.machine >>= next).Accounts p file :=
  fun m hm => h m hm m hm

lemma change {f : Machine → Machine} (h : ∀ m, m.Runs p file → (f m).Runs p file) :
    (Exec.change f).Accounts p file :=
  fun m hm => h m hm

lemma changeMemory (f : Memory → Memory) : (Exec.changeMemory f).Accounts p file :=
  fun _ hm => ⟨hm.file, hm.callees⟩

lemma inFrame {f : Frame} {x : Exec α} (h : x.Accounts p file) :
    (Exec.inFrame f x).Accounts p file := by
  intro m hm
  have h := h (m.enter f) ⟨hm.file, hm.callees⟩
  rw [run_inFrame]
  cases hr : x.run (m.enter f) with
  | done a m' => rw [hr] at h; exact ⟨h.file, h.callees⟩
  | failed e m' => rw [hr] at h; exact h
  | outOfFuel => trivial

lemma print {text : String} {line : Nat} (hc : Construct.print.Stands p line) :
    (Exec.print text line).Accounts p file := by
  intro m hm
  rw [run_print rfl]
  split
  · next h =>
    split at h <;> cases h
    exact ⟨hm.file, hm.callees⟩
  · next h =>
    split at h <;> cases h
    exact ⟨hm.file, _, rfl, hc⟩
  · trivial

end Accounts

end Exec

/-- What stops an operator is laid to it. -/
lemma Value.apply_blames {op : Operator} {a b : Value} {f : Fault} (h : apply op a b = .error f) :
    f.blames (.operation op) = true := by
  cases apply_stops h with
  | zero hop => simpa [Fault.blames] using hop
  | outside hop => simpa [Fault.blames] using hop
  | tooLong hop => simpa [Fault.blames] using hop
  | refused => exact decide_eq_true rfl

lemma Value.ofLiteral_blames {l : Literal} {f : Fault} (h : Value.ofLiteral l = .error f) :
    f.blames (.literal l.text) = true := by
  unfold Value.ofLiteral at h
  split at h <;> cases h
  exact decide_eq_true rfl

/-- All computations of a depth account for their errors. -/
structure AccountsAt (p : Program) (file : String) (n : Nat) : Prop where
  expr : ∀ e, .expr e ∈ (Node.program p).walk → (evalExpr n e).Accounts p file
  args : ∀ es, (∀ e ∈ es, .expr e ∈ (Node.program p).walk) → (evalArgs n es).Accounts p file
  inits : ∀ type is, (∀ i ∈ is, .expr i.value ∈ (Node.program p).walk) →
    (execInits n type is).Accounts p file
  stmt : ∀ s, .stmt s ∈ (Node.program p).walk → (execStmt n s).Accounts p file
  stmts : ∀ ss, (∀ s ∈ ss, .stmt s ∈ (Node.program p).walk) → (execStmts n ss).Accounts p file
  loop : ∀ test body, .expr test ∈ (Node.program p).walk → .stmt body ∈ (Node.program p).walk →
    (execLoop n test body).Accounts p file
  repeatUntil : ∀ body test, (∀ s ∈ body, .stmt s ∈ (Node.program p).walk) →
    .expr test ∈ (Node.program p).walk → (execRepeat n body test).Accounts p file

namespace AccountsAt

open Exec.Accounts

lemma zero : AccountsAt p file 0 :=
  ⟨fun _ _ => outOfFuel, fun _ _ => outOfFuel, fun _ _ _ => outOfFuel, fun _ _ => outOfFuel,
    fun _ _ => outOfFuel, fun _ _ _ _ => outOfFuel, fun _ _ _ _ => outOfFuel⟩

variable {n : Nat} (ih : AccountsAt p file n)
include ih

lemma expr_succ (e : Expr) (he : .expr e ∈ (Node.program p).walk) :
    (evalExpr (n + 1) e).Accounts p file := by
  have here {c : Construct} {line : Nat} (hc : (c, line) ∈ (Node.expr e).constructs) :
      c.Stands p line := ⟨_, he, hc⟩
  have child {c : Expr} (hc : .expr c ∈ (Node.expr e).children) :
      .expr c ∈ (Node.program p).walk := Node.child_mem_walk he hc
  cases e with
  | lit l => exact orRaise (fun _ => Value.ofLiteral_blames) (here (.head _))
  | var name line =>
    unfold evalExpr
    refine machine fun m _ => ?_
    split
    · exact pure _
    · exact raise (c := .read name) (decide_eq_true rfl) (here (.head _))
  | bin op l r line =>
    unfold evalExpr
    refine bind (ih.expr l (child (.head _))) fun a => ?_
    refine bind (ih.expr r (child (.tail _ (.head _)))) fun b => ?_
    exact orRaise (fun _ => Value.apply_blames) (here (.head _))
  | call name args line =>
    unfold evalExpr
    refine machine fun m hm => ?_
    split
    · exact raise (c := .call name) (decide_eq_true rfl) (here (.head _))
    · next d hd =>
      obtain ⟨hname, hstands⟩ := hm.callees name d hd
      have hargs := ih.args args fun a ha => child (List.mem_map_of_mem ha)
      refine bind hargs fun vs => bind (inFrame (ih.stmts d.body hstands.body)) fun s => ?_
      split
      · exact pure _
      · exact raise (c := .call name) (decide_eq_true hname.symm) (here (.head _))
      · exact raise (c := .call name) rfl (here (.head _))

lemma args_succ (es : List Expr) (hes : ∀ e ∈ es, .expr e ∈ (Node.program p).walk) :
    (evalArgs (n + 1) es).Accounts p file := by
  cases es with
  | nil => exact pure _
  | cons e es =>
    obtain ⟨he, hes⟩ := List.forall_mem_cons.1 hes
    exact bind (ih.expr e he) fun v => bind (ih.args es hes) fun vs => pure _

lemma inits_succ (type : Ty) (is : List Init)
    (his : ∀ i ∈ is, .expr i.value ∈ (Node.program p).walk) :
    (execInits (n + 1) type is).Accounts p file := by
  cases is with
  | nil => exact pure _
  | cons i is =>
    obtain ⟨hi, his⟩ := List.forall_mem_cons.1 his
    unfold execInits
    exact bind (ih.expr i.value hi) fun v => bind (changeMemory _) fun _ => ih.inits type is his

lemma stmts_succ (ss : List Stmt) (hss : ∀ s ∈ ss, .stmt s ∈ (Node.program p).walk) :
    (execStmts (n + 1) ss).Accounts p file := by
  cases ss with
  | nil => exact pure _
  | cons s ss =>
    obtain ⟨hs, hss⟩ := List.forall_mem_cons.1 hss
    unfold execStmts
    refine bind (ih.stmt s hs) fun r => ?_
    split
    · exact ih.stmts ss hss
    · exact pure _

lemma loop_succ (test : Expr) (body : Stmt) (htest : .expr test ∈ (Node.program p).walk)
    (hbody : .stmt body ∈ (Node.program p).walk) :
    (execLoop (n + 1) test body).Accounts p file := by
  unfold execLoop
  refine bind (ih.expr test htest) fun v => ?_
  split
  · refine bind (inFrame (ih.stmt body hbody)) fun r => ?_
    split
    · exact ih.loop test body htest hbody
    · exact ih.loop test body htest hbody
    · exact pure _
    · exact pure _
  · exact pure _

lemma repeat_succ (body : List Stmt) (test : Expr)
    (hbody : ∀ s ∈ body, .stmt s ∈ (Node.program p).walk)
    (htest : .expr test ∈ (Node.program p).walk) :
    (execRepeat (n + 1) body test).Accounts p file := by
  have again : (do
      if (← evalExpr n test).truthy then Pure.pure Signal.normal
      else execRepeat n body test : Exec Signal).Accounts p file := by
    refine bind (ih.expr test htest) fun v => ?_
    split
    · exact pure _
    · exact ih.repeatUntil body test hbody htest
  unfold execRepeat
  refine bind (inFrame (ih.stmts body hbody)) fun r => ?_
  split
  · exact again
  · exact again
  · exact pure _
  · exact pure _

lemma stmt_succ (s : Stmt) (hs : .stmt s ∈ (Node.program p).walk) :
    (execStmt (n + 1) s).Accounts p file := by
  have child {c : Node} (hc : c ∈ (Node.stmt s).children) : c ∈ (Node.program p).walk :=
    Node.child_mem_walk hs hc
  cases s with
  | decl type is _ =>
    exact ih.inits type is fun i hi =>
      child (List.mem_map_of_mem (f := fun i : Init => Node.expr i.value) hi)
  | assign name value _ =>
    unfold execStmt
    exact bind (ih.expr value (child (.head _))) fun v => bind (changeMemory _) fun _ => pure _
  | cond test yes no _ =>
    unfold execStmt
    refine bind (ih.expr test (child (.head _))) fun v => ?_
    split
    · exact ih.stmt yes (child (.tail _ (.head _)))
    · cases no with
      | none => exact pure _
      | some no => exact ih.stmt no (child (.tail _ (.tail _ (.head _))))
  | loop test body _ => exact ih.loop test body (child (.head _)) (child (.tail _ (.head _)))
  | repeatUntil body test _ =>
    refine ih.repeatUntil body test (fun s hs => child ?_) (child ?_)
    · exact List.mem_append_left _ (List.mem_map_of_mem hs)
    · exact List.mem_append_right _ (.head _)
  | fn h body => exact bind (change fun _ hm => hm.define hs) fun _ => pure _
  | block body _ => exact inFrame (ih.stmts body fun s hs => child (List.mem_map_of_mem hs))
  | ret value _ => exact bind (ih.expr value (child (.head _))) fun v => pure _
  | brk _ | cont _ => exact pure _
  | print value line =>
    refine bind (ih.expr value (child (.head _))) fun v => bind (print ?_) fun _ => pure _
    exact ⟨_, hs, .head _⟩
  | labeled _ body _ => exact ih.stmt body (child (.head _))
  | expr value _ => exact bind (ih.expr value (child (.head _))) fun v => pure _

end AccountsAt

/-- **Every computation accounts for its errors.** -/
theorem accountsAt (p : Program) (file : String) (n : Nat) : AccountsAt p file n := by
  induction n with
  | zero => exact .zero
  | succ n ih =>
    exact ⟨ih.expr_succ, ih.args_succ, ih.inits_succ, ih.stmt_succ, ih.stmts_succ, ih.loop_succ,
      ih.repeat_succ⟩

/-- So does a run of statements of the program itself. -/
lemma execProgram_accounts {n : Nat} {ss : List Stmt} (hss : ss ⊆ p) :
    (execProgram n ss).Accounts p file := by
  induction ss with
  | nil => exact .pure _
  | cons s ss ih =>
    have hs := hss (.head ss)
    unfold execProgram
    refine .bind ((accountsAt p file n).stmt s (Node.stmt_mem_walk p s hs)) fun r => ?_
    split
    · exact ih (List.subset_of_cons_subset hss)
    · refine .raise (c := .outermost) rfl ⟨_, Node.self_mem_walk _, ?_⟩
      exact List.mem_map_of_mem (f := fun s : Stmt => (Construct.outermost, s.line)) hs

end Imperative
