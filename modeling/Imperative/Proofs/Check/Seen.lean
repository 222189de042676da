import Imperative.Check.Checker
import Imperative.Proofs.Check.Extension

/-!
The places of a program that a check comes by, each with the table of symbols it has there.

Of a program without errors, no place has an error.
-/

namespace Imperative

namespace Checked

/-- Nothing but warnings has been found. -/
def Passes (c : Checked) : Prop := ∀ f ∈ c.findings, f.problem.isError = false

lemma passes_append {t : SymbolTable} {fs gs : List Finding} :
    (Checked.mk t (fs ++ gs)).Passes ↔ (Checked.mk t fs).Passes ∧ (Checked.mk t gs).Passes := by
  unfold Passes
  simp only [List.forall_mem_append]

lemma passes_andThen {c : Checked} {next : SymbolTable → Checked} :
    (c.andThen next).Passes ↔ c.Passes ∧ (next c.symbols).Passes := by
  unfold andThen Passes
  simp only [List.forall_mem_append]

end Checked

/-- What is checked, and run, in one go. -/
inductive Task
  | expr (e : Expr)
  | args (es : List Expr)
  | inits (type : Ty) (is : List Init)
  | stmt (s : Stmt)
  | stmts (ss : List Stmt)

namespace Check

/-- The table at the start of the body of a function. -/
def entry (h : FnHeader) (t : SymbolTable) : SymbolTable :=
  (params h.params (t.push (.function h.name))).symbols

lemma fn_extends {h : FnHeader} (body : List Stmt) {t u : SymbolTable}
    (hu : t.declare h.name (.fn (signatureOf h)) = .ok u) :
    u.Extends [] (stmt (.fn h body) t).symbols := by
  have hbody := (params_extends h.params (u.push (.function h.name))).append (stmts_extends body _)
  simp only [stmt, hu, Checked.andThen, missingReturn_symbols]
  exact hbody.pop

end Check

namespace Task

def check : Task → SymbolTable → Checked
  | expr e => Check.expr e
  | args es => fun t => ⟨t, Expr.argsFindings t es⟩
  | inits type is => Check.inits type is
  | stmt s => Check.stmt s
  | stmts ss => Check.stmts ss

/-- What a task consists of, with the table that the check has at each part. The body of a function
is a part only if its name is accepted. -/
def parts (t : SymbolTable) : Task → List (SymbolTable × Task)
  | expr (.bin _ l r _) => [(t, expr l), (t, expr r)]
  | expr (.call _ es _) => [(t, args es)]
  | expr _ | args [] | inits _ [] | stmts [] => []
  | args (e :: es) => [(t, expr e), (t, args es)]
  | inits type (i :: is) =>
    [(t, expr i.value), ((Check.declare i.name (.var type) i.line t).symbols, inits type is)]
  | stmts (s :: ss) => [(t, stmt s), ((Check.stmt s t).symbols, stmts ss)]
  | stmt (.decl type is _) => [(t, inits type is)]
  | stmt (.assign _ e _) | stmt (.ret e _) | stmt (.print e _) | stmt (.expr e _) => [(t, expr e)]
  | stmt (.cond test yes none _) => [(t, expr test), (t, stmt yes)]
  | stmt (.cond test yes (some no) _) =>
    [(t, expr test), (t, stmt yes), ((Check.stmt yes t).symbols, stmt no)]
  | stmt (.loop test body _) => [(t, expr test), (t.push .loop, stmt body)]
  | stmt (.repeatUntil body test _) =>
    [(t.push .loop, stmts body), ((Check.stmts body (t.push .loop)).symbols.pop, expr test)]
  | stmt (.fn h body) =>
    match t.declare h.name (.fn (Check.signatureOf h)) with
    | .ok u => [(Check.entry h u, stmts body)]
    | .error _ => []
  | stmt (.block body _) => [(t.push .block, stmts body)]
  | stmt (.brk _) | stmt (.cont _) => []
  | stmt (.labeled _ body _) => [(t, stmt body)]

/-- The check finds no error. -/
def Passes (t : SymbolTable) (k : Task) : Prop := (k.check t).Passes

lemma forall_mem_pair {α : Type} {P : α → Prop} {a b : α} (ha : P a) (hb : P b) :
    ∀ x ∈ [a, b], P x :=
  List.forall_mem_cons.2 ⟨ha, List.forall_mem_singleton.2 hb⟩

variable {t : SymbolTable} {k : Task}

/-- **The parts of what has no error have none.** -/
theorem Passes.parts (h : k.Passes t) : ∀ q ∈ k.parts t, q.2.Passes q.1 := by
  unfold Passes at h ⊢
  match k with
  | expr (.lit _) | expr (.var ..) | args [] | inits _ [] | stmts [] => exact List.forall_mem_nil _
  | stmt (.brk _) | stmt (.cont _) => exact List.forall_mem_nil _
  | expr (.bin op l r line) =>
    have hlr := Checked.passes_append.1 (Checked.passes_append.1 h).1
    exact forall_mem_pair hlr.1 hlr.2
  | expr (.call name es line) => exact List.forall_mem_singleton.2 (Checked.passes_append.1 h).1
  | args (e :: es) =>
    have hargs := Checked.passes_append.1 h
    exact forall_mem_pair hargs.1 hargs.2
  | inits type (i :: is) =>
    simp only [check, Check.inits, Checked.passes_andThen] at h
    exact forall_mem_pair (Checked.passes_append.1 h.1).1 h.2.2
  | stmts (s :: ss) =>
    simp only [check, Check.stmts, Checked.passes_andThen] at h
    exact forall_mem_pair h.1 h.2
  | stmt (.decl ..) | stmt (.print ..) | stmt (.expr ..) | stmt (.labeled ..) | stmt (.block ..) =>
    exact List.forall_mem_singleton.2 h
  | stmt (.assign ..) => exact List.forall_mem_singleton.2 (Checked.passes_append.1 h).1
  | stmt (.ret ..) => exact List.forall_mem_singleton.2 (Checked.passes_andThen.1 h).1
  | stmt (.cond test yes none _) =>
    simp only [check, Check.stmt, Checked.passes_andThen] at h
    exact forall_mem_pair h.1 h.2
  | stmt (.cond test yes (some no) _) =>
    simp only [check, Check.stmt, Checked.passes_andThen] at h
    exact List.forall_mem_cons.2 ⟨h.1.1, forall_mem_pair h.1.2 h.2⟩
  | stmt (.loop ..) | stmt (.repeatUntil ..) =>
    simp only [check, Check.stmt, Checked.passes_andThen] at h
    exact forall_mem_pair h.1 h.2
  | stmt (.fn header body) =>
    simp only [check, Check.stmt] at h
    simp only [Task.parts]
    split
    · next v hv =>
      simp only [hv, Checked.passes_andThen] at h
      exact List.forall_mem_singleton.2 (Checked.passes_andThen.1 h.1).2
    · exact List.forall_mem_nil _

end Task

/-- The check of the program comes by the task with the table. -/
inductive Seen (p : Program) : SymbolTable → Task → Prop
  | program : Seen p .initial (.stmts p)
  | part {t u : SymbolTable} {k j : Task} (h : Seen p t k) (hj : (u, j) ∈ k.parts t) : Seen p u j

/-- The check of the program finds no error. -/
def Passes (p : Program) : Prop := (Task.stmts p).Passes .initial

lemma Checker.reportAll_eq (c : Checker) (fs : List Finding) : c.reportAll fs =
    { c with
      diagnostics := c.diagnostics ++ fs.map fun f => ⟨f.problem, ⟨f.line, c.file⟩⟩
      isValid := c.isValid && fs.all fun f => !f.problem.isError } := by
  induction fs generalizing c with
  | nil => simp [reportAll]
  | cons f fs ih =>
    rw [reportAll, List.foldl_cons, ← reportAll, ih]
    simp [report, Bool.and_assoc]

/-- What follows a check is what it leaves and finds. -/
lemma Checker.follow_eq (c : Checker) (check : SymbolTable → Checked) : c.follow check =
    ⟨(check c.symbols).symbols,
      c.diagnostics ++ (check c.symbols).findings.map fun f => ⟨f.problem, ⟨f.line, c.file⟩⟩,
      c.isValid && (check c.symbols).findings.all fun f => !f.problem.isError, c.file⟩ :=
  reportAll_eq _ _

/-- What a program is found to be is what the check of its statements finds. -/
lemma typeCheck_eq (p : Program) (file : String) : typeCheck p file =
    ⟨(Check.stmts p .initial).symbols,
      (Check.stmts p .initial).findings.map fun f => ⟨f.problem, ⟨f.line, file⟩⟩,
      (Check.stmts p .initial).findings.all fun f => !f.problem.isError, file⟩ :=
  Checker.follow_eq _ _

/-- A program passes just if its check ends with a valid checker. -/
lemma passes_iff (p : Program) (file : String) : Passes p ↔ (typeCheck p file).isValid = true := by
  rw [typeCheck_eq, List.all_eq_true]
  simp only [Bool.not_eq_true']
  rfl

lemma Seen.passes {p : Program} {t : SymbolTable} {k : Task} (hp : Passes p) (h : Seen p t k) :
    k.Passes t := by
  induction h with
  | program => exact hp
  | part _ hj ih => exact ih.parts _ hj

end Imperative
