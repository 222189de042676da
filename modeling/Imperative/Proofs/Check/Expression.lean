import Imperative.Proofs.Check.Found

/-!
What a check says of an expression is what it says of the expressions in it, one after the other,
operands and arguments first.
-/

namespace Imperative

namespace Expr

mutual

/-- The expressions inside the expression, each after those inside it. -/
def inner : Expr → List Expr
  | lit _ | var .. => []
  | bin _ l r _ => (l.inner ++ [l]) ++ (r.inner ++ [r])
  | call _ args _ => upwardAll args

/-- The expressions and those inside them, each after those inside it. -/
def upwardAll : List Expr → List Expr
  | [] => []
  | e :: rest => (e.inner ++ [e]) ++ upwardAll rest

end

/-- The expression and those inside it, each after those inside it. -/
def upward (e : Expr) : List Expr := e.inner ++ [e]

variable {t : SymbolTable} {f : Finding}

mutual

/-- The walk upward comes by all expressions of the tree. -/
theorem mem_upward {d : Expr} (e : Expr) : d ∈ e.upward ↔ .expr d ∈ (Node.expr e).walk := by
  rw [Node.walk_eq, upward, List.mem_append, List.mem_singleton, List.mem_cons, Node.expr.injEq,
    or_comm]
  match e with
  | lit _ | var .. => simp [inner, Node.children, Node.exprChildren]
  | bin op l r line =>
    have hinner : d ∈ (bin op l r line).inner ↔ d ∈ l.upward ∨ d ∈ r.upward := List.mem_append
    simp [hinner, mem_upward l, mem_upward r, Node.children, Node.exprChildren]
  | call name args line =>
    show _ ∨ d ∈ upwardAll args ↔ _
    rw [mem_upwardAll args, Node.children, Node.exprChildren, List.flatMap_map, List.mem_flatMap]

theorem mem_upwardAll {d : Expr} (es : List Expr) :
    d ∈ upwardAll es ↔ ∃ e ∈ es, .expr d ∈ (Node.expr e).walk := by
  match es with
  | [] => simp [upwardAll]
  | e :: rest =>
    have hmem : d ∈ upwardAll (e :: rest) ↔ d ∈ e.upward ∨ d ∈ upwardAll rest := List.mem_append
    simp [hmem, mem_upward e, mem_upwardAll rest]

end

/-- What is said of the expression itself, those inside it apart. -/
def reports (t : SymbolTable) (e : Expr) : List Finding := (Task.expr e).reports t

mutual

/-- **Each expression says its own part**, after the expressions inside it. -/
theorem findings_eq (t : SymbolTable) (e : Expr) : e.findings t = e.upward.flatMap (reports t) := by
  match e with
  | lit _ => rfl
  | var name line =>
    show nameFindings t name line = nameFindings t name line ++ []
    rw [List.append_nil]
  | bin op l r line =>
    simp only [findings, findings_eq t l, findings_eq t r, upward, inner, List.flatMap_append,
      List.flatMap_singleton]
    rfl
  | call name args line =>
    simp only [findings, argsFindings_eq t args, upward, inner, List.flatMap_append,
      List.flatMap_singleton]
    rfl

theorem argsFindings_eq (t : SymbolTable) (es : List Expr) :
    argsFindings t es = (upwardAll es).flatMap (reports t) := by
  match es with
  | [] => rfl
  | e :: rest =>
    simp only [argsFindings, upwardAll, List.flatMap_append, argsFindings_eq t rest]
    rw [findings_eq t e, upward, List.flatMap_append]

end

lemma found_of_mem_findings {e : Expr} (h : f ∈ e.findings t) :
    ∃ d ∈ e.upward, Task.Found t (.expr d) f := by
  rw [findings_eq, List.mem_flatMap] at h
  obtain ⟨d, hd, hf⟩ := h
  exact ⟨d, hd, Task.found_of_mem hf⟩

/-- All that is wrong with expressions are errors. -/
lemma isError_of_mem_findings {e : Expr} (h : f ∈ e.findings t) : f.problem.isError = true := by
  obtain ⟨d, -, hd⟩ := found_of_mem_findings h
  cases hd <;> rfl

end Expr

end Imperative
