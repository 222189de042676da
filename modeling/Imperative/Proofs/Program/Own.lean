import Imperative.Program.Node
import Mathlib.Tactic.Lemma

/-!
The statements that belong to one function: all those in its body, except for what lies in the
bodies of the functions that are defined there.
-/

namespace Imperative

namespace Stmt

mutual

/-- The statements in the statement, without those in the bodies of functions. -/
def inside : Stmt → List Stmt
  | cond _ yes none _ => yes :: yes.inside
  | cond _ yes (some no) _ => (yes :: yes.inside) ++ (no :: no.inside)
  | loop _ body _ | labeled _ body _ => body :: body.inside
  | repeatUntil body _ _ | block body _ => ownIn body
  | _ => []

/-- The statements that belong to a function with the body. -/
def ownIn : List Stmt → List Stmt
  | [] => []
  | s :: rest => (s :: s.inside) ++ ownIn rest

end

/-- The statement and those in it that belong to the same function. -/
def own (s : Stmt) : List Stmt := s :: s.inside

def isReturn : Stmt → Bool
  | ret .. => true
  | _ => false

def defines (name : String) : Stmt → Bool
  | fn h _ => h.name = name
  | _ => false

/-- One of the statements is a return. -/
def returns (ss : List Stmt) : Bool := ss.any isReturn

/-- None of the statements defines a function of the name. -/
def Clear (name : String) (ss : List Stmt) : Prop := ∀ s ∈ ss, s.defines name = false

instance (name : String) (ss : List Stmt) : Decidable (Clear name ss) :=
  inferInstanceAs (Decidable (∀ s ∈ ss, s.defines name = false))

lemma returns_append {ss ss' : List Stmt} :
    returns (ss ++ ss') = true ↔ returns ss = true ∨ returns ss' = true := by
  unfold returns
  rw [List.any_append, Bool.or_eq_true]

lemma returns_own {s : Stmt} :
    returns s.own = true ↔ s.isReturn = true ∨ returns s.inside = true := by
  unfold returns own
  rw [List.any_cons, Bool.or_eq_true]

lemma clear_append {name : String} {ss ss' : List Stmt} :
    Clear name (ss ++ ss') ↔ Clear name ss ∧ Clear name ss' :=
  List.forall_mem_append

lemma clear_own {name : String} {s : Stmt} :
    Clear name s.own ↔ s.defines name = false ∧ Clear name s.inside :=
  List.forall_mem_cons

end Stmt

end Imperative
