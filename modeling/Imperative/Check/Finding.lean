import Imperative.Problem
import Imperative.Scope.Table

/-!
Findings: problems with the line each is found at, before a file is named.
-/

namespace Imperative

structure Finding where
  problem : Problem
  line : Nat
  deriving DecidableEq, Repr

/-- The problem that a refused or missing name amounts to. -/
def SymbolError.problem (inGlobalScope : Bool) : SymbolError → Problem
  | duplicateDeclaration name => .duplicateDeclaration name
  | functionNameShadowed name => .functionNameShadowed name
  | undeclaredName name => .undeclaredName name inGlobalScope

/-- What is wrong with storing a value of one type in a variable of another. An int may be stored
in a float; a float may be stored in an int at the loss of its fraction. Nothing is said where a
type is unknown. -/
def storeFindings (declared assigned : Ty) (line : Nat) : List Finding :=
  if declared = assigned ∨ declared = .unknown ∨ assigned = .unknown then []
  else match declared, assigned with
    | .float, .int => []
    | .int, .float => [⟨.precisionLoss declared assigned, line⟩]
    | _, _ => [⟨.typeMismatch declared assigned, line⟩]

end Imperative
