import Imperative.Check.Checker
import Imperative.Machine.Evaluation

/-!
A program is checked first and runs only if it is valid.
-/

namespace Imperative

/-- More fuel than any run that ends in a lifetime takes. -/
def ampleFuel : Nat := Nat.pow 10 18

/-- Runs a program, checked or not, from the start. -/
def interpret (fuel : Nat) (p : Program) (file : String) (sink : Sink) : Outcome Unit :=
  (execProgram fuel p).run (.initial file sink)

inductive RunOutcome
  /-- The check found errors, and nothing ran. -/
  | rejected (checker : Checker)
  | completed (checker : Checker) (sink : Sink)
  | failed (error : RuntimeError) (sink : Sink)
  | outOfFuel

def run (fuel : Nat) (p : Program) (file : String) (sink : Sink) : RunOutcome :=
  let checker := typeCheck p file
  if checker.isValid then
    match interpret fuel p file sink with
    | .done _ m => .completed checker m.sink
    | .failed e m => .failed e m.sink
    | .outOfFuel => .outOfFuel
  else .rejected checker

end Imperative
