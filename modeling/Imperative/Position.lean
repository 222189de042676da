/-!
Where in a source something stands.
-/

namespace Imperative

/-- A line of a source file, counted from one; line zero means that none is known. -/
structure Position where
  line : Nat
  file : String
  deriving DecidableEq, Repr

end Imperative
