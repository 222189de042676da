/-!
The types of the language: three that programs can name, and one that stands for a type which could
not be told.
-/

namespace Imperative

inductive Ty
  | int
  | float
  | string
  /-- The type of an expression that has already been found wrong. -/
  | unknown
  deriving DecidableEq, Repr

namespace Ty

def name : Ty → String
  | int => "int"
  | float => "float"
  | string => "string"
  | unknown => "unknown"

/-- The type that a program names; the unknown type cannot be named. -/
def ofName? (s : String) : Option Ty := [int, float, string].find? fun t => t.name = s

def isNumeric (t : Ty) : Bool := t = int || t = float

def isUnknown (t : Ty) : Bool := t = unknown

end Ty

end Imperative
