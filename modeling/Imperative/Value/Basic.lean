import Imperative.Program.Literal
import Imperative.Program.Ty
import Imperative.Decimal.Numeral
import Imperative.Decimal.Positional
import Imperative.Fault

/-!
Values of the three types: decoding of constants, conversion between numbers, truth and text.
-/

namespace Imperative

inductive Value
  | int (n : Int64)
  | float (x : Float)
  | string (s : String)
  deriving Repr

/-- The text between a quote at the start and another one at the end. -/
def unquoted : List Char → Option (List Char)
  | '"' :: rest => if rest.getLast? = some '"' then some rest.dropLast else none
  | _ => none

namespace Value

def type : Value → Ty
  | int _ => .int
  | float _ => .float
  | string _ => .string

/-- The value that a text denotes as a constant of the given kind. -/
def read? (kind : LiteralKind) (text : String) : Option Value :=
  match kind with
  | .int => (Decimal.readInt64 text.toList).map int
  | .float => (Decimal.readFloat text.toList).map float
  | .string => (unquoted text.toList).map fun cs => string (String.ofList cs)

def ofLiteral (l : Literal) : Except Fault Value :=
  match read? l.kind l.text with
  | some v => .ok v
  | none => .error (.invalidLiteral l.text)

/-- Everything but zero and the empty string counts as true; what is not a number does too. -/
def truthy : Value → Bool
  | int n => n != 0
  | float x => x != 0.0
  | string s => s != ""

/-- An int widens to a float, and a float drops its fraction to become an int; the nearest int
stands for a float out of range, and zero for what is not a number. Nothing else changes. -/
def coerce : Value → Ty → Value
  | int n, .float => float n.toFloat
  | float x, .int => int x.toInt64
  | v, _ => v

def text : Value → String
  | int n => Decimal.int64Text n
  | float x => Decimal.floatText x
  | string s => s

end Value

end Imperative
