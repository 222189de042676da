import Imperative.Program.Ty

/-!
Binary operators, the symbols they are written with, and the types they accept.

Arithmetic works on numbers of either kind and gives a float as soon as one operand is a float.
Remainder, shifts, bits and the two connectives are for ints. Comparisons take two numbers or two
strings and give an int. Strings can be joined to strings and repeated an int number of times.
-/

namespace Imperative

inductive Operator
  | add | sub | mul | div | mod
  | shiftLeft | shiftRight | bitOr | bitAnd | bitXor
  | and | or
  | eq | ne | lt | gt | le | ge
  deriving DecidableEq, Repr

namespace Operator

def all : List Operator :=
  [add, sub, mul, div, mod, shiftLeft, shiftRight, bitOr, bitAnd, bitXor, and, or,
   eq, ne, lt, gt, le, ge]

def symbol : Operator → String
  | add => "+"
  | sub => "-"
  | mul => "*"
  | div => "/"
  | mod => "%"
  | shiftLeft => "<<"
  | shiftRight => ">>"
  | bitOr => "|"
  | bitAnd => "&"
  | bitXor => "^"
  | and => "AND"
  | or => "OR"
  | eq => "=="
  | ne => "!="
  | lt => "<"
  | gt => ">"
  | le => "<="
  | ge => ">="

def ofSymbol? (s : String) : Option Operator := all.find? fun op => op.symbol = s

/-- The place of the operator among all of them. -/
def index (op : Operator) : Nat := all.idxOf op

def isComparison (op : Operator) : Bool := [eq, ne, lt, gt, le, ge].contains op

theorem mem_all (op : Operator) : op ∈ all := by cases op <;> decide

theorem ofSymbol?_symbol (op : Operator) : ofSymbol? op.symbol = some op := by
  cases op <;> decide

end Operator

/-- The type of a sum, difference, product or quotient of two numbers. -/
def Ty.arithmetic : Ty → Ty → Option Ty
  | int, int => some int
  | int, float | float, int | float, float => some float
  | _, _ => none

/-- Two values of these types can be compared. -/
def Ty.comparable (left right : Ty) : Bool :=
  left.isNumeric && right.isNumeric || left = string && right = string

/-- The type of the result, if the operator takes operands of these types. -/
def Operator.resultType (op : Operator) (left right : Ty) : Option Ty :=
  match op with
  | add => if left = .string ∧ right = .string then some .string else left.arithmetic right
  | mul => if left = .string ∧ right = .int then some .string else left.arithmetic right
  | sub | div => left.arithmetic right
  | mod | shiftLeft | shiftRight | bitOr | bitAnd | bitXor | and | or =>
    if left = .int ∧ right = .int then some .int else none
  | eq | ne | lt | gt | le | ge => if left.comparable right then some .int else none

/-- Of unknown operands nothing is accepted, and no result is unknown. -/
theorem Operator.known_of_resultType {op : Operator} {left right type : Ty}
    (h : op.resultType left right = some type) :
    left ≠ .unknown ∧ right ≠ .unknown ∧ type ≠ .unknown := by
  cases op <;> cases left <;> cases right <;> cases h <;> decide

end Imperative
