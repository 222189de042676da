import Imperative.Program.Operator
import Imperative.Value.Basic

/-!
Binary operators on values.

Ints wrap around at 64 bits; they stop a run only when divided by zero or shifted by less than zero
or more than 63 places. Of an int and a float, the int is widened first. What is not a number is
neither equal to anything, itself included, nor less or greater. Strings can be joined, compared by
code points, and repeated as long as the result stays within its limit.
-/

namespace Imperative

namespace Value

/-- True is one and false is zero. -/
def ofBool (b : Bool) : Value := int (if b then 1 else 0)

def illegal (op : Operator) (left right : Ty) : Fault :=
  .illegalOperation left.name op.symbol right.name

def shiftBy (amount : Int64) (f : Int64 → Int64) : Except Fault Value :=
  if 0 ≤ amount ∧ amount < 64 then .ok (int (f amount)) else .error (.invalidShift amount)

def divideBy (divisor : Int64) (f : Int64 → Int64) : Except Fault Value :=
  if divisor = 0 then .error .divisionByZero else .ok (int (f divisor))

def applyInt (op : Operator) (a b : Int64) : Except Fault Value :=
  match op with
  | .add => .ok (int (a + b))
  | .sub => .ok (int (a - b))
  | .mul => .ok (int (a * b))
  | .div => divideBy b (a / ·)
  | .mod => divideBy b (a % ·)
  | .shiftLeft => shiftBy b (a <<< ·)
  | .shiftRight => shiftBy b (a >>> ·)
  | .bitOr => .ok (int (a ||| b))
  | .bitAnd => .ok (int (a &&& b))
  | .bitXor => .ok (int (a ^^^ b))
  | .and => .ok (ofBool (a != 0 && b != 0))
  | .or => .ok (ofBool (a != 0 || b != 0))
  | .eq => .ok (ofBool (a == b))
  | .ne => .ok (ofBool (a != b))
  | .lt => .ok (ofBool (a < b))
  | .gt => .ok (ofBool (a > b))
  | .le => .ok (ofBool (a ≤ b))
  | .ge => .ok (ofBool (a ≥ b))

def applyFloat (op : Operator) (x y : Float) : Except Fault Value :=
  match op with
  | .add => .ok (float (x + y))
  | .sub => .ok (float (x - y))
  | .mul => .ok (float (x * y))
  | .div => .ok (float (x / y))
  | .eq => .ok (ofBool (x == y))
  | .ne => .ok (ofBool (x != y))
  | .lt => .ok (ofBool (x < y))
  | .gt => .ok (ofBool (x > y))
  | .le => .ok (ofBool (x ≤ y))
  | .ge => .ok (ofBool (x ≥ y))
  | op => .error (illegal op .float .float)

def applyString (op : Operator) (s t : String) : Except Fault Value :=
  match op with
  | .add => .ok (string (s ++ t))
  | .eq => .ok (ofBool (s == t))
  | .ne => .ok (ofBool (s != t))
  | .lt => .ok (ofBool (s < t))
  | .gt => .ok (ofBool (s > t))
  | .le => .ok (ofBool (s ≤ t))
  | .ge => .ok (ofBool (s ≥ t))
  | op => .error (illegal op .string .string)

/-- The string joined to itself, `n` copies in all. -/
def copies (s : String) (n : Nat) : String :=
  if s = "" then "" else Nat.repeat (· ++ s) n ""

/-- Sizes have 64 bits and no sign. -/
def sizeBound : Nat := 1 <<< 64

/-- The number as a size, if it is one. -/
def size? (n : Int) : Option Nat := if 0 ≤ n ∧ n.toNat < sizeBound then some n.toNat else none

/-- A negative count gives no copies. How many there are and how many bytes they have are sizes. -/
def repeated (s : String) (count : Int64) : Except Fault Value :=
  match size? (max count 0).toInt with
  | none => .error (.repetitionTooLarge count)
  | some n =>
    match size? (s.utf8ByteSize * n) with
    | some length =>
      if length ≤ maxRepeatedBytes then .ok (string (copies s n))
      else .error (.repetitionTooLarge count)
    | none => .error (.repetitionTooLarge count)

/-- An operator that cannot take the operands names their types, those of two numbers after the
widening. -/
def apply (op : Operator) : Value → Value → Except Fault Value
  | int a, int b => applyInt op a b
  | int a, float y => applyFloat op a.toFloat y
  | float x, int b => applyFloat op x b.toFloat
  | float x, float y => applyFloat op x y
  | string s, string t => applyString op s t
  | string s, int n => if op = .mul then repeated s n else .error (illegal op .string .int)
  | v, w => .error (illegal op v.type w.type)

end Value

end Imperative
