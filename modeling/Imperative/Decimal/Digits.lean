/-!
Whole numbers written in decimal: an optional sign and one or more of the digits 0 to 9.

A number is written without a plus sign and without leading zeros, and every number written that
way is read back.
-/

namespace Imperative.Decimal

/-- The number that a list of digits denotes, the most significant first. -/
def ofDigits (ds : List Char) : Nat := Nat.ofDigitChars 10 ds 0

def natDigits (n : Nat) : List Char := Nat.toDigits 10 n

def intDigits (i : Int) : List Char :=
  if i < 0 then '-' :: natDigits i.natAbs else natDigits i.natAbs

/-- Whether a minus sign comes first, and what follows the sign. -/
def splitSign : List Char → Bool × List Char
  | '-' :: rest => (true, rest)
  | '+' :: rest => (false, rest)
  | cs => (false, cs)

def signed (negative : Bool) (n : Nat) : Int := if negative then -n else n

def readInt (cs : List Char) : Option Int :=
  match splitSign cs with
  | (negative, ds) =>
    if ds ≠ [] ∧ ds.all Char.isDigit then some (signed negative (ofDigits ds)) else none

/-- Reads a number that fits a signed word of 64 bits, and no other. -/
def readInt64 (cs : List Char) : Option Int64 :=
  match readInt cs with
  | some i =>
    if Int64.minValue.toInt ≤ i ∧ i ≤ Int64.maxValue.toInt then some (Int64.ofInt i) else none
  | none => none

/-- The decimal text of a count. -/
def natText (n : Nat) : String := String.ofList (natDigits n)

/-- The decimal text of a word. -/
def int64Text (n : Int64) : String := String.ofList (intDigits n.toInt)

theorem ofDigits_natDigits (n : Nat) : ofDigits (natDigits n) = n :=
  Nat.ofDigitChars_toDigits (by decide) (by decide)

end Imperative.Decimal
