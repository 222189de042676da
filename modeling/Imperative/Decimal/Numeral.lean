import Imperative.Decimal.Digits

/-!
Doubles read from decimal text.

A numeral is an optional sign, digits with an optional point among or around them, and an optional
power of ten; at least one digit stands before or after the point. In any mixture of capital and
small letters, `inf`, `infinity` and `nan` are read too. The result is the double nearest to the
number that is written.
-/

namespace Imperative.Decimal

/-- A numeral without its sign: `whole.fraction` times ten to the power `exponent`. -/
structure Numeral where
  whole : List Char
  fraction : List Char
  exponent : Int
  deriving DecidableEq, Repr

/-- The digits after a point, if a point comes first, and what follows them. -/
def splitFraction : List Char → List Char × List Char
  | '.' :: rest => (rest.takeWhile Char.isDigit, rest.dropWhile Char.isDigit)
  | rest => ([], rest)

def readExponent : List Char → Option Int
  | [] => some 0
  | c :: rest => if c = 'e' ∨ c = 'E' then readInt rest else none

def Numeral.read (cs : List Char) : Option Numeral :=
  let whole := cs.takeWhile Char.isDigit
  match splitFraction (cs.dropWhile Char.isDigit) with
  | (fraction, rest) =>
    if whole = [] ∧ fraction = [] then none
    else (readExponent rest).map fun exponent => ⟨whole, fraction, exponent⟩

def infinity : Float := Float.ofBits 0x7FF0000000000000

def notANumber : Float := Float.ofBits 0x7FF8000000000000

/-- The double nearest to `digits * 10 ^ place`. A number of ten to the 310th or more is infinite
and one below ten to the minus 331st is zero, whatever its digits. -/
def nearest (digits : Nat) (place : Int) : Float :=
  let size := (natDigits digits).length + place
  if digits = 0 ∨ size < -330 then 0.0
  else if 310 < size then infinity
  else Float.ofScientific digits (decide (place < 0)) place.natAbs

def Numeral.toFloat (n : Numeral) : Float :=
  nearest (ofDigits (n.whole ++ n.fraction)) (n.exponent - n.fraction.length)

/-- The double that unsigned text denotes, words included. -/
def readMagnitude (cs : List Char) : Option Float :=
  let word := cs.map Char.toLower
  if word = "inf".toList ∨ word = "infinity".toList then some infinity
  else if word = "nan".toList then some notANumber
  else (Numeral.read cs).map Numeral.toFloat

def readFloat (cs : List Char) : Option Float :=
  match splitSign cs with
  | (negative, rest) => (readMagnitude rest).map fun x => if negative then -x else x

end Imperative.Decimal
