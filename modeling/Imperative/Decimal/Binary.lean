/-!
Doubles as exact numbers.

A finite double is a whole mantissa times a power of two, with a sign of its own, so that the two
zeros stay apart.
-/

namespace Imperative.Decimal

/-- A double taken apart; a finite one is the mantissa times two to the exponent. -/
inductive Binary
  | notANumber
  | infinite (negative : Bool)
  | finite (negative : Bool) (mantissa : Nat) (exponent : Int)
  deriving DecidableEq, Repr

/-- Reads sign, exponent and fraction off a word of 64 bits; the lowest exponent has no hidden
bit. -/
def Binary.ofBits (bits : Nat) : Binary :=
  let negative := decide (1 <<< 63 ≤ bits)
  let biased : Nat := (bits >>> 52) % (1 <<< 11)
  let fraction : Nat := bits % (1 <<< 52)
  if biased = 2047 then
    if fraction = 0 then .infinite negative else .notANumber
  else if biased = 0 then .finite negative fraction (-1074)
  else .finite negative ((1 <<< 52) + fraction) (biased - 1075)

def Binary.ofFloat (x : Float) : Binary := .ofBits x.toBits.toNat

/-- The mantissa times two to the exponent, if that is a whole number. -/
def whole? (mantissa : Nat) (exponent : Int) : Option Nat :=
  let scale := 1 <<< exponent.natAbs
  if 0 ≤ exponent then some (mantissa * scale)
  else if mantissa % scale = 0 then some (mantissa / scale)
  else none

end Imperative.Decimal
