import Imperative.Decimal.Digits
import Imperative.Decimal.Shortest

/-!
Decimals and doubles as text, always positional and never with an exponent.
-/

namespace Imperative.Decimal

/-- Digits with a point before the last `places` of them and at least one digit on its left. -/
def pointed (ds : List Char) (places : Nat) : List Char :=
  let padded := List.replicate (places + 1 - ds.length) '0' ++ ds
  padded.take (padded.length - places) ++ '.' :: padded.drop (padded.length - places)

def Scaled.positional (d : Scaled) : List Char :=
  if 0 ≤ d.place then natDigits d.digits ++ List.replicate d.place.toNat '0'
  else pointed (natDigits d.digits) (-d.place).toNat

/-- A whole double is written out in full with one zero after the point, any other with the fewest
digits that read back. -/
def magnitudeText (mantissa : Nat) (exponent : Int) : List Char :=
  match whole? mantissa exponent with
  | some n => natDigits n ++ ['.', '0']
  | none => (shortest mantissa exponent).positional

/-- Zero keeps its sign; what is not a number has none. -/
def Binary.text : Binary → List Char
  | .notANumber => "NaN".toList
  | .infinite negative => (if negative then "-inf" else "inf").toList
  | .finite negative m e => if negative then '-' :: magnitudeText m e else magnitudeText m e

def floatText (x : Float) : String := String.ofList (Binary.ofFloat x).text

/-! A tie goes up, a whole number is written out in full, and digits stay behind the point. -/

example : (Binary.finite false (2 ^ 52) (-77)).text = "0.000000029802322387695313".toList := by
  decide

example : (Binary.finite true 5404319552844596 (-54)).text = "-0.30000000000000004".toList := by
  decide +kernel

example : (Binary.finite false (2 ^ 52) 18).text = "1180591620717411303424.0".toList := by decide

end Imperative.Decimal
