import Mathlib.Algebra.Order.Ring.Int
import Imperative.Proofs.Value.Operation

/-!
What arithmetic on ints comes to in terms of unbounded integers.

Results are the mathematical ones as long as 64 bits hold them, and else differ from those by a
multiple of 2^64.
-/

namespace Imperative

namespace Value

/-- The integer that 64 bits with a sign make of `x`. -/
def wrapped (x : Int) : Int := (x + 2 ^ 63) % 2 ^ 64 - 2 ^ 63

/-- It is the one integer in the range that differs from `x` by a multiple of 2^64. -/
lemma wrapped_eq_iff {x y : Int} :
    wrapped x = y ↔ -2 ^ 63 ≤ y ∧ y < 2 ^ 63 ∧ (2 ^ 64 : Int) ∣ y - x := by
  unfold wrapped
  omega

lemma bmod_eq_wrapped (x : Int) : x.bmod (2 ^ 64) = wrapped x := by
  have hlow : -2 ^ 63 ≤ x.bmod (2 ^ 64) := x.le_bmod (by decide)
  have hhigh : x.bmod (2 ^ 64) < 2 ^ 63 := x.bmod_lt (by decide)
  exact (wrapped_eq_iff.2 ⟨hlow, hhigh, Int.dvd_bmod_sub_self⟩).symm

lemma wrapped_toInt (a : Int64) : wrapped a.toInt = a.toInt := by
  rw [← bmod_eq_wrapped]
  exact a.toInt_bmod

/-- Applied to ints, the operator gives the int that is the integer `x`. -/
def Gives (op : Operator) (a b : Int64) (x : Int) : Prop :=
  ∃ c : Int64, apply op (int a) (int b) = .ok (int c) ∧ c.toInt = x

/-! ### Quotients and remainders -/

variable {a b : Int64}

/-- The least int has no positive counterpart, and so stays what it is. -/
lemma toInt_quotient (a b : Int64) : (a / b).toInt =
    if a = Int64.minValue ∧ b = -1 then Int64.minValue.toInt else a.toInt.tdiv b.toInt := by
  split
  · next h => rw [h.1, h.2, Int64.minValue_div_neg_one]
  · next h =>
    by_cases ha : a = Int64.minValue
    · exact a.toInt_div_of_ne_right b fun hb => h ⟨ha, hb⟩
    · exact a.toInt_div_of_ne_left b ha

lemma eq_wrapped_quotient (a b : Int64) :
    a.toInt = wrapped ((a / b).toInt * b.toInt + (a % b).toInt) := by
  rw [toInt_quotient, Int64.toInt_mod]
  split
  · next h => rw [h.1, h.2]; decide
  · rw [Int.tdiv_mul_add_tmod, wrapped_toInt]

lemma natAbs_remainder_lt (a : Int64) (hb : b ≠ 0) :
    (a % b).toInt.natAbs < b.toInt.natAbs := by
  have hne : b.toInt ≠ 0 := fun h => hb (Int64.toInt_inj.1 h)
  rw [Int64.toInt_mod, Int.natAbs_tmod]
  exact Nat.mod_lt _ (Int.natAbs_pos.2 hne)

lemma sign_remainder (a b : Int64) :
    (a % b).toInt = 0 ∨ (a % b).toInt.sign = a.toInt.sign := by
  rw [Int64.toInt_mod]
  by_cases hdvd : b.toInt ∣ a.toInt
  · exact .inl (Int.tmod_eq_zero_of_dvd hdvd)
  · exact .inr (by rw [Int.sign_tmod, if_neg hdvd])

lemma gives_quotient (a : Int64) (hb : b ≠ 0) :
    Gives .div a b (a / b).toInt ∧ Gives .mod a b (a % b).toInt := by
  have hdivide (f : Int64 → Int64) : divideBy b f = .ok (int (f b)) := if_neg hb
  exact ⟨⟨a / b, hdivide _, rfl⟩, ⟨a % b, hdivide _, rfl⟩⟩

/-! ### Shifts -/

/-- Reduced to the width of an int, the number of places is the same. -/
lemma toNat_places (h : 0 ≤ b.toInt ∧ b.toInt < 64) :
    (b.toBitVec.smod 64).toNat = b.toInt.toNat := by
  have hmod : (b.toBitVec.smod 64).toInt = b.toInt := by
    rw [BitVec.toInt_smod, Int64.toInt_toBitVec]
    exact Int.fmod_eq_of_lt h.1 h.2
  rw [BitVec.toInt_eq_toNat_cond] at hmod
  split at hmod <;> omega

lemma toInt_shiftLeft (a : Int64) (h : 0 ≤ b.toInt ∧ b.toInt < 64) :
    (a <<< b).toInt = wrapped (a.toInt * 2 ^ b.toInt.toNat) := by
  rw [← Int64.toInt_toBitVec, Int64.toBitVec_shiftLeft, BitVec.shiftLeft_eq', toNat_places h,
    BitVec.toInt_shiftLeft, ← bmod_eq_wrapped]
  -- The bits are those of a natural number, from which the int differs by a multiple of 2^64.
  rw [← a.toInt_toBitVec, BitVec.toInt_eq_toNat_bmod, Int.bmod_mul_bmod, Nat.shiftLeft_eq]
  norm_cast

lemma toInt_shiftRight (a : Int64) (h : 0 ≤ b.toInt ∧ b.toInt < 64) :
    (a >>> b).toInt = a.toInt.fdiv (2 ^ b.toInt.toNat) := by
  have hpow : (0 : Int) ≤ 2 ^ b.toInt.toNat := Int.le_of_lt (Int.pow_pos (by decide))
  rw [← Int64.toInt_toBitVec, Int64.toBitVec_shiftRight, BitVec.toInt_sshiftRight',
    toNat_places h, Int64.toInt_toBitVec, Int.shiftRight_eq_div_pow,
    Int.fdiv_eq_ediv_of_nonneg _ hpow]
  norm_cast

lemma gives_shift (a : Int64) (h : 0 ≤ b.toInt ∧ b.toInt < 64) :
    Gives .shiftLeft a b (a <<< b).toInt ∧ Gives .shiftRight a b (a >>> b).toInt := by
  have hrange : 0 ≤ b ∧ b < 64 := (in_range_iff b).2 ⟨h.1, by omega⟩
  have hshift (f : Int64 → Int64) : shiftBy b f = .ok (int (f b)) := if_pos hrange
  exact ⟨⟨a <<< b, hshift _, rfl⟩, ⟨a >>> b, hshift _, rfl⟩⟩

/-- **Arithmetic on ints is exact but for multiples of 2^64**, and always comes to a result. Division
rounds towards zero, save that the least int divided by -1 is the least int again, and a remainder
has the sign of the dividend. A shift to the right rounds down. -/
theorem ints_are_exact (a b : Int64) :
    Gives .add a b (wrapped (a.toInt + b.toInt)) ∧
    Gives .sub a b (wrapped (a.toInt - b.toInt)) ∧
    Gives .mul a b (wrapped (a.toInt * b.toInt)) ∧
    (b ≠ 0 → ∃ q m : Int, Gives .div a b q ∧ Gives .mod a b m ∧
      a.toInt = wrapped (q * b.toInt + m) ∧ m.natAbs < b.toInt.natAbs ∧
      (m = 0 ∨ m.sign = a.toInt.sign) ∧
      if a = Int64.minValue ∧ b = -1 then q = Int64.minValue.toInt ∧ m = 0
      else q = a.toInt.tdiv b.toInt) ∧
    (0 ≤ b.toInt ∧ b.toInt < 64 →
      Gives .shiftLeft a b (wrapped (a.toInt * 2 ^ b.toInt.toNat)) ∧
      Gives .shiftRight a b (a.toInt.fdiv (2 ^ b.toInt.toNat))) := by
  simp only [← bmod_eq_wrapped]
  refine ⟨⟨a + b, rfl, a.toInt_add b⟩, ⟨a - b, rfl, a.toInt_sub b⟩, ⟨a * b, rfl, a.toInt_mul b⟩,
    fun hb => ?_, fun h => ?_⟩
  · obtain ⟨hq, hm⟩ := gives_quotient a hb
    have hwhole := eq_wrapped_quotient a b
    rw [← bmod_eq_wrapped] at hwhole
    refine ⟨_, _, hq, hm, hwhole, natAbs_remainder_lt a hb, sign_remainder a b, ?_⟩
    split
    · next hleast => rw [hleast.1, hleast.2]; decide
    · next hother => rw [toInt_quotient, if_neg hother]
  · rw [bmod_eq_wrapped, ← toInt_shiftLeft a h, ← toInt_shiftRight a h]
    exact gives_shift a h

theorem ints_are_exact_least :
    (Gives .div Int64.minValue (-1) (-2 ^ 63) ∧ Gives .mod Int64.minValue (-1) 0) ∧
    (Gives .div (-7) 2 (-3) ∧ ∃ m : Int, Gives .mod (-7) 2 m ∧ m.natAbs < 2 ∧ m.sign = -1) ∧
    Gives .shiftLeft (-3) 63 (-2 ^ 63) ∧ Gives .shiftRight (-3) 63 (-1) := by
  obtain ⟨-, -, -, hleast, -⟩ := ints_are_exact Int64.minValue (-1)
  obtain ⟨-, -, -, hseven, -⟩ := ints_are_exact (-7) 2
  obtain ⟨-, -, -, -, hshift⟩ := ints_are_exact (-3) 63
  refine ⟨?_, ?_, hshift (by decide)⟩
  · obtain ⟨q, m, hq, hm, -, -, -, heq⟩ := hleast (by decide)
    obtain ⟨rfl, rfl⟩ := heq
    exact ⟨hq, hm⟩
  · obtain ⟨q, m, hq, hm, hwhole, hsmall, hsign, heq⟩ := hseven (by decide)
    obtain rfl : q = -3 := heq
    refine ⟨hq, m, hm, hsmall, hsign.resolve_left ?_⟩
    rintro rfl
    exact absurd hwhole (by decide)

end Value

end Imperative
