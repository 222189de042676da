import Mathlib.Algebra.Order.Ring.Int
import Imperative.Proofs.Value.Operation

/-!
Repetition of strings.

A count is taken for zero if it is negative, and the copies are made if their bytes stay within the
limit. Counts add up to joined copies, so what is within the limit for a sum is so for its parts.
-/

namespace Imperative

namespace Value

variable {s : String} {a c : Int64}

/-! ### Copies -/

@[simp] lemma copies_zero (s : String) : copies s 0 = "" := by
  unfold copies
  split <;> rfl

@[simp] lemma copies_succ (s : String) (n : ℕ) : copies s (n + 1) = copies s n ++ s := by
  unfold copies
  split
  · next hempty => rw [hempty, String.append_empty]
  · rfl

lemma copies_eq_join (s : String) (n : ℕ) : copies s n = String.join (List.replicate n s) := by
  induction n with
  | zero => rw [copies_zero]; rfl
  | succ n ih =>
    rw [copies_succ, ih, List.replicate_succ', String.join, String.join, List.foldl_append]
    rfl

lemma utf8ByteSize_copies (s : String) (n : ℕ) :
    (copies s n).utf8ByteSize = s.utf8ByteSize * n := by
  induction n with
  | zero => simp
  | succ n ih => rw [copies_succ, String.utf8ByteSize_append, ih, Nat.mul_succ]

lemma copies_add (s : String) (m n : ℕ) : copies s (m + n) = copies s m ++ copies s n := by
  induction n with
  | zero => simp
  | succ n ih => rw [← Nat.add_assoc, copies_succ, ih, copies_succ, String.append_assoc]

/-! ### The limit -/

/-- The number of copies that a count asks for, none if it is negative. -/
def times (c : Int64) : ℕ := c.toInt.toNat

lemma cast_times (c : Int64) : (times c : ℤ) = max c.toInt 0 := Int.toNat_eq_max _

lemma times_of_nonneg (h : 0 ≤ c) : (times c : ℤ) = c.toInt :=
  Int.toNat_of_nonneg (Int64.le_iff_toInt_le.1 h)

lemma times_of_nonpos (h : c ≤ 0) : times c = 0 :=
  Int.toNat_of_nonpos (Int64.le_iff_toInt_le.1 h)

/-- The copies that the count asks for are within the limit. -/
def Fits (s : String) (c : Int64) : Prop := s.utf8ByteSize * times c ≤ maxRepeatedBytes

lemma fits_iff (s : String) (c : Int64) :
    Fits s c ↔ (s.utf8ByteSize : ℤ) * max c.toInt 0 ≤ 2 ^ 24 := by
  rw [← cast_times]
  exact_mod_cast Iff.rfl

lemma fits_of_nonpos_or_empty (h : c ≤ 0 ∨ s = "") : Fits s c := by
  rcases h with hc | rfl
  · simp [Fits, times_of_nonpos hc]
  · simp [Fits]

/-- Fewer copies are within the limit too. -/
lemma Fits.mono (h : Fits s c) (hle : times a ≤ times c) : Fits s a :=
  (Nat.mul_le_mul_left _ hle).trans h

lemma apply_of_fits (h : Fits s c) :
    apply .mul (string s) (int c) = .ok (string (copies s (times c))) :=
  (repeated_eq s c).trans (if_pos h)

lemma apply_of_not_fits (h : ¬Fits s c) :
    apply .mul (string s) (int c) = .error (.repetitionTooLarge c) :=
  (repeated_eq s c).trans (if_neg h)

lemma apply_eq_ok_iff {v : Value} : apply .mul (string s) (int c) = .ok v ↔
    Fits s c ∧ v = string (copies s (times c)) := by
  by_cases h : Fits s c
  · simp [apply_of_fits h, h, eq_comm]
  · simp [apply_of_not_fits h, h]

lemma exists_ok_iff : (∃ v, apply .mul (string s) (int c) = .ok v) ↔ Fits s c :=
  ⟨fun ⟨_, hv⟩ => (apply_eq_ok_iff.1 hv).1, fun h => ⟨_, apply_of_fits h⟩⟩

/-- **Repeating a string is a homomorphism up to a limit.** A string times a count is that many
copies of it, none for a negative count, if they have no more than 2^24 bytes in all, and else a
fault; an int that is a sum of two counts gives the copies of both, joined. -/
theorem repetition_is_bounded (s : String) :
    (∀ c : Int64,
      ((∃ v, apply .mul (string s) (int c) = .ok v) ↔
        (s.utf8ByteSize : ℤ) * max c.toInt 0 ≤ 2 ^ 24) ∧
      (c ≤ 0 ∨ s = "" → ∃ v, apply .mul (string s) (int c) = .ok v) ∧
      (∀ v, apply .mul (string s) (int c) = .ok v → ∃ t, v = string t ∧
        t = String.join (List.replicate (max c.toInt 0).toNat s) ∧
        (t.utf8ByteSize : ℤ) = s.utf8ByteSize * max c.toInt 0) ∧
      ((¬∃ v, apply .mul (string s) (int c) = .ok v) →
        apply .mul (string s) (int c) = .error (.repetitionTooLarge c))) ∧
    ∀ a b c : Int64, 0 ≤ a → 0 ≤ b → c.toInt = a.toInt + b.toInt →
      ∀ v, apply .mul (string s) (int c) = .ok v → ∃ x y,
        apply .mul (string s) (int a) = .ok x ∧ apply .mul (string s) (int b) = .ok y ∧
          apply .add x y = .ok v := by
  refine ⟨fun c => ⟨?_, fun h => ?_, fun v hv => ?_, fun h => ?_⟩, ?_⟩
  · rw [exists_ok_iff, fits_iff]
  · exact exists_ok_iff.2 (fits_of_nonpos_or_empty h)
  · obtain ⟨-, rfl⟩ := apply_eq_ok_iff.1 hv
    refine ⟨_, rfl, ?_, ?_⟩
    · rw [← cast_times, Int.toNat_natCast, copies_eq_join]
    · rw [utf8ByteSize_copies, ← cast_times, Int.natCast_mul]
  · exact apply_of_not_fits fun hfits => h (exists_ok_iff.2 hfits)
  · intro a b c ha hb hc v hv
    obtain ⟨hfits, rfl⟩ := apply_eq_ok_iff.1 hv
    have htimes : times c = times a + times b := by
      have ha' := times_of_nonneg ha
      have hb' := times_of_nonneg hb
      have hc' := cast_times c
      omega
    have hfa : Fits s a := hfits.mono (by omega)
    have hfb : Fits s b := hfits.mono (by omega)
    refine ⟨_, _, apply_of_fits hfa, apply_of_fits hfb, ?_⟩
    rw [htimes, copies_add]
    rfl

/-- The largest count for a letter of two bytes, in two parts, and the next one; a count below zero,
and the largest count of all for the empty string. -/
theorem repetition_is_bounded_accented :
    (∃ v x y, apply .mul (string "é") (int 8388608) = .ok v ∧
      apply .mul (string "é") (int 8388600) = .ok x ∧ apply .mul (string "é") (int 8) = .ok y ∧
      apply .add x y = .ok v ∧ ∃ t, v = string t ∧ (t.utf8ByteSize : ℤ) = 2 ^ 24) ∧
    apply .mul (string "é") (int 8388609) = .error (.repetitionTooLarge 8388609) ∧
    (∃ v, apply .mul (string "é") (int Int64.minValue) = .ok v) ∧
    ∃ v, apply .mul (string "") (int Int64.maxValue) = .ok v := by
  obtain ⟨hcounts, hsums⟩ := repetition_is_bounded "é"
  obtain ⟨hmost, -, hcopies, -⟩ := hcounts 8388608
  obtain ⟨hnext, -, -, hlong⟩ := hcounts 8388609
  obtain ⟨-, hleast, -, -⟩ := hcounts Int64.minValue
  obtain ⟨-, hempty, -, -⟩ := (repetition_is_bounded "").1 Int64.maxValue
  refine ⟨?_, hlong ?_, hleast (.inl (by decide)), hempty (.inr rfl)⟩
  · obtain ⟨v, hv⟩ := hmost.2 (by decide)
    obtain ⟨x, y, hx, hy, hsum⟩ := hsums 8388600 8 8388608 (by decide) (by decide) (by decide) v hv
    obtain ⟨t, ht, -, hbytes⟩ := hcopies v hv
    exact ⟨v, x, y, hv, hx, hy, hsum, t, ht, hbytes.trans (by decide)⟩
  · rw [hnext]
    decide

end Value

end Imperative
