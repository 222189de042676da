import Mathlib.Data.String.Basic

/-!
The order of strings, by code points and by bytes.

Code points and their encodings in UTF-8 are in the same order, so it makes no difference whether
texts are compared character by character or byte by byte.
-/

namespace Imperative.Text

open String (utf8EncodeChar)

/-- The bytes that a string is stored in. -/
def bytes (s : String) : List UInt8 := s.toByteArray.data.toList

lemma bytes_eq (s : String) : bytes s = s.toList.flatMap utf8EncodeChar := by
  rw [bytes, ← String.utf8Encode_toList, List.utf8Encode, List.data_toByteArray]

/-! ### One character -/

lemma ofNat_lt_ofNat {m n : ℕ} (hm : m < 256) (hn : n < 256) :
    UInt8.ofNat m < UInt8.ofNat n ↔ m < n := by
  rw [UInt8.lt_iff_toNat_lt, UInt8.toNat_ofNat', UInt8.toNat_ofNat', Nat.mod_eq_of_lt hm,
    Nat.mod_eq_of_lt hn]

lemma ofNat_eq_ofNat {m n : ℕ} (hm : m < 256) (hn : n < 256) :
    UInt8.ofNat m = UInt8.ofNat n ↔ m = n := by
  rw [← UInt8.toNat_inj, UInt8.toNat_ofNat', UInt8.toNat_ofNat', Nat.mod_eq_of_lt hm,
    Nat.mod_eq_of_lt hn]

/-- The bytes of two characters tell them apart before either list of bytes has come to its end. -/
lemma utf8EncodeChar_lt {c d : Char} (h : c < d) (xs ys : List UInt8) :
    utf8EncodeChar c ++ xs < utf8EncodeChar d ++ ys := by
  have hlt : c.toNat < d.toNat := h
  have hd : d.toNat < 0x110000 := by
    rcases d.valid with hd | hd
    · exact Nat.lt_trans hd (by decide)
    · exact hd.2
  -- The bytes hold six bits each, so those of one code point are remainders of repeated division.
  have h12 (n : ℕ) : n / 4096 = n / 64 / 64 := by omega
  have h18 (n : ℕ) : n / 262144 = n / 64 / 64 / 64 := by omega
  unfold utf8EncodeChar
  simp only [Char.toNat_val, h12, h18]
  generalize c.toNat = m at *
  generalize d.toNat = n at *
  split_ifs
  all_goals
    simp (disch := omega) only [List.cons_append, List.nil_append, List.cons_lt_cons_iff,
      ofNat_lt_ofNat, ofNat_eq_ofNat]
    omega

/-! ### Strings -/

lemma flatMap_utf8EncodeChar_lt {xs ys : List Char} (h : xs < ys) :
    xs.flatMap utf8EncodeChar < ys.flatMap utf8EncodeChar := by
  induction xs generalizing ys with
  | nil =>
    cases ys with
    | nil => cases h
    | cons d ys =>
      have hd : (d :: ys).flatMap utf8EncodeChar ≠ [] := by simp
      obtain ⟨b, bs, hbytes⟩ := List.exists_cons_of_ne_nil hd
      rw [hbytes]
      exact List.nil_lt_cons b bs
  | cons c xs ih =>
    cases ys with
    | nil => cases h
    | cons d ys =>
      rw [List.flatMap_cons, List.flatMap_cons]
      rcases List.cons_lt_cons_iff.1 h with hcd | ⟨rfl, hrest⟩
      · exact utf8EncodeChar_lt hcd _ _
      · exact List.append_left_lt (ih hrest)

/-- **Strings are ordered by their bytes.** -/
theorem lt_iff_bytes_lt (s t : String) : s < t ↔ bytes s < bytes t := by
  have hlt {s t : String} (h : s < t) : bytes s < bytes t := by
    rw [bytes_eq, bytes_eq]
    exact flatMap_utf8EncodeChar_lt (String.lt_iff_toList_lt.1 h)
  refine ⟨hlt, fun h => ?_⟩
  rcases lt_trichotomy s t with hst | rfl | hts
  · exact hst
  · exact absurd h (List.lt_irrefl _)
  · exact absurd h (List.lt_asymm (hlt hts))

end Imperative.Text
