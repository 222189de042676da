import Mathlib.Data.List.Induction
import Mathlib.Data.List.TakeWhile
import Mathlib.Data.Nat.Digits.Defs
import Imperative.Decimal.Numeral

/-!
What is read as a number.

Texts that are not in ASCII are not. Digits with or without a sign are, as an int if they are within
range, and digits with a point before, after or among them are as a float.
-/

namespace Imperative.Decimal

/-- Every character is in ASCII. -/
def Ascii (cs : List Char) : Prop := ∀ c ∈ cs, c.toNat < 128

instance (cs : List Char) : Decidable (Ascii cs) :=
  List.decidableBAll (fun c : Char => c.toNat < 128) cs

variable {c : Char} {cs ds es : List Char}

lemma ascii_append : Ascii (ds ++ es) ↔ Ascii ds ∧ Ascii es := List.forall_mem_append

lemma ascii_cons : Ascii (c :: cs) ↔ c.toNat < 128 ∧ Ascii cs := List.forall_mem_cons

lemma ascii_of_isDigit (h : ∀ c ∈ cs, c.isDigit = true) : Ascii cs := by
  intro c hc
  have hdigit := Char.isDigit_iff_toNat.1 (h c hc)
  exact Nat.lt_of_le_of_lt hdigit.2 (by decide)

/-! ### Only ASCII is read -/

lemma ascii_of_splitSign (h : Ascii (splitSign cs).2) : Ascii cs := by
  unfold splitSign at h
  split at h
  · exact ascii_cons.2 ⟨by decide, h⟩
  · exact ascii_cons.2 ⟨by decide, h⟩
  · exact h

lemma ascii_of_readInt {i : Int} (h : readInt cs = some i) : Ascii cs := by
  apply ascii_of_splitSign
  unfold readInt at h
  split at h
  next negative ds hsign =>
  split at h
  · next hds =>
    rw [hsign]
    exact ascii_of_isDigit (List.all_eq_true.1 hds.2)
  · cases h

lemma ascii_of_readExponent {e : Int} (h : readExponent cs = some e) : Ascii cs := by
  cases cs with
  | nil => exact List.forall_mem_nil _
  | cons c rest =>
    rw [readExponent] at h
    split at h
    · next hc =>
      refine ascii_cons.2 ⟨?_, ascii_of_readInt h⟩
      rcases hc with rfl | rfl <;> decide
    · cases h

/-- A run of digits at the start is in ASCII. -/
lemma ascii_of_dropWhile (h : Ascii (cs.dropWhile Char.isDigit)) : Ascii cs := by
  rw [← List.takeWhile_append_dropWhile (p := Char.isDigit) (l := cs), ascii_append]
  exact ⟨ascii_of_isDigit fun c hc => List.mem_takeWhile_imp hc, h⟩

lemma ascii_of_splitFraction (h : Ascii (splitFraction cs).2) : Ascii cs := by
  unfold splitFraction at h
  split at h
  · exact ascii_cons.2 ⟨by decide, ascii_of_dropWhile h⟩
  · exact h

lemma ascii_of_read {n : Numeral} (h : Numeral.read cs = some n) : Ascii cs := by
  apply ascii_of_dropWhile
  apply ascii_of_splitFraction
  unfold Numeral.read at h
  simp only at h
  split at h
  · cases h
  · obtain ⟨e, he, -⟩ := Option.map_eq_some_iff.1 h
    exact ascii_of_readExponent he

/-- Only capital letters change, and they are in ASCII as well. -/
lemma ascii_of_map_toLower (h : Ascii (cs.map Char.toLower)) : Ascii cs := by
  intro c hc
  have hlower : c.toLower.toNat < 128 := h _ (List.mem_map_of_mem hc)
  unfold Char.toLower at hlower
  split at hlower
  · next hcapital =>
    have hle : c.toNat ≤ 'Z'.toNat := UInt32.le_iff_toNat_le.1 hcapital.2
    exact Nat.lt_of_le_of_lt hle (by decide)
  · exact hlower

lemma ascii_of_readMagnitude {x : Float} (h : readMagnitude cs = some x) : Ascii cs := by
  unfold readMagnitude at h
  simp only at h
  split at h
  · next hword =>
    apply ascii_of_map_toLower
    rcases hword with hword | hword <;> rw [hword] <;> decide
  · split at h
    · next hword =>
      apply ascii_of_map_toLower
      rw [hword]
      decide
    · obtain ⟨n, hn, -⟩ := Option.map_eq_some_iff.1 h
      exact ascii_of_read hn

lemma ascii_of_readFloat {x : Float} (h : readFloat cs = some x) : Ascii cs := by
  apply ascii_of_splitSign
  unfold readFloat at h
  obtain ⟨y, hy, -⟩ := Option.map_eq_some_iff.1 h
  exact ascii_of_readMagnitude hy

/-! ### Digits are read -/

lemma splitSign_of_isDigit (h : c.isDigit = true) (cs : List Char) :
    splitSign (c :: cs) = (false, c :: cs) := by
  have hminus : c ≠ '-' := by rintro rfl; cases h
  have hplus : c ≠ '+' := by rintro rfl; cases h
  unfold splitSign
  split <;> simp_all

/-- The number that digits denote in base ten. -/
lemma ofDigits_eq (ds : List Char) :
    ofDigits ds = Nat.ofDigits 10 (ds.reverse.map fun c => c.toNat - '0'.toNat) := by
  induction ds using List.reverseRecOn with
  | nil => rfl
  | append_singleton ds c ih =>
    rw [ofDigits, Nat.ofDigitChars_append, Nat.ofDigitChars_cons, Nat.ofDigitChars_nil, ← ofDigits,
      ih, List.reverse_concat, List.map_cons, Nat.ofDigits_cons, Nat.add_comm]

lemma readInt_digits (hne : ds ≠ []) (hds : ∀ c ∈ ds, c.isDigit = true) :
    readInt ds = some (ofDigits ds : Int) := by
  obtain ⟨c, cs, rfl⟩ := List.exists_cons_of_ne_nil hne
  have hsign := splitSign_of_isDigit (hds c List.mem_cons_self) cs
  simp only [readInt, hsign]
  rw [if_pos ⟨hne, List.all_eq_true.2 hds⟩]
  rfl

lemma readInt64_digits (hne : ds ≠ []) (hds : ∀ c ∈ ds, c.isDigit = true) :
    readInt64 ds = if ofDigits ds < 2 ^ 63 then some (Int64.ofInt (ofDigits ds)) else none := by
  have hrange : (-2 ^ 63 ≤ (ofDigits ds : Int) ∧ (ofDigits ds : Int) ≤ 2 ^ 63 - 1) ↔
      ofDigits ds < 2 ^ 63 := by omega
  simp only [readInt64, readInt_digits hne hds, Int64.toInt_minValue, Int64.toInt_maxValue, hrange]

lemma read_pointed (hne : ds ++ es ≠ []) (hds : ∀ c ∈ ds, c.isDigit = true)
    (hes : ∀ c ∈ es, c.isDigit = true) :
    Numeral.read (ds ++ '.' :: es) = some ⟨ds, es, 0⟩ := by
  have hwhole : (ds ++ '.' :: es).takeWhile Char.isDigit = ds := by
    rw [List.takeWhile_append_of_pos hds, List.takeWhile_cons_of_neg (by decide), List.append_nil]
  have hrest : (ds ++ '.' :: es).dropWhile Char.isDigit = '.' :: es := by
    rw [List.dropWhile_append_of_pos hds, List.dropWhile_cons_of_neg (by decide)]
  have hfraction : splitFraction ('.' :: es) = (es, []) := by
    rw [splitFraction, List.takeWhile_eq_self_iff.2 hes, List.dropWhile_eq_nil_iff.2 hes]
  have hdigits : ¬(ds = [] ∧ es = []) := by simpa using hne
  simp only [Numeral.read, hwhole, hrest, hfraction, if_neg hdigits, readExponent, Option.map_some]

lemma readMagnitude_of_point (h : '.' ∈ cs) :
    readMagnitude cs = (Numeral.read cs).map Numeral.toFloat := by
  have hpoint : '.' ∈ cs.map Char.toLower := List.mem_map.2 ⟨'.', h, rfl⟩
  have hword (word : List Char) (hw : '.' ∉ word) : cs.map Char.toLower ≠ word :=
    fun heq => hw (heq ▸ hpoint)
  have hinf := hword "inf".toList (by decide)
  have hinfinity := hword "infinity".toList (by decide)
  have hnan := hword "nan".toList (by decide)
  simp only [readMagnitude, hinf, hinfinity, hnan, or_self, if_false]

lemma readFloat_pointed (hne : ds ++ es ≠ []) (hds : ∀ c ∈ ds, c.isDigit = true)
    (hes : ∀ c ∈ es, c.isDigit = true) :
    readFloat (ds ++ '.' :: es) = some (Numeral.toFloat ⟨ds, es, 0⟩) := by
  have hsign : splitSign (ds ++ '.' :: es) = (false, ds ++ '.' :: es) := by
    cases ds with
    | nil => rfl
    | cons d ds => exact splitSign_of_isDigit (hds d List.mem_cons_self) _
  have hread : readMagnitude (ds ++ '.' :: es) = some (Numeral.toFloat ⟨ds, es, 0⟩) := by
    rw [readMagnitude_of_point (by simp), read_pointed hne hds hes, Option.map_some]
  simp only [readFloat, hsign, hread]
  rfl

/-! ### Integers are read as they are spelled -/

/-- One or more digits of ASCII. -/
def Whole (ds : List Char) : Prop := ds ≠ [] ∧ ∀ c ∈ ds, c.isDigit = true

/-- The number that digits denote in base ten, the last one having the least weight. -/
def wholeValue (ds : List Char) : ℕ := Nat.ofDigits 10 (ds.reverse.map fun c => c.toNat - '0'.toNat)

/-- The text is digits, with a sign or without one, and the integer is what they denote. -/
inductive Spells : List Char → ℤ → Prop
  | unsigned {ds : List Char} : Whole ds → Spells ds (wholeValue ds)
  | plus {ds : List Char} : Whole ds → Spells ('+' :: ds) (wholeValue ds)
  | minus {ds : List Char} : Whole ds → Spells ('-' :: ds) (-wholeValue ds)

variable {i : ℤ} {n : Int64}

lemma readInt_of_splitSign {negative : Bool} (hsign : splitSign cs = (negative, ds))
    (h : Whole ds) : readInt cs = some (signed negative (wholeValue ds)) := by
  have hds : ds ≠ [] ∧ ds.all Char.isDigit = true := ⟨h.1, List.all_eq_true.2 h.2⟩
  simp only [readInt, hsign]
  rw [if_pos hds, ofDigits_eq]
  rfl

/-- **An integer is read exactly if the text spells it.** -/
theorem readInt_eq_some_iff : readInt cs = some i ↔ Spells cs i := by
  constructor
  · intro h
    -- The sign that was taken off, if any, tells how the integer is spelled.
    rcases hsign : splitSign cs with ⟨negative, ds⟩
    simp only [readInt, hsign] at h
    split at h
    · next hds =>
      have hwhole : Whole ds := ⟨hds.1, List.all_eq_true.1 hds.2⟩
      cases h
      rw [ofDigits_eq]
      unfold splitSign at hsign
      split at hsign <;> cases hsign
      · exact .minus hwhole
      · exact .plus hwhole
      · exact .unsigned hwhole
    · cases h
  · intro h
    cases h with
    | unsigned h =>
      rw [readInt_digits h.1 h.2, ofDigits_eq]
      rfl
    | plus h => exact readInt_of_splitSign rfl h
    | minus h => exact readInt_of_splitSign rfl h

lemma spells_unique {j : ℤ} (hi : Spells cs i) (hj : Spells cs j) : i = j := by
  rw [← readInt_eq_some_iff] at hi hj
  exact Option.some_inj.1 (hi.symm.trans hj)

/-- **A word is read exactly if the text spells its integer.** -/
theorem readInt64_eq_some_iff : readInt64 cs = some n ↔ Spells cs n.toInt := by
  rw [← readInt_eq_some_iff]
  constructor
  · intro h
    unfold readInt64 at h
    split at h
    · next i hi =>
      split at h
      · next hrange =>
        cases h
        have hmin := Int64.toInt_minValue
        have hmax := Int64.toInt_maxValue
        rw [hi, Int64.toInt_ofInt_of_le (by omega) (by omega)]
      · cases h
    · cases h
  · intro h
    have hrange : Int64.minValue.toInt ≤ n.toInt ∧ n.toInt ≤ Int64.maxValue.toInt :=
      ⟨n.minValue_le_toInt, n.toInt_le⟩
    simp only [readInt64, h]
    rw [if_pos hrange, Int64.ofInt_toInt]

lemma whole_natDigits (n : ℕ) : Whole (natDigits n) :=
  ⟨Nat.toDigits_ne_nil, fun _ hc => Nat.isDigit_of_mem_toDigits (by decide) (by decide) hc⟩

/-- What an integer is written as spells it. -/
lemma spells_intDigits (i : ℤ) : Spells (intDigits i) i := by
  have hwhole := whole_natDigits i.natAbs
  have hvalue : wholeValue (natDigits i.natAbs) = i.natAbs := by
    rw [wholeValue, ← ofDigits_eq, ofDigits_natDigits]
  unfold intDigits
  split
  · next hneg =>
    have h := Spells.minus hwhole
    rw [hvalue] at h
    rwa [show -(i.natAbs : ℤ) = i by omega] at h
  · next hnonneg =>
    have h := Spells.unsigned hwhole
    rw [hvalue] at h
    rwa [show (i.natAbs : ℤ) = i by omega] at h

end Imperative.Decimal
