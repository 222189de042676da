import Imperative.Proofs.Token.Pattern

/-!
Which tokens are constants, and of which kind.

The tests on tokens decide the patterns of the kinds, and each pattern comes to a condition on the
text that can be read off it. No text meets two of the conditions, so the tests could be made in any
order.
-/

namespace Imperative

namespace Token

open Text
open scoped Computability

/-- Decimal digits of any script. -/
def Digits (cs : List Char) : Prop := ∀ c ∈ cs, isDecimalDigit c = true

/-- What a constant of the kind looks like. -/
def Written : LiteralKind → List Char → Prop
  | .int, cs => cs ≠ [] ∧ Digits cs
  | .float, cs => (∃ ds es, ds ≠ [] ∧ Digits ds ∧ Digits es ∧ cs = ds ++ '.' :: es) ∨
      ∃ es, es ≠ [] ∧ Digits es ∧ cs = '.' :: es
  | .string, cs => 2 ≤ cs.length ∧ cs.head? = some '"' ∧ cs.getLast? = some '"' ∧ '\n' ∉ cs ∧
      Even (cs.dropLast.rtakeWhile (· = '\\')).length

variable {k : LiteralKind} {cs : List Char}

/-! ### The patterns -/

lemma mem_kstar_digit : cs ∈ digit∗ ↔ Digits cs := mem_kstar_one

lemma mem_plus_digit : cs ∈ digit * digit∗ ↔ cs ≠ [] ∧ Digits cs := mem_plus_one

lemma mem_pattern_float : cs ∈ pattern .float ↔ Written .float cs := by
  constructor
  · rintro (h | h)
    · obtain ⟨_, hdigits, es, hes, rfl⟩ := Language.mem_mul.1 h
      obtain ⟨ds, _, hds, rfl, rfl⟩ := mem_mul_one.1 hdigits
      obtain ⟨hne, hds⟩ := mem_plus_digit.1 hds
      exact .inl ⟨ds, es, hne, hds, mem_kstar_digit.1 hes, by simp⟩
    · obtain ⟨_, es, rfl, hes, rfl⟩ := mem_one_mul.1 h
      obtain ⟨hne, hes⟩ := mem_plus_digit.1 hes
      exact .inr ⟨es, hne, hes, rfl⟩
  · rintro (⟨ds, es, hne, hds, hes, rfl⟩ | ⟨es, hne, hes, rfl⟩)
    · have hpoint : ds ++ ['.'] ∈ digit * digit∗ * one (· = '.') :=
        mem_mul_one.2 ⟨ds, '.', mem_plus_digit.2 ⟨hne, hds⟩, rfl, rfl⟩
      exact .inl (Language.mem_mul.2 ⟨_, hpoint, es, mem_kstar_digit.2 hes, by simp⟩)
    · exact .inr (mem_one_mul.2 ⟨'.', es, rfl, mem_plus_digit.2 ⟨hne, hes⟩, rfl⟩)

lemma mem_pattern_string :
    cs ∈ pattern .string ↔ ∃ inner ∈ unit∗, cs = '"' :: inner ++ ['"'] := by
  constructor
  · intro h
    obtain ⟨_, _, hopened, rfl, rfl⟩ := mem_mul_one.1 h
    obtain ⟨_, inner, rfl, hinner, rfl⟩ := mem_one_mul.1 hopened
    exact ⟨inner, hinner, rfl⟩
  · rintro ⟨inner, hinner, rfl⟩
    exact mem_mul_one.2 ⟨'"' :: inner, '"', mem_one_mul.2 ⟨'"', inner, rfl, hinner, rfl⟩, rfl, rfl⟩

/-- The run of backslashes before the closing quote tells whether it closes. -/
lemma even_run_iff (inner : List Char) :
    Even (('"' :: inner).rtakeWhile (· = '\\')).length ↔ pending inner = false := by
  rw [← pending_cons (by decide : '"' ≠ '\\') inner, ← Nat.not_odd_iff_even, ← pending_iff_odd,
    Bool.not_eq_true]

lemma written_string_iff :
    Written .string cs ↔ ∃ inner ∈ unit∗, cs = '"' :: inner ++ ['"'] := by
  constructor
  · rintro ⟨hlength, hhead, hlast, hfeed, heven⟩
    obtain ⟨ys, rfl⟩ := List.getLast?_eq_some_iff.1 hlast
    cases ys with
    | nil => simp at hlength
    | cons c inner =>
      obtain rfl : c = '"' := by simpa using hhead
      rw [List.dropLast_concat, even_run_iff] at heven
      simp only [List.cons_append, List.mem_cons, List.mem_append, not_or] at hfeed
      exact ⟨inner, mem_kstar_unit.2 ⟨hfeed.2.1, heven⟩, rfl⟩
  · rintro ⟨inner, hinner, rfl⟩
    obtain ⟨hfeed, hpending⟩ := mem_kstar_unit.1 hinner
    refine ⟨by simp, rfl, List.getLast?_concat, by simp [hfeed], ?_⟩
    rwa [List.dropLast_concat, even_run_iff]

/-- **The patterns, read off the text.** -/
theorem mem_pattern_iff : cs ∈ pattern k ↔ Written k cs := by
  cases k with
  | int => exact mem_plus_digit
  | float => exact mem_pattern_float
  | string => rw [mem_pattern_string, written_string_iff]

/-! ### The tests -/

lemma isWhole_iff : isWhole cs = true ↔ Written .int cs := by
  simp [isWhole, Written, Digits]

lemma isPointed_iff : isPointed cs = true ↔ ∃ ds es, cs = ds ++ '.' :: es ∧ ds ++ es ≠ [] ∧
    Digits ds ∧ Digits es := by
  constructor
  · intro h
    unfold isPointed at h
    split at h
    · next rest hrest =>
      have hsplit := List.takeWhile_append_dropWhile (p := isDecimalDigit) (l := cs)
      rw [hrest] at hsplit
      simp only [Bool.and_eq_true, List.all_eq_true, Bool.not_eq_true',
        List.isEmpty_eq_false_iff] at h
      exact ⟨_, rest, hsplit.symm, h.2, fun c hc => List.mem_takeWhile_imp hc, h.1⟩
    · cases h
  · rintro ⟨ds, es, rfl, hne, hds, hes⟩
    have hdrop : (ds ++ '.' :: es).dropWhile isDecimalDigit = '.' :: es := by
      rw [List.dropWhile_append_of_pos hds, List.dropWhile_cons_of_neg (by decide)]
    have htake : (ds ++ '.' :: es).takeWhile isDecimalDigit = ds := by
      rw [List.takeWhile_append_of_pos hds, List.takeWhile_cons_of_neg (by decide),
        List.append_nil]
    have hdigits : es.all isDecimalDigit = true := List.all_eq_true.2 hes
    simpa [isPointed, hdrop, htake, hdigits] using hne

/-- After the opening quote come units and the closing quote. -/
lemma closes_iff : closes cs = true ↔ ∃ inner ∈ unit∗, cs = inner ++ ['"'] := by
  fun_induction closes cs with
  | case1 => exact ⟨fun _ => ⟨[], Language.nil_mem_kstar unit, rfl⟩, fun _ => rfl⟩
  | case2 c rest ih =>
    rw [Bool.and_eq_true, bne_iff_ne, ih]
    constructor
    · rintro ⟨hc, inner, hinner, rfl⟩
      exact ⟨'\\' :: c :: inner, pair_mem_kstar_unit.2 ⟨hc, hinner⟩, rfl⟩
    · rintro ⟨_ | ⟨b, _ | ⟨d, inner⟩⟩, hinner, heq⟩ <;> cases heq
      · exact absurd (mem_kstar_unit.1 hinner).2 (by decide)
      · obtain ⟨hc, hinner⟩ := pair_mem_kstar_unit.1 hinner
        exact ⟨hc, inner, hinner, rfl⟩
  | case3 c rest hlast hslash ih =>
    rw [Bool.and_eq_true, Bool.and_eq_true, bne_iff_ne, bne_iff_ne, ih]
    constructor
    · rintro ⟨⟨hc, hfeed⟩, inner, hinner, rfl⟩
      exact ⟨c :: inner, (cons_mem_kstar_unit hc).2 ⟨hfeed, hinner⟩, rfl⟩
    · rintro ⟨_ | ⟨d, inner⟩, hinner, heq⟩ <;> cases heq
      · exact (hlast rfl rfl).elim
      · have hc : c ≠ '\\' := by
          rintro rfl
          obtain ⟨d, rest, hrest⟩ := List.exists_cons_of_ne_nil (l := inner ++ ['"']) (by simp)
          exact hslash d rest rfl hrest
        obtain ⟨hfeed, hinner⟩ := (cons_mem_kstar_unit hc).1 hinner
        exact ⟨⟨hc, hfeed⟩, inner, hinner, rfl⟩
  | case4 => simp

/-- The test for the kind. -/
def fits : LiteralKind → List Char → Bool
  | .int => isWhole
  | .float => isPointed
  | .string => isQuoted

/-- **The tests decide what is written.** -/
theorem fits_iff : fits k cs = true ↔ Written k cs := by
  cases k with
  | int => exact isWhole_iff
  | float =>
    rw [fits, isPointed_iff]
    constructor
    · rintro ⟨ds, es, rfl, hne, hds, hes⟩
      cases ds with
      | nil => exact .inr ⟨es, hne, hes, rfl⟩
      | cons d ds => exact .inl ⟨d :: ds, es, List.cons_ne_nil d ds, hds, hes, rfl⟩
    · rintro (⟨ds, es, hne, hds, hes, rfl⟩ | ⟨es, hne, hes, rfl⟩)
      · exact ⟨ds, es, rfl, by simp [hne], hds, hes⟩
      · exact ⟨[], es, rfl, hne, by simp [Digits], hes⟩
  | string =>
    rw [written_string_iff, fits]
    unfold isQuoted
    split
    · next rest =>
      rw [closes_iff]
      simp
    · next hquote =>
      simp only [Bool.false_eq_true, false_iff]
      rintro ⟨inner, -, rfl⟩
      exact hquote _ rfl

/-! ### One kind at most -/

lemma Digits.not_mem {c : Char} (h : Digits cs) (hc : isDecimalDigit c = false) : c ∉ cs :=
  fun hmem => by simp [h c hmem] at hc

/-- The characters in a constant tell its kind. -/
lemma kind_of_written (h : Written k cs) :
    k = if '"' ∈ cs then .string else if '.' ∈ cs then .float else .int := by
  have hquote {ds : List Char} (hds : Digits ds) : '"' ∉ ds := hds.not_mem (by decide)
  cases k with
  | int => rw [if_neg (hquote h.2), if_neg (h.2.not_mem (by decide))]
  | float =>
    rcases h with ⟨ds, es, -, hds, hes, rfl⟩ | ⟨es, -, hes, rfl⟩
    · rw [if_neg (by simp [hquote hds, hquote hes]), if_pos (by simp)]
    · rw [if_neg (by simp [hquote hes]), if_pos (by simp)]
  | string => rw [if_pos (List.mem_of_mem_head? h.2.1)]

lemma written_unique {j : LiteralKind} (hj : Written j cs) (hk : Written k cs) : j = k :=
  (kind_of_written hj).trans (kind_of_written hk).symm

/-- Where one test succeeds at most, the first that succeeds is the same in any order. -/
lemma find?_fits_eq_some_iff {kinds : List LiteralKind} (hall : ∀ j, j ∈ kinds) :
    kinds.find? (fits · cs) = some k ↔ Written k cs := by
  have hsound {j : LiteralKind} (h : kinds.find? (fits · cs) = some j) : Written j cs := by
    have hfits := List.find?_some h
    exact fits_iff.1 hfits
  refine ⟨hsound, fun h => ?_⟩
  cases hfind : kinds.find? (fits · cs) with
  | none => exact absurd (fits_iff.2 h) (List.find?_eq_none.1 hfind k (hall k))
  | some j => rw [written_unique (hsound hfind) h]

lemma ofToken?_eq_find? (cs : List Char) :
    LiteralKind.ofToken? cs = [LiteralKind.float, .int, .string].find? (fits · cs) := by
  unfold LiteralKind.ofToken?
  simp only [List.find?_cons, fits]
  cases isPointed cs <;> cases isWhole cs <;> cases isQuoted cs <;> rfl

lemma ofToken?_eq_some_iff : LiteralKind.ofToken? cs = some k ↔ Written k cs := by
  rw [ofToken?_eq_find?]
  exact find?_fits_eq_some_iff fun j => by cases j <;> decide

end Token

open Token in
/-- **Tokens are classified by their grammar.** A token is a constant of a kind exactly if it is
written like one, which is to say that it is in the pattern of the kind; it is of one kind at most,
so any list of all kinds may be gone through for the first one that fits. -/
theorem tokens_are_classified (text : String) (line : Nat) :
    (∀ k, Literal.ofToken? text line = some ⟨k, text, line⟩ ↔ Written k text.toList) ∧
    (Literal.ofToken? text line = none ↔ ∀ k, ¬Written k text.toList) ∧
    (∀ k, Written k text.toList ↔ text.toList ∈ pattern k) ∧
    (∀ j k, Written j text.toList → Written k text.toList → j = k) ∧
    ∀ kinds : List LiteralKind, (∀ k, k ∈ kinds) → Literal.ofToken? text line =
      (kinds.find? (fits · text.toList)).map fun kind => ⟨kind, text, line⟩ := by
  refine ⟨fun k => ?_, ?_, fun k => mem_pattern_iff.symm, fun j k => written_unique,
    fun kinds hall => ?_⟩
  · simp [Literal.ofToken?, ← ofToken?_eq_some_iff]
  · simp [Literal.ofToken?, ← ofToken?_eq_some_iff, Option.eq_none_iff_forall_ne_some]
  · have hsame : LiteralKind.ofToken? text.toList = kinds.find? (fits · text.toList) := by
      refine Option.ext fun k => ?_
      rw [ofToken?_eq_some_iff, find?_fits_eq_some_iff hall]
    rw [Literal.ofToken?, hsame]

open Token in
/-- Two backslashes before the last quote let it close, and one does not. A float in another script
is told with the test for floats made last. -/
theorem tokens_are_classified_escaped :
    Literal.ofToken? "\"a\"\\\\\"" 1 = some ⟨.string, "\"a\"\\\\\"", 1⟩ ∧
    (∀ k, Written k "\"a\"\\\\\"".toList → k = .string) ∧
    Literal.ofToken? "\"a\"\\\"" 1 = none ∧
    Literal.ofToken? "५." 1 = ([.string, .int, .float].find? (fits · "५.".toList)).map
      fun kind => ⟨kind, "५.", 1⟩ := by
  obtain ⟨hsome, -, -, hunique, -⟩ := tokens_are_classified "\"a\"\\\\\"" 1
  obtain ⟨-, hnone, -, -, -⟩ := tokens_are_classified "\"a\"\\\"" 1
  obtain ⟨-, -, -, -, horder⟩ := tokens_are_classified "५." 1
  have hwritten : Written .string "\"a\"\\\\\"".toList :=
    ⟨by decide, by decide, by decide, by decide, by decide⟩
  refine ⟨(hsome .string).2 hwritten, fun k hk => hunique k .string hk hwritten,
    hnone.2 fun k hk => ?_, horder _ fun k => ?_⟩
  · have hfits := fits_iff.2 hk
    cases k <;> exact absurd hfits (by decide)
  · cases k <;> decide

end Imperative
