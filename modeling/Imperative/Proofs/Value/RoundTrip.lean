import Imperative.Proofs.Token.Decoding

/-!
Values that are shown and read back.

An int is read from every text that spells it, the one it is shown as among these, and a string from
itself in quotes. No other texts are read as ints or strings.
-/

namespace Imperative

namespace Value

open Decimal

variable {kind : LiteralKind} {text : String} {line : ℕ} {v : Value}

lemma ofLiteral_eq_ok_iff : ofLiteral ⟨kind, text, line⟩ = .ok v ↔ read? kind text = some v := by
  unfold ofLiteral
  cases read? kind text <;> simp

/-- What is not read is refused with its text. -/
lemma ofLiteral_refused (h : ∀ v, ofLiteral ⟨kind, text, line⟩ ≠ .ok v) :
    ofLiteral ⟨kind, text, line⟩ = .error (.invalidLiteral text) := by
  cases hread : read? kind text with
  | none => exact Token.ofLiteral_of_none hread
  | some v => exact absurd (ofLiteral_eq_ok_iff.2 hread) (h v)

lemma ofLiteral_int_iff : ofLiteral ⟨.int, text, line⟩ = .ok v ↔
    ∃ n : Int64, Spells text.toList n.toInt ∧ v = int n := by
  rw [ofLiteral_eq_ok_iff, read?, Option.map_eq_some_iff]
  simp only [readInt64_eq_some_iff, eq_comm (a := v)]

lemma ofLiteral_string_iff : ofLiteral ⟨.string, text, line⟩ = .ok v ↔
    ∃ s, text = "\"" ++ s ++ "\"" ∧ v = string s := by
  rw [ofLiteral_eq_ok_iff, read?, Option.map_eq_some_iff]
  constructor
  · rintro ⟨inner, hinner, rfl⟩
    refine ⟨String.ofList inner, ?_, rfl⟩
    rw [← String.toList_inj, unquoted_eq_some_iff.1 hinner]
    simp
  · rintro ⟨s, rfl, rfl⟩
    refine ⟨s.toList, unquoted_eq_some_iff.2 (by simp), ?_⟩
    rw [String.ofList_toList]

/-- **What is shown is read back.** An int is read from the text that it is shown as, and from every
other one that spells it, with a plus sign or with zeros in front; a text that spells an integer out
of range is refused. A string is read from itself in quotes, whatever it holds. Nothing else is read
as an int or a string. -/
theorem shown_values_are_read :
    (∀ n line, ofLiteral ⟨.int, (int n).text, line⟩ = .ok (int n)) ∧
    (∀ text line i, Spells text.toList i →
      (Int64.minValue.toInt ≤ i ∧ i ≤ Int64.maxValue.toInt →
        ∃ n, ofLiteral ⟨.int, text, line⟩ = .ok (int n) ∧ n.toInt = i) ∧
      (¬(Int64.minValue.toInt ≤ i ∧ i ≤ Int64.maxValue.toInt) →
        ofLiteral ⟨.int, text, line⟩ = .error (.invalidLiteral text))) ∧
    (∀ s line, ofLiteral ⟨.string, "\"" ++ s ++ "\"", line⟩ = .ok (string s)) ∧
    (∀ text line v, ofLiteral ⟨.int, text, line⟩ = .ok v →
      ∃ n : Int64, Spells text.toList n.toInt ∧ v = int n) ∧
    ∀ text line v, ofLiteral ⟨.string, text, line⟩ = .ok v →
      ∃ s, text = "\"" ++ s ++ "\"" ∧ v = string s := by
  refine ⟨fun n line => ?_, fun text line i hi => ⟨fun hrange => ?_, fun hrange => ?_⟩,
    fun s line => ?_, fun _ _ _ => ofLiteral_int_iff.1, fun _ _ _ => ofLiteral_string_iff.1⟩
  · have hspells : Spells (int n).text.toList n.toInt := by
      simpa [Value.text, int64Text] using spells_intDigits n.toInt
    exact ofLiteral_int_iff.2 ⟨n, hspells, rfl⟩
  · have hmin := Int64.toInt_minValue
    have hmax := Int64.toInt_maxValue
    have hword : (Int64.ofInt i).toInt = i := Int64.toInt_ofInt_of_le (by omega) (by omega)
    exact ⟨Int64.ofInt i, ofLiteral_int_iff.2 ⟨_, hword.symm ▸ hi, rfl⟩, hword⟩
  · refine ofLiteral_refused fun v hv => ?_
    obtain ⟨n, hn, -⟩ := ofLiteral_int_iff.1 hv
    rw [spells_unique hi hn] at hrange
    exact hrange ⟨n.minValue_le_toInt, n.toInt_le⟩
  · exact ofLiteral_string_iff.2 ⟨s, rfl, rfl⟩

/-- The least int, the same with a zero in front, and the next integer below it, which is no int; a
string of one quote and a backslash. -/
theorem shown_values_are_read_least :
    ofLiteral ⟨.int, (int Int64.minValue).text, 1⟩ = .ok (int Int64.minValue) ∧
    (∃ n, ofLiteral ⟨.int, "-09223372036854775808", 1⟩ = .ok (int n) ∧ n.toInt = -2 ^ 63) ∧
    ofLiteral ⟨.int, "-9223372036854775809", 1⟩ =
      .error (.invalidLiteral "-9223372036854775809") ∧
    ofLiteral ⟨.string, "\"\"\\\"", 1⟩ = .ok (string "\"\\") := by
  obtain ⟨hshown, hspelled, hquoted, -, -⟩ := shown_values_are_read
  have hpadded : Whole "09223372036854775808".toList := ⟨by decide, List.all_eq_true.1 rfl⟩
  have hbelow : Whole "9223372036854775809".toList := ⟨by decide, List.all_eq_true.1 rfl⟩
  have hleast : Spells "-09223372036854775808".toList (-2 ^ 63) := .minus hpadded
  have hnone : Spells "-9223372036854775809".toList (-2 ^ 63 - 1) := .minus hbelow
  exact ⟨hshown _ 1, (hspelled _ 1 _ hleast).1 (by decide), (hspelled _ 1 _ hnone).2 (by decide),
    hquoted "\"\\" 1⟩

end Value

end Imperative
