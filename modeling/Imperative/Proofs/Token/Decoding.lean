import Imperative.Proofs.Decimal.Reading
import Imperative.Proofs.Token.Classification
import Imperative.Value.Basic

/-!
What becomes of the constants of a program.

Tokens are classified by the decimal digits of all scripts, and numbers are read by those of ASCII.
So every string is read, and so is every number in ASCII that is within range, and no other one.
-/

namespace Imperative

/-- One quote is taken off at each end. -/
lemma unquoted_eq_some_iff {cs inner : List Char} :
    unquoted cs = some inner ↔ cs = '"' :: inner ++ ['"'] := by
  constructor
  · intro h
    unfold unquoted at h
    split at h
    · next rest =>
      split at h
      · next hlast =>
        cases h
        obtain ⟨ds, rfl⟩ := List.getLast?_eq_some_iff.1 hlast
        simp
      · cases h
    · cases h
  · rintro rfl
    rw [List.cons_append, unquoted, if_pos List.getLast?_concat, List.dropLast_concat]

namespace Token

open Text Decimal

/-- The value of a decimal digit of any script, which is its place in a run of ten. -/
def digitValue (c : Char) : ℕ :=
  match decimalDigitSpans.find? fun s => decide (s.1 ≤ c.toNat ∧ c.toNat ≤ s.2) with
  | some s => (c.toNat - s.1) % 10
  | none => 0

/-- The number that digits denote in base ten. -/
def number (cs : List Char) : ℕ := Nat.ofDigits 10 (cs.reverse.map digitValue)

/-- What a constant stands for: a string for the text between the quotes, a float for some double,
and an int for the number that is written, unless that is out of range. -/
def Denotes (l : Literal) (result : Except Fault Value) : Prop :=
  match l.kind with
  | .string => ∃ s, result = .ok (.string s) ∧ l.text = "\"" ++ s ++ "\""
  | .float => ∃ x, result = .ok (.float x)
  | .int =>
    if number l.text.toList ≤ Int64.maxValue.toInt then
      ∃ n, result = .ok (.int n) ∧ n.toInt = number l.text.toList
    else result = .error (.invalidLiteral l.text)

variable {c : Char} {cs : List Char}

/-! ### Digits in ASCII -/

lemma isDigit_of_ascii (h : isDecimalDigit c = true) (hc : c.toNat < 128) : c.isDigit = true := by
  obtain ⟨span, hspan, hlow, hhigh⟩ := (inSpans_iff _ c).1 h
  have hfirst : ∀ s ∈ decimalDigitSpans, s.1 < 128 → s = (0x30, 0x39) := by decide
  obtain rfl := hfirst span hspan (Nat.lt_of_le_of_lt hlow hc)
  exact Char.isDigit_iff_toNat.2 ⟨hlow, hhigh⟩

lemma digitValue_of_isDigit (h : c.isDigit = true) : digitValue c = c.toNat - '0'.toNat := by
  have hrange : 0x30 ≤ c.toNat ∧ c.toNat ≤ 0x39 := Char.isDigit_iff_toNat.1 h
  have hfind : decimalDigitSpans.find? (fun s => decide (s.1 ≤ c.toNat ∧ c.toNat ≤ s.2)) =
      some (0x30, 0x39) := List.find?_cons_of_pos (decide_eq_true hrange)
  rw [digitValue, hfind]
  change (c.toNat - 0x30) % 10 = c.toNat - 0x30
  omega

lemma number_eq (h : ∀ c ∈ cs, c.isDigit = true) : number cs = ofDigits cs := by
  rw [number, ofDigits_eq]
  congr 1
  exact List.map_congr_left fun c hc => digitValue_of_isDigit (h c (List.mem_reverse.1 hc))

lemma Digits.isDigit (h : Digits cs) (hascii : Ascii cs) : ∀ c ∈ cs, c.isDigit = true :=
  fun c hc => isDigit_of_ascii (h c hc) (hascii c hc)

/-! ### Each kind -/

variable {kind : LiteralKind} {text : String} {line : ℕ} {v : Value}

lemma ofLiteral_of_some (h : Value.read? kind text = some v) :
    Value.ofLiteral ⟨kind, text, line⟩ = .ok v := by
  simp only [Value.ofLiteral, h]

lemma ofLiteral_of_none (h : Value.read? kind text = none) :
    Value.ofLiteral ⟨kind, text, line⟩ = .error (.invalidLiteral text) := by
  simp only [Value.ofLiteral, h]

lemma denotes_string (h : Written .string text.toList) :
    Denotes ⟨.string, text, line⟩ (Value.ofLiteral ⟨.string, text, line⟩) := by
  obtain ⟨inner, -, hinner⟩ := written_string_iff.1 h
  have hunquoted : unquoted text.toList = some inner := unquoted_eq_some_iff.2 hinner
  have hread : Value.read? .string text = some (.string (String.ofList inner)) := by
    rw [Value.read?, hunquoted, Option.map_some]
  have htext : text = "\"" ++ String.ofList inner ++ "\"" := by
    rw [← String.toList_inj, hinner]
    simp
  exact ⟨String.ofList inner, ofLiteral_of_some hread, htext⟩

lemma denotes_float (h : Written .float text.toList) (hascii : Ascii text.toList) :
    Denotes ⟨.float, text, line⟩ (Value.ofLiteral ⟨.float, text, line⟩) := by
  obtain ⟨ds, es, heq, hne, hds, hes⟩ := isPointed_iff.1 (fits_iff.2 h)
  rw [heq, ascii_append, ascii_cons] at hascii
  have hfloat := readFloat_pointed hne (hds.isDigit hascii.1) (hes.isDigit hascii.2.2)
  have hread : Value.read? .float text = some (.float (Numeral.toFloat ⟨ds, es, 0⟩)) := by
    rw [Value.read?, heq, hfloat, Option.map_some]
  exact ⟨_, ofLiteral_of_some hread⟩

lemma denotes_int (h : Written .int text.toList) (hascii : Ascii text.toList) :
    Denotes ⟨.int, text, line⟩ (Value.ofLiteral ⟨.int, text, line⟩) := by
  have hdigits := h.2.isDigit hascii
  have hint := readInt64_digits h.1 hdigits
  have hmax := Int64.toInt_maxValue
  change if (number text.toList : ℤ) ≤ Int64.maxValue.toInt then _ else _
  rw [number_eq hdigits]
  split
  · next hle =>
    have hlt : ofDigits text.toList < 2 ^ 63 := by omega
    have hread : Value.read? .int text = some (.int (Int64.ofInt (ofDigits text.toList))) := by
      rw [Value.read?, hint, if_pos hlt, Option.map_some]
    exact ⟨_, ofLiteral_of_some hread, Int64.toInt_ofInt_of_le (by omega) (by omega)⟩
  · next hgt =>
    have hge : ¬ofDigits text.toList < 2 ^ 63 := by omega
    have hread : Value.read? .int text = none := by
      rw [Value.read?, hint, if_neg hge, Option.map_none]
    exact ofLiteral_of_none hread

/-- A number that is read is in ASCII. -/
lemma ascii_of_read? (hkind : kind ≠ .string) (h : Value.read? kind text = some v) :
    Ascii text.toList := by
  cases kind with
  | int =>
    obtain ⟨n, hn, -⟩ := Option.map_eq_some_iff.1 h
    unfold readInt64 at hn
    split at hn
    · next hread => exact ascii_of_readInt hread
    · cases hn
  | float =>
    obtain ⟨x, hx, -⟩ := Option.map_eq_some_iff.1 h
    exact ascii_of_readFloat hx
  | string => exact absurd rfl hkind

end Token

open Token Decimal

/-- **Constants are read**, unless they are numbers that are not in ASCII: every token that is
classified as a string stands for the text between its quotes, and every one that is classified as
a number and is in ASCII stands for that number, an int only within range. Digits of other scripts
are classified as digits all the same, and a number with one of them is refused. -/
theorem constants_are_read {text : String} {line : ℕ} {l : Literal}
    (h : Literal.ofToken? text line = some l) :
    (l.kind = .string ∨ Ascii text.toList → Denotes l (Value.ofLiteral l)) ∧
    (l.kind ≠ .string ∧ ¬Ascii text.toList →
      Value.ofLiteral l = .error (.invalidLiteral text)) := by
  obtain ⟨kind, hkind, rfl⟩ := Option.map_eq_some_iff.1 h
  have hwritten : Written kind text.toList := ofToken?_eq_some_iff.1 hkind
  constructor
  · intro hascii
    cases kind with
    | int => exact denotes_int hwritten (hascii.resolve_left nofun)
    | float => exact denotes_float hwritten (hascii.resolve_left nofun)
    | string => exact denotes_string hwritten
  · rintro ⟨hnumber, hforeign⟩
    cases hread : Value.read? kind text with
    | none => exact ofLiteral_of_none hread
    | some v => exact absurd (ascii_of_read? hnumber hread) hforeign

/-- Zeros in front and a number one out of range, and a quote behind a backslash; an ASCII digit
does not help a digit of another script. -/
theorem constants_are_read_padded :
    (∃ n, Value.ofLiteral ⟨.int, "007", 1⟩ = .ok (.int n) ∧ n.toInt = 7) ∧
    Value.ofLiteral ⟨.int, "9223372036854775808", 1⟩ =
      .error (.invalidLiteral "9223372036854775808") ∧
    (∃ s, Value.ofLiteral ⟨.string, "\"\\\"\"", 1⟩ = .ok (.string s) ∧
      "\"\\\"\"" = "\"" ++ s ++ "\"") ∧
    Value.ofLiteral ⟨.float, "५.5", 1⟩ = .error (.invalidLiteral "५.5") := by
  have hseven : Literal.ofToken? "007" 1 = some ⟨.int, "007", 1⟩ := by decide
  have hlong : Literal.ofToken? "9223372036854775808" 1 =
      some ⟨.int, "9223372036854775808", 1⟩ := by decide
  have hquoted : Literal.ofToken? "\"\\\"\"" 1 = some ⟨.string, "\"\\\"\"", 1⟩ := by decide
  have hforeign : Literal.ofToken? "५.5" 1 = some ⟨.float, "५.5", 1⟩ := by decide
  have hrange : (number "007".toList : ℤ) ≤ Int64.maxValue.toInt := by decide
  have hlimit : ¬(number "9223372036854775808".toList : ℤ) ≤ Int64.maxValue.toInt := by decide
  refine ⟨?_, ?_, (constants_are_read hquoted).1 (.inl rfl),
    (constants_are_read hforeign).2 ⟨nofun, by decide⟩⟩
  · have hread := (constants_are_read hseven).1 (.inr (by decide))
    rwa [Denotes, if_pos hrange] at hread
  · have hread := (constants_are_read hlong).1 (.inr (by decide))
    rwa [Denotes, if_neg hlimit] at hread

/-- **A digit of another script is classified and then refused**, though it denotes a number within
range. -/
theorem foreign_digit_refused :
    Literal.ofToken? "५" 1 = some ⟨.int, "५", 1⟩ ∧ number "५".toList = 5 ∧
    Value.ofLiteral ⟨.int, "५", 1⟩ = .error (.invalidLiteral "५") ∧
    ¬∀ text line l, Literal.ofToken? text line = some l → Denotes l (Value.ofLiteral l) := by
  have htoken : Literal.ofToken? "५" 1 = some ⟨.int, "५", 1⟩ := by decide
  have hvalue : Value.ofLiteral ⟨.int, "५", 1⟩ = .error (.invalidLiteral "५") := rfl
  have hrange : (number "५".toList : ℤ) ≤ Int64.maxValue.toInt := by decide
  refine ⟨htoken, by decide, hvalue, fun hall => ?_⟩
  have hread := hall _ _ _ htoken
  rw [Denotes, if_pos hrange, hvalue] at hread
  obtain ⟨n, hn, -⟩ := hread
  cases hn

end Imperative
