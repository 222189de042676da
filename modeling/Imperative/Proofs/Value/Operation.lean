import Imperative.Value.Operation
import Mathlib.Tactic.Lemma

/-!
What an operator comes to: a value of the type that the table of operators tells, or a fault that
the types of the operands cannot rule out.
-/

namespace Imperative

/-- What stops runs of well-typed programs as well. -/
def Fault.Ordinary : Fault → Prop
  | divisionByZero | invalidShift _ | repetitionTooLarge _ | invalidLiteral _
  | missingReturnValue _ | output _ => True
  | _ => False

namespace Value

lemma type_ne_unknown (v : Value) : v.type ≠ .unknown := by
  cases v <;> exact Ty.noConfusion

/-! ### Repetition -/

lemma size?_of_lt {n : Nat} (h : n < sizeBound) : size? n = some n :=
  if_pos ⟨Int.natCast_nonneg n, h⟩

lemma size?_of_not_lt {n : Nat} (h : ¬n < sizeBound) : size? n = none :=
  if_neg fun hn => h hn.2

lemma toInt_max_zero (c : Int64) : (max c 0).toInt = c.toInt.toNat := by
  show (if c ≤ 0 then 0 else c).toInt = _
  split
  · next h => rw [Int.toNat_of_nonpos (Int64.le_iff_toInt_le.1 h)]; rfl
  · next h => rw [Int.toNat_of_nonneg (Int.le_of_lt (Int64.lt_iff_toInt_lt.1 (Int64.not_le.1 h)))]

/-- A count is never too large for a size. -/
lemma size?_count (c : Int64) : size? (max c 0).toInt = some c.toInt.toNat := by
  have hlt := c.toInt_lt
  have hsize : c.toInt.toNat < sizeBound := by
    unfold sizeBound
    omega
  rw [toInt_max_zero, size?_of_lt hsize]

lemma maxRepeatedBytes_lt : maxRepeatedBytes < sizeBound := by decide +kernel

/-- **Repetition has one limit.** What is too large for a size is beyond the limit as well. -/
lemma repeated_eq (s : String) (c : Int64) : repeated s c =
    if s.utf8ByteSize * c.toInt.toNat ≤ maxRepeatedBytes then .ok (string (copies s c.toInt.toNat))
    else .error (.repetitionTooLarge c) := by
  unfold repeated
  simp only [size?_count, ← Int.natCast_mul]
  by_cases h : s.utf8ByteSize * c.toInt.toNat < sizeBound
  · simp only [size?_of_lt h]
  · have hlong : ¬s.utf8ByteSize * c.toInt.toNat ≤ maxRepeatedBytes := fun hle =>
      h (Nat.lt_of_le_of_lt hle maxRepeatedBytes_lt)
    simp only [size?_of_not_lt h, if_neg hlong]

/-! ### The table -/

/-- A value of the type, or an ordinary fault. -/
def Comes (type : Ty) : Except Fault Value → Prop
  | .ok v => v.type = type
  | .error f => f.Ordinary

lemma comes_divideBy (n : Int64) (f : Int64 → Int64) : Comes .int (divideBy n f) := by
  unfold divideBy
  split <;> trivial

lemma comes_shiftBy (n : Int64) (f : Int64 → Int64) : Comes .int (shiftBy n f) := by
  unfold shiftBy
  split <;> trivial

lemma comes_repeated (s : String) (n : Int64) : Comes .string (repeated s n) := by
  rw [repeated_eq]
  split <;> trivial

variable {op : Operator} {τ : Ty}

lemma comes_applyInt {a b : Int64} (h : op.resultType .int .int = some τ) :
    Comes τ (applyInt op a b) := by
  cases op <;> cases h
  case div | mod => exact comes_divideBy b _
  case shiftLeft | shiftRight => exact comes_shiftBy b _
  all_goals rfl

lemma comes_applyFloat {x y : Float} (h : op.resultType .float .float = some τ) :
    Comes τ (applyFloat op x y) := by
  cases op <;> cases h <;> rfl

lemma comes_applyString {s t : String} (h : op.resultType .string .string = some τ) :
    Comes τ (applyString op s t) := by
  cases op <;> cases h <;> rfl

/-- **An operator keeps to its table.** -/
theorem comes_apply {a b : Value} (h : op.resultType a.type b.type = some τ) :
    Comes τ (apply op a b) := by
  cases a <;> cases b
  case int.int => exact comes_applyInt h
  case float.float => exact comes_applyFloat h
  case string.string => exact comes_applyString h
  case int.float => exact comes_applyFloat (by cases op <;> exact h)
  case float.int => exact comes_applyFloat (by cases op <;> exact h)
  case string.int s n =>
    cases op <;> cases h
    exact comes_repeated s n
  case int.string | float.string | string.float => cases op <;> cases h

/-- Operands that the table has no entry for are refused. -/
lemma apply_refused {a b : Value} (h : op.resultType a.type b.type = none) :
    ∃ left right, apply op a b = .error (illegal op left right) := by
  cases a <;> cases b <;> cases op <;> cases h <;> exact ⟨_, _, rfl⟩

lemma apply_error {a b : Value} {f : Fault} (h : apply op a b = .error f) :
    f.Ordinary ∨ ∃ left right, f = illegal op left right := by
  cases hop : op.resultType a.type b.type with
  | some τ =>
    have hcomes := comes_apply hop
    rw [h] at hcomes
    exact .inl hcomes
  | none =>
    obtain ⟨left, right, hr⟩ := apply_refused hop
    rw [h] at hr
    cases hr
    exact .inr ⟨left, right, rfl⟩

end Value

/-- What an operator may be stopped by. -/
def Fault.OfOperator : Fault → Prop
  | divisionByZero | invalidShift _ | repetitionTooLarge _ | illegalOperation .. => True
  | _ => False

namespace Value

/-- What stops an operator on two values, with all that it takes. -/
inductive Stops (op : Operator) : Value → Value → Fault → Prop
  | zero {a : Int64} : op = .div ∨ op = .mod → Stops op (int a) (int 0) .divisionByZero
  | outside {a n : Int64} : op = .shiftLeft ∨ op = .shiftRight → ¬(0 ≤ n ∧ n < 64) →
      Stops op (int a) (int n) (.invalidShift n)
  | tooLong {s : String} {n : Int64} : op = .mul →
      maxRepeatedBytes < s.utf8ByteSize * n.toInt.toNat →
      Stops op (string s) (int n) (.repetitionTooLarge n)
  | refused {a b : Value} {left right : Ty} : op.resultType a.type b.type = none →
      Stops op a b (illegal op left right)

variable {op : Operator} {f : Fault} {τ : Ty} {a b : Value}

lemma divideBy_eq_error_iff {n : Int64} {k : Int64 → Int64} :
    divideBy n k = .error f ↔ n = 0 ∧ f = .divisionByZero := by
  unfold divideBy
  split <;> simp_all [eq_comm]

lemma shiftBy_eq_error_iff {n : Int64} {k : Int64 → Int64} :
    shiftBy n k = .error f ↔ ¬(0 ≤ n ∧ n < 64) ∧ f = .invalidShift n := by
  unfold shiftBy
  split <;> simp_all [eq_comm]

lemma repeated_eq_error_iff {s : String} {n : Int64} : repeated s n = .error f ↔
    maxRepeatedBytes < s.utf8ByteSize * n.toInt.toNat ∧ f = .repetitionTooLarge n := by
  rw [repeated_eq]
  split
  · next h => exact ⟨nofun, fun hn => absurd h (Nat.not_le.2 hn.1)⟩
  · next h => exact ⟨fun hf => ⟨Nat.not_le.1 h, by cases hf; rfl⟩, fun hn => hn.2 ▸ rfl⟩

lemma applyInt_eq_error_iff {m n : Int64} : applyInt op m n = .error f ↔
    (op = .div ∨ op = .mod) ∧ n = 0 ∧ f = .divisionByZero ∨
      (op = .shiftLeft ∨ op = .shiftRight) ∧ ¬(0 ≤ n ∧ n < 64) ∧ f = .invalidShift n := by
  cases op
  case div | mod => simp [applyInt, divideBy_eq_error_iff]
  case shiftLeft | shiftRight => simp only [applyInt, shiftBy_eq_error_iff]; simp
  all_goals simp [applyInt]

lemma applyFloat_error {x y : Float} (h : applyFloat op x y = .error f) :
    op.resultType .float .float = none ∧ f = illegal op .float .float := by
  cases op <;> cases h <;> exact ⟨rfl, rfl⟩

lemma applyString_error {s t : String} (h : applyString op s t = .error f) :
    op.resultType .string .string = none ∧ f = illegal op .string .string := by
  cases op <;> cases h <;> exact ⟨rfl, rfl⟩

/-- **Operators stop with faults of their own.** -/
theorem apply_stops (h : apply op a b = .error f) : Stops op a b f := by
  cases a <;> cases b
  case int.int m n =>
    rcases applyInt_eq_error_iff.1 h with ⟨hop, rfl, rfl⟩ | ⟨hop, hn, rfl⟩
    · exact .zero hop
    · exact .outside hop hn
  -- The table has the same entries for two numbers of which one is a float and for two floats.
  case float.float | int.float | float.int =>
    obtain ⟨hop, rfl⟩ := applyFloat_error h
    exact .refused (by cases op <;> cases hop <;> rfl)
  case string.string =>
    obtain ⟨hop, rfl⟩ := applyString_error h
    exact .refused hop
  case string.int s n =>
    change (if op = .mul then repeated s n else .error (illegal op .string .int)) = .error f at h
    by_cases hop : op = .mul
    · rw [if_pos hop] at h
      obtain ⟨hlong, rfl⟩ := repeated_eq_error_iff.1 h
      exact .tooLong hop hlong
    · rw [if_neg hop] at h
      cases h
      refine .refused ?_
      cases op <;> first | rfl | exact absurd rfl hop
  all_goals
    cases h
    exact .refused (by cases op <;> rfl)

lemma apply_error_ofOperator (h : apply op a b = .error f) : f.OfOperator := by
  cases apply_stops h <;> trivial

lemma in_range_iff (n : Int64) : 0 ≤ n ∧ n < 64 ↔ 0 ≤ n.toInt ∧ n.toInt ≤ 63 := by
  rw [Int64.le_iff_toInt_le, Int64.lt_iff_toInt_lt]
  show 0 ≤ n.toInt ∧ n.toInt < 64 ↔ _
  omega

/-- Operands with an entry in the table are stopped by their values alone. -/
lemma stops_of_resultType (hop : op.resultType a.type b.type = some τ) (h : Stops op a b f) :
    f = .divisionByZero ∨ (∃ n, f = .invalidShift n) ∨ ∃ n, f = .repetitionTooLarge n := by
  cases h with
  | zero => exact .inl rfl
  | outside => exact .inr (.inl ⟨_, rfl⟩)
  | tooLong => exact .inr (.inr ⟨_, rfl⟩)
  | refused hnone => cases hnone.symm.trans hop

lemma apply_of_resultType (hop : op.resultType a.type b.type = some τ) :
    (∃ v, apply op a b = .ok v ∧ v.type = τ) ∨ apply op a b = .error .divisionByZero ∨
      (∃ n, apply op a b = .error (.invalidShift n)) ∨
      ∃ n, apply op a b = .error (.repetitionTooLarge n) := by
  cases h : apply op a b with
  | ok v =>
    have hcomes := comes_apply hop
    rw [h] at hcomes
    exact .inl ⟨v, rfl, hcomes⟩
  | error f =>
    rcases stops_of_resultType hop (apply_stops h) with rfl | ⟨n, rfl⟩ | ⟨n, rfl⟩
    · exact .inr (.inl rfl)
    · exact .inr (.inr (.inl ⟨n, rfl⟩))
    · exact .inr (.inr (.inr ⟨n, rfl⟩))

lemma apply_divisionByZero_iff : apply op a b = .error .divisionByZero ↔
    (op = .div ∨ op = .mod) ∧ (∃ m, a = int m) ∧ b = int 0 := by
  constructor
  · intro h
    cases apply_stops h with | zero hop => exact ⟨hop, ⟨_, rfl⟩, rfl⟩
  · rintro ⟨hop, ⟨m, rfl⟩, rfl⟩
    exact applyInt_eq_error_iff.2 (.inl ⟨hop, rfl, rfl⟩)

lemma apply_invalidShift_iff {n : Int64} : apply op a b = .error (.invalidShift n) ↔
    (op = .shiftLeft ∨ op = .shiftRight) ∧ (∃ m, a = int m) ∧ b = int n ∧
      ¬(0 ≤ n.toInt ∧ n.toInt ≤ 63) := by
  rw [← in_range_iff]
  constructor
  · intro h
    cases apply_stops h with | outside hop hn => exact ⟨hop, ⟨_, rfl⟩, rfl, hn⟩
  · rintro ⟨hop, ⟨m, rfl⟩, rfl, hn⟩
    exact applyInt_eq_error_iff.2 (.inr ⟨hop, hn, rfl⟩)

lemma apply_repetitionTooLarge_iff {n : Int64} : apply op a b = .error (.repetitionTooLarge n) ↔
    op = .mul ∧ ∃ s, a = string s ∧ b = int n ∧ 16777216 < s.utf8ByteSize * n.toInt.toNat := by
  constructor
  · intro h
    cases apply_stops h with
    | tooLong hop hn => exact ⟨hop, _, rfl, rfl, hn⟩
  · rintro ⟨rfl, s, rfl, rfl, hn⟩
    exact repeated_eq_error_iff.2 ⟨hn, rfl⟩

lemma apply_illegal_iff : op.resultType a.type b.type = none ↔
    ∃ left right, apply op a b = .error (.illegalOperation left op.symbol right) := by
  constructor
  · intro hop
    obtain ⟨left, right, h⟩ := apply_refused hop
    exact ⟨_, _, h⟩
  · rintro ⟨left, right, h⟩
    cases hop : op.resultType a.type b.type with
    | none => rfl
    | some τ =>
      have hstops := stops_of_resultType hop (apply_stops h)
      simp at hstops

end Value

open Value

/-- **The table of operators and the operators agree.** Operands with an entry give a value of the
type in the entry or are stopped by a zero divisor, a shift by less than 0 or more than 63, or a
repetition to more than 2 ^ 24 bytes, each exactly there; a negative count counts as none. Operands
without an entry are refused. -/
theorem operators_agree (op : Operator) (a b : Value) :
    (∀ τ, op.resultType a.type b.type = some τ →
      (∃ v, apply op a b = .ok v ∧ v.type = τ) ∨ apply op a b = .error .divisionByZero ∨
        (∃ n, apply op a b = .error (.invalidShift n)) ∨
        ∃ n, apply op a b = .error (.repetitionTooLarge n)) ∧
    (apply op a b = .error .divisionByZero ↔
      (op = .div ∨ op = .mod) ∧ (∃ m, a = .int m) ∧ b = .int 0) ∧
    (∀ n, apply op a b = .error (.invalidShift n) ↔
      (op = .shiftLeft ∨ op = .shiftRight) ∧ (∃ m, a = .int m) ∧ b = .int n ∧
        ¬(0 ≤ n.toInt ∧ n.toInt ≤ 63)) ∧
    (∀ n, apply op a b = .error (.repetitionTooLarge n) ↔
      op = .mul ∧ ∃ s, a = .string s ∧ b = .int n ∧
        16777216 < s.utf8ByteSize * n.toInt.toNat) ∧
    (op.resultType a.type b.type = none ↔
      ∃ left right, apply op a b = .error (.illegalOperation left op.symbol right)) :=
  ⟨fun _ => apply_of_resultType, apply_divisionByZero_iff, fun _ => apply_invalidShift_iff,
    fun _ => apply_repetitionTooLarge_iff, apply_illegal_iff⟩

/-- The longest result that is still given, and the shortest one that is not. -/
theorem operators_agree_repeating :
    ((∃ v, apply .mul (.string "ab") (.int 8388608) = .ok v ∧ v.type = .string) ∨
      apply .mul (.string "ab") (.int 8388608) = .error .divisionByZero ∨
      (∃ n, apply .mul (.string "ab") (.int 8388608) = .error (.invalidShift n)) ∨
      ∃ n, apply .mul (.string "ab") (.int 8388608) = .error (.repetitionTooLarge n)) ∧
    (¬∃ n, apply .mul (.string "ab") (.int 8388608) = .error (.repetitionTooLarge n)) ∧
    apply .mul (.string "ab") (.int 8388609) = .error (.repetitionTooLarge 8388609) := by
  have hlast := operators_agree .mul (.string "ab") (.int 8388608)
  have hnext := operators_agree .mul (.string "ab") (.int 8388609)
  refine ⟨hlast.1 .string rfl, ?_, (hnext.2.2.2.1 8388609).2 ⟨rfl, "ab", rfl, rfl, by decide⟩⟩
  rintro ⟨n, hn⟩
  obtain ⟨-, s, hs, hb, hlong⟩ := (hlast.2.2.2.1 n).1 hn
  cases hs
  cases hb
  revert hlong
  decide

end Imperative
