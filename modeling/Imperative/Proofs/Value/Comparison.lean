import Imperative.Proofs.Text.ByteOrder
import Imperative.Proofs.Value.Operation

/-!
Comparisons of two ints and of two strings.

How one value stands to another is told by one ordering, and each of the six operators accepts some
of the three orderings. Strings are compared by their bytes, so what two of them have in common at
the start makes no difference.
-/

namespace Imperative

/-- The comparison holds of two values that stand to each other like this. -/
def Operator.accepts : Operator → Ordering → Bool
  | eq, o => o.isEq
  | ne, o => o.isNe
  | lt, o => o.isLT
  | gt, o => o.isGT
  | le, o => o.isLE
  | ge, o => o.isGE
  | _, _ => false

namespace Value

/-- Two ints or two strings. -/
inductive Ordered : Value → Value → Prop
  | ints (a b : Int64) : Ordered (int a) (int b)
  | strings (s t : String) : Ordered (string s) (string t)

/-- How the left value stands to the right one, if they are two ints or two strings. -/
def order? : Value → Value → Option Ordering
  | int a, int b => some (compare a b)
  | string s, string t => some (compare s t)
  | _, _ => none

/-- The operator gives one, which stands for true. -/
def Holds (op : Operator) (v w : Value) : Prop := apply op v w = .ok (int 1)

/-- The operator gives zero, which stands for false. -/
def Fails (op : Operator) (v w : Value) : Prop := apply op v w = .ok (int 0)

variable {op : Operator} {l m r : Value} {o : Ordering}

lemma Ordered.order? (h : Ordered l r) : ∃ o, order? l r = some o := by
  cases h <;> exact ⟨_, rfl⟩

lemma Ordered.trans (hlm : Ordered l m) (hmr : Ordered m r) : Ordered l r := by
  cases hlm <;> cases hmr <;> constructor

/-! ### The ordering -/

instance : Std.LawfulOrderOrd String where
  isLE_compare _ _ := Ordering.isLE_iff_ne_gt.trans compare_le_iff_le
  isGE_compare _ _ := Ordering.isGE_iff_ne_lt.trans compare_ge_iff_ge

lemma order?_swap (h : order? l r = some o) : order? r l = some o.swap := by
  cases l <;> cases r <;> cases h <;> exact congrArg some Std.OrientedOrd.eq_swap

lemma order?_eq_iff (h : order? l r = some o) : o = .eq ↔ l = r := by
  cases l <;> cases r <;> cases h
  all_goals rw [Std.compare_eq_iff_eq]; simp

lemma order?_trans (hlm : order? l m = some .lt) (hmr : order? m r = some .lt) :
    order? l r = some .lt := by
  cases l <;> cases m <;> cases r
  all_goals simp only [order?, Option.some.injEq, reduceCtorEq] at hlm hmr ⊢
  all_goals exact Std.TransCmp.lt_trans hlm hmr

lemma append_lt_append_iff (p s t : String) : p ++ s < p ++ t ↔ s < t := by
  simp only [String.lt_iff_toList_lt, String.toList_append]
  induction p.toList with
  | nil => rfl
  | cons c cs ih => simp [ih]

/-- What two strings have in common at the start makes no difference. -/
lemma order?_append (p s t : String) :
    order? (string (p ++ s)) (string (p ++ t)) = order? (string s) (string t) := by
  have hcompare : compare (p ++ s) (p ++ t) = compare s t := by
    cases h : compare s t with
    | lt => exact compare_lt_iff_lt.2 ((append_lt_append_iff p s t).2 (compare_lt_iff_lt.1 h))
    | eq => rw [compare_eq_iff_eq.1 h, compare_eq_iff_eq]
    | gt => exact compare_gt_iff_gt.2 ((append_lt_append_iff p t s).2 (compare_gt_iff_gt.1 h))
  exact congrArg some hcompare

/-! ### The operators -/

/-- **A comparison is told by the ordering.** -/
theorem apply_of_order? (hop : op.isComparison = true) (h : order? l r = some o) :
    apply op l r = .ok (ofBool (op.accepts o)) := by
  cases l <;> cases r <;> cases h <;> cases op <;> cases hop
  -- What is left compares the operands by a relation of their own type, which the ordering decides.
  all_goals
    refine congrArg (fun holds => Except.ok (ofBool holds)) (Bool.eq_iff_iff.2 ?_)
    simp only [Operator.accepts, beq_iff_eq, bne_iff_ne, ne_eq, decide_eq_true_iff,
      Ordering.isEq_iff_eq_eq, Ordering.isNe_iff_ne_eq, Ordering.isLT_iff_eq_lt,
      Ordering.isGT_iff_eq_gt, Std.compare_eq_iff_eq, Std.compare_eq_lt, Std.compare_eq_gt,
      Std.isLE_compare, Std.isGE_compare]

lemma holds_iff (hop : op.isComparison = true) (h : order? l r = some o) :
    Holds op l r ↔ op.accepts o = true := by
  rw [Holds, apply_of_order? hop h]
  cases op.accepts o <;> simp [ofBool]

lemma fails_iff (hop : op.isComparison = true) (h : order? l r = some o) :
    Fails op l r ↔ op.accepts o = false := by
  rw [Fails, apply_of_order? hop h]
  cases op.accepts o <;> simp [ofBool]

/-- **Exactly one of less, equal and greater holds.** -/
lemma exists_unique_holds (h : order? l r = some o) :
    ∃! op, op ∈ [Operator.lt, .eq, .gt] ∧ Holds op l r := by
  have hcomparison : ∀ op ∈ [Operator.lt, .eq, .gt], op.isComparison = true := by decide
  have hone : ∃ named ∈ [Operator.lt, .eq, .gt],
      ∀ op ∈ [Operator.lt, .eq, .gt], op.accepts o = true ↔ op = named := by
    cases o <;> decide
  obtain ⟨named, hmem, hnamed⟩ := hone
  refine ⟨named, ⟨hmem, (holds_iff (hcomparison named hmem) h).2 ((hnamed named hmem).2 rfl)⟩, ?_⟩
  rintro op ⟨hop, hholds⟩
  exact (hnamed op hop).1 ((holds_iff (hcomparison op hop) h).1 hholds)

lemma holds_lt_iff (h : Ordered l r) : Holds .lt l r ↔ order? l r = some .lt := by
  obtain ⟨o, ho⟩ := h.order?
  rw [holds_iff rfl ho, ho]
  cases o <;> simp [Operator.accepts]

/-- **The six comparisons are those of one total order**, on ints and on strings: each gives zero or
one, one of less, equal and greater holds, the others say what these say, only equal values are
equal, and less is transitive. Ints are ordered by their size and strings by their bytes; a common
start of two strings makes no difference. -/
theorem comparisons_are_of_one_order :
    (∀ l r, Ordered l r →
      (∀ op, op.isComparison = true → Holds op l r ∨ Fails op l r) ∧
      (∃! op, op ∈ [Operator.lt, .eq, .gt] ∧ Holds op l r) ∧
      (Holds .le l r ↔ Holds .lt l r ∨ Holds .eq l r) ∧
      (Holds .ge l r ↔ Fails .lt l r) ∧
      (Holds .ne l r ↔ Fails .eq l r) ∧
      (Holds .lt l r ↔ Holds .gt r l) ∧
      (Holds .eq l r ↔ l = r)) ∧
    (∀ l m r, Ordered l m → Ordered m r → Holds .lt l m → Holds .lt m r → Holds .lt l r) ∧
    (∀ p s t : String, ∃ v w,
      apply .add (string p) (string s) = .ok v ∧ apply .add (string p) (string t) = .ok w ∧
        ∀ op, op.isComparison = true → apply op v w = apply op (string s) (string t)) ∧
    (∀ a b : Int64, Holds .lt (int a) (int b) ↔ a.toInt < b.toInt) ∧
    ∀ s t : String, Holds .lt (string s) (string t) ↔ Text.bytes s < Text.bytes t := by
  refine ⟨fun l r hlr => ?_, fun l m r hlm hmr => ?_, fun p s t => ?_, fun a b => ?_, fun s t => ?_⟩
  · obtain ⟨o, ho⟩ := hlr.order?
    have hswap := order?_swap ho
    refine ⟨fun op hop => ?_, exists_unique_holds ho, ?_, ?_, ?_, ?_, ?_⟩
    · rw [holds_iff hop ho, fails_iff hop ho]
      exact Bool.eq_false_or_eq_true _
    · rw [holds_iff rfl ho, holds_iff rfl ho, holds_iff rfl ho]
      cases o <;> decide
    · rw [holds_iff rfl ho, fails_iff rfl ho]
      cases o <;> decide
    · rw [holds_iff rfl ho, fails_iff rfl ho]
      cases o <;> decide
    · rw [holds_iff rfl ho, holds_iff rfl hswap]
      cases o <;> decide
    · rw [holds_iff rfl ho, ← order?_eq_iff ho]
      cases o <;> decide
  · rw [holds_lt_iff hlm, holds_lt_iff hmr, holds_lt_iff (hlm.trans hmr)]
    exact order?_trans
  · refine ⟨_, _, rfl, rfl, fun op hop => ?_⟩
    obtain ⟨o, ho⟩ := (Ordered.strings s t).order?
    rw [apply_of_order? hop ho, apply_of_order? hop ((order?_append p s t).trans ho)]
  · rw [holds_lt_iff (.ints a b), order?, Option.some.injEq, Std.compare_eq_lt,
      Int64.lt_iff_toInt_lt]
  · rw [holds_lt_iff (.strings s t), order?, Option.some.injEq, compare_lt_iff_lt,
      Text.lt_iff_bytes_lt]

/-- The empty string comes first, and the letter with an accent after all letters without one. -/
theorem comparisons_are_of_one_order_accented :
    Holds .lt (string "") (string "é") ∧ Holds .gt (string "é") (string "z") ∧
    (∃! op, op ∈ [Operator.lt, .eq, .gt] ∧ Holds op (int Int64.minValue) (int (-1))) ∧
    ∃ v w, apply .add (string "é") (string "z") = .ok v ∧
      apply .add (string "é") (string "") = .ok w ∧ Fails .le v w := by
  obtain ⟨hpair, htrans, hstart, -, hbytes⟩ := comparisons_are_of_one_order
  have hz : Holds .lt (string "z") (string "é") := (hbytes "z" "é").2 (by decide)
  have hempty : Holds .lt (string "") (string "z") := (hbytes "" "z").2 (by decide)
  obtain ⟨v, w, hv, hw, heq⟩ := hstart "é" "z" ""
  obtain ⟨-, -, -, -, -, hgt, -⟩ := hpair _ _ (.strings "z" "é")
  obtain ⟨-, hone, -⟩ := hpair _ _ (.ints Int64.minValue (-1))
  exact ⟨htrans _ _ _ (.strings "" "z") (.strings "z" "é") hempty hz, hgt.1 hz, hone,
    v, w, hv, hw, (heq .le rfl).trans rfl⟩

end Value

end Imperative
