import Imperative.Check.Expr
import Imperative.Proofs.Value.Operation

/-!
Which types a refused operation names.

The check names the types of the operands, and so does a run, but for an int and a float: there the
int has been widened by the time that the operator is found not to take the operands.
-/

namespace Imperative

/-- One of the types is for ints and the other one for floats. -/
def Ty.Mixed (left right : Ty) : Prop :=
  left = .int ∧ right = .float ∨ left = .float ∧ right = .int

namespace Value

variable {op : Operator} {a b : Value}

/-- Every operator takes two ints. -/
lemma resultType_ints (op : Operator) : op.resultType .int .int = some .int := by
  cases op <;> rfl

/-- Operands that are not mixed are refused by their own types. -/
lemma apply_refused_unmixed (h : op.resultType a.type b.type = none)
    (hunmixed : ¬a.type.Mixed b.type) : apply op a b = .error (illegal op a.type b.type) := by
  obtain ⟨left, right, hrefused⟩ := apply_refused h
  cases a <;> cases b
  case int.int => cases (resultType_ints op).symm.trans h
  case int.float => exact absurd (.inl ⟨rfl, rfl⟩) hunmixed
  case float.int => exact absurd (.inr ⟨rfl, rfl⟩) hunmixed
  case float.float =>
    obtain ⟨-, hnamed⟩ := applyFloat_error hrefused
    rw [hrefused, hnamed]
    rfl
  case string.string =>
    obtain ⟨-, hnamed⟩ := applyString_error hrefused
    rw [hrefused, hnamed]
    rfl
  case string.int s n =>
    have hop : op ≠ .mul := by
      rintro rfl
      cases h
    exact if_neg hop
  case int.string | float.string | string.float => rfl

/-- Of mixed operands the int has been widened before they are refused. -/
lemma apply_refused_mixed (h : op.resultType a.type b.type = none) (hmixed : a.type.Mixed b.type) :
    apply op a b = .error (illegal op .float .float) := by
  obtain ⟨left, right, hrefused⟩ := apply_refused h
  cases a <;> cases b
  case int.float | float.int =>
    obtain ⟨-, hnamed⟩ := applyFloat_error hrefused
    rw [hrefused, hnamed]
  all_goals simp [Ty.Mixed, type] at hmixed

/-- The check names the types that the operands have. -/
lemma findings_refused {t : SymbolTable} {l r : Expr} (line : Nat)
    (h : op.resultType (l.type t) (r.type t) = none) (hl : l.type t ≠ .unknown)
    (hr : r.type t ≠ .unknown) : (Expr.bin op l r line).findings t =
      l.findings t ++ r.findings t ++
        [⟨.illegalOperation (l.type t) op.symbol (r.type t), line⟩] := by
  simp [Expr.findings, Expr.operandFindings, h, hl, hr]

/-- **A run and the check name the same types**, unless the operands are mixed. Of values that the
operator does not take, the fault names their types with the operator between, and these are the
types that the check finds fault with in operands of those types; where one value is an int and the
other a float, a run takes both for floats, and the check still names the two types. -/
theorem refusals_name_types (h : op.resultType a.type b.type = none) :
    (¬a.type.Mixed b.type →
      apply op a b = .error (.illegalOperation a.type.name op.symbol b.type.name)) ∧
    (a.type.Mixed b.type →
      apply op a b = .error (.illegalOperation Ty.float.name op.symbol Ty.float.name)) ∧
    ∀ (t : SymbolTable) (l r : Expr) (line : Nat), l.type t = a.type → r.type t = b.type →
      (Expr.bin op l r line).findings t = l.findings t ++ r.findings t ++
        [⟨.illegalOperation a.type op.symbol b.type, line⟩] := by
  refine ⟨apply_refused_unmixed h, apply_refused_mixed h, fun t l r line hl hr => ?_⟩
  rw [← hl, ← hr] at h ⊢
  exact findings_refused line h (hl ▸ a.type_ne_unknown) (hr ▸ b.type_ne_unknown)

/-- A number is taken off a string. -/
theorem refusals_name_types_subtracting :
    apply .sub (string "a") (int 1) = .error (.illegalOperation "string" "-" "int") ∧
    (Expr.bin .sub (.lit ⟨.string, "\"a\"", 2⟩) (.lit ⟨.int, "1", 2⟩) 2).findings .initial =
      [⟨.illegalOperation .string "-" .int, 2⟩] := by
  have hnone : Operator.sub.resultType (string "a").type (int 1).type = none := rfl
  obtain ⟨hunmixed, -, hcheck⟩ := refusals_name_types hnone
  exact ⟨hunmixed (by simp [Ty.Mixed, type]), hcheck .initial _ _ 2 rfl rfl⟩

/-- **An int beside a float is named a float**: the check finds fault with an int and a float, and a
run with two floats. -/
theorem mixed_refusal_names_floats :
    (Expr.bin .mod (.lit ⟨.int, "1", 1⟩) (.lit ⟨.float, "2.5", 1⟩) 1).findings .initial =
      [⟨.illegalOperation .int "%" .float, 1⟩] ∧
    apply .mod (int 1) (float 2.5) = .error (.illegalOperation "float" "%" "float") ∧
    ¬∀ op a b, op.resultType a.type b.type = none →
      apply op a b = .error (.illegalOperation a.type.name op.symbol b.type.name) := by
  have hrun : apply .mod (int 1) (float 2.5) = .error (.illegalOperation "float" "%" "float") := rfl
  refine ⟨rfl, hrun, fun hall => ?_⟩
  have hnamed := (hall .mod (int 1) (float 2.5) rfl).symm.trans hrun
  simp [type, Ty.name] at hnamed

end Value

end Imperative
