import Imperative.Proofs.Check.Found
import Imperative.Proofs.Check.Source

/-!
Where a type is unknown, the check has nothing to compare.

This holds of operators, of stores and of returns. It does not hold of arguments: a known argument
is compared with its parameter even where the parameter is declared with the unknown type.
-/

namespace Imperative

variable {p : Program} {file : String}

/-- The two types that do not go together, where the problem is of this kind. -/
def Problem.compared : Problem → List Ty
  | illegalOperation left _ right => [left, right]
  | typeMismatch expected received => [expected, received]
  | precisionLoss declared assigned => [declared, assigned]
  | argumentType _ _ expected received => [expected, received]
  | returnTypeMismatch _ expected received => [expected, received]
  | _ => []

lemma unknown_not_mem_pair {a b : Ty} (ha : a ≠ .unknown) (hb : b ≠ .unknown) :
    Ty.unknown ∉ [a, b] := by
  simp [ha.symm, hb.symm]

/-- **What is said of a task compares known types**, unless it is said of a known argument for a
parameter of unknown type. -/
theorem Task.Found.compared {t : SymbolTable} {k : Task} {f : Finding} (h : Found t k f)
    (hu : .unknown ∈ f.problem.compared) : ∃ name g i received,
      t.resolve? name = some (.fn g) ∧ g.params[i]? = some .unknown ∧ received ≠ .unknown ∧
        f.problem = .argumentType name (i + 1) .unknown received := by
  cases h with
  | operands _ hl hr => exact absurd hu (unknown_not_mem_pair hl hr)
  | @argument name _ _ g i e type hg hi _ _ hk =>
    have htype : type = .unknown := by
      by_contra hne
      exact unknown_not_mem_pair hne hk hu
    subst htype
    exact ⟨name, g, i, e.type t, hg, hi, hk, rfl⟩
  | initValue hf | assigned _ hf =>
    obtain ⟨-, hd, ha, hproblem | hproblem⟩ := mem_storeFindings hf <;> rw [hproblem] at hu <;>
      exact absurd hu (unknown_not_mem_pair hd ha)
  | initName hf | param _ hf =>
    obtain ⟨-, hproblem | hproblem⟩ := mem_declare hf <;> rw [hproblem] at hu <;> cases hu
  | returned _ _ _ hk he => exact absurd hu (unknown_not_mem_pair hk he)
  | _ => cases hu

/-- **Only arguments are compared with an unknown type**: a diagnostic that sets one type against
the unknown one is about a known argument of a function that the program defines with a parameter
of unknown type in its place. -/
theorem unknown_compared_with_arguments : ∀ d ∈ (typeCheck p file).diagnostics,
    .unknown ∈ d.problem.compared → ∃ h body i q received,
      .stmt (.fn h body) ∈ (Node.program p).walk ∧ h.params[i]? = some q ∧ q.type = .unknown ∧
        received ≠ .unknown ∧ d.problem = .argumentType h.name (i + 1) .unknown received := by
  intro d hd hu
  obtain ⟨t, k, f, hs, hf, rfl⟩ := mem_diagnostics.1 hd
  obtain ⟨name, g, i, received, hg, hi, hk, hproblem⟩ := (Task.found_of_mem hf).compared hu
  obtain ⟨u, h, body, hfn, rfl, -, hparams⟩ := (hs.proper.sourced.resolve? hg).definition
  rw [hparams, List.getElem?_map, Option.map_eq_some_iff] at hi
  obtain ⟨q, hq, htype⟩ := hi
  exact ⟨h, body, i, q, received, hfn.within, hq, htype, hk, hproblem⟩

/-- A program with a variable, a function and a parameter of unknown type; the last call passes an
int for the parameter. -/
def untyped : Program :=
  [.decl .unknown [⟨"u", .lit ⟨.int, "1", 1⟩, 1⟩] 1,
    .fn ⟨"f", .unknown, [⟨"x", .unknown, 2⟩, ⟨"y", .int, 2⟩], 2, 2⟩
      [.ret (.bin .sub (.var "x" 3) (.lit ⟨.string, "\"a\"", 3⟩) 3) 3],
    .assign "u" (.call "f" [.var "u" 4, .var "u" 4] 4) 4,
    .expr (.call "f" [.lit ⟨.int, "1", 5⟩, .lit ⟨.int, "2", 5⟩] 5) 5]

theorem unknown_compared_with_arguments_untyped :
    ∃ d ∈ (typeCheck untyped "f").diagnostics, ∃ h body i q received,
      .stmt (.fn h body) ∈ (Node.program untyped).walk ∧ h.params[i]? = some q ∧
        q.type = .unknown ∧ received ≠ .unknown ∧
        d.problem = .argumentType h.name (i + 1) .unknown received := by
  have hd : (⟨.argumentType "f" 1 .unknown .int, ⟨5, "f"⟩⟩ : Diagnostic) ∈
      (typeCheck untyped "f").diagnostics := by decide +kernel
  exact ⟨_, hd, unknown_compared_with_arguments _ hd (.head _)⟩

/-- **An argument is compared with the unknown type of its parameter**, and the program is refused
for that alone. -/
theorem untyped_refused :
    (typeCheck untyped "f").diagnostics = [⟨.argumentType "f" 1 .unknown .int, ⟨5, "f"⟩⟩] ∧
      ¬ ∀ d ∈ (typeCheck untyped "f").diagnostics, .unknown ∉ d.problem.compared := by
  decide +kernel

end Imperative
