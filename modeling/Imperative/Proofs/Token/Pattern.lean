import Mathlib.Algebra.Ring.Parity
import Mathlib.Computability.Language
import Mathlib.Data.List.DropRight
import Imperative.Program.Literal

/-!
The kinds of constants as regular languages.

The pattern for strings takes characters one by one, or in pairs after a backslash. Whether a text
can be taken apart like this is told by the run of backslashes at its end.
-/

namespace Imperative.Token

open Text
open scoped Computability

/-- The texts of one character that the test accepts. -/
def one (p : Char → Prop) : Language Char := {cs | ∃ c, p c ∧ cs = [c]}

/-- A decimal digit of any script. -/
def digit : Language Char := one (isDecimalDigit ·)

/-- One character other than a backslash, or two with a backslash first, and no line feed. -/
def unit : Language Char := one (fun c => c ≠ '\\' ∧ c ≠ '\n') + one (· = '\\') * one (· ≠ '\n')

/-- The texts that are constants of the kind. -/
def pattern : LiteralKind → Language Char
  | .float => digit * digit∗ * one (· = '.') * digit∗ + one (· = '.') * (digit * digit∗)
  | .int => digit * digit∗
  | .string => one (· = '"') * unit∗ * one (· = '"')

variable {p : Char → Prop} {cs : List Char}

/-! ### Runs of digits -/

lemma mem_kstar_one : cs ∈ (one p)∗ ↔ ∀ c ∈ cs, p c := by
  constructor
  · intro h
    obtain ⟨parts, rfl, hparts⟩ := Language.mem_kstar.1 h
    intro c hc
    obtain ⟨part, hpart, hc⟩ := List.mem_flatten.1 hc
    obtain ⟨d, hd, rfl⟩ := hparts part hpart
    rwa [List.mem_singleton.1 hc]
  · intro h
    refine Language.mem_kstar.2 ⟨cs.map ([·]), ?_, ?_⟩
    · rw [← List.flatMap_def, List.flatMap_singleton']
    · intro part hpart
      obtain ⟨c, hc, rfl⟩ := List.mem_map.1 hpart
      exact ⟨c, h c hc, rfl⟩

lemma mem_one_mul {l : Language Char} : cs ∈ one p * l ↔ ∃ c ds, p c ∧ ds ∈ l ∧ cs = c :: ds := by
  constructor
  · intro h
    obtain ⟨_, ⟨c, hc, rfl⟩, ds, hds, rfl⟩ := Language.mem_mul.1 h
    exact ⟨c, ds, hc, hds, rfl⟩
  · rintro ⟨c, ds, hc, hds, rfl⟩
    exact Language.mem_mul.2 ⟨[c], ⟨c, hc, rfl⟩, ds, hds, rfl⟩

lemma mem_mul_one {l : Language Char} :
    cs ∈ l * one p ↔ ∃ ds c, ds ∈ l ∧ p c ∧ cs = ds ++ [c] := by
  constructor
  · intro h
    obtain ⟨ds, hds, _, ⟨c, hc, rfl⟩, rfl⟩ := Language.mem_mul.1 h
    exact ⟨ds, c, hds, hc, rfl⟩
  · rintro ⟨ds, c, hds, hc, rfl⟩
    exact Language.mem_mul.2 ⟨ds, hds, [c], ⟨c, hc, rfl⟩, rfl⟩

lemma mem_plus_one : cs ∈ one p * (one p)∗ ↔ cs ≠ [] ∧ ∀ c ∈ cs, p c := by
  rw [mem_one_mul]
  constructor
  · rintro ⟨c, ds, hc, hds, rfl⟩
    exact ⟨List.cons_ne_nil c ds, List.forall_mem_cons.2 ⟨hc, mem_kstar_one.1 hds⟩⟩
  · rintro ⟨hne, hall⟩
    obtain ⟨c, ds, rfl⟩ := List.exists_cons_of_ne_nil hne
    obtain ⟨hc, hds⟩ := List.forall_mem_cons.1 hall
    exact ⟨c, ds, hc, mem_kstar_one.2 hds, rfl⟩

/-! ### Units of a string -/

/-- Whether the text ends with a backslash that would take a character after it along. -/
def pending (cs : List Char) : Bool := cs.foldl (fun taking c => !taking && c == '\\') false

lemma pending_cons {c : Char} (h : c ≠ '\\') (cs : List Char) : pending (c :: cs) = pending cs := by
  simp [pending, beq_eq_false_iff_ne.2 h]

lemma pending_pair (c : Char) (cs : List Char) : pending ('\\' :: c :: cs) = pending cs := by
  simp [pending]

lemma pending_append (cs : List Char) (c : Char) :
    pending (cs ++ [c]) = (!pending cs && c == '\\') := by
  simp [pending]

/-- **Backslashes at the end take each other along in pairs.** -/
lemma pending_iff_odd (cs : List Char) :
    pending cs = true ↔ Odd (cs.rtakeWhile (· = '\\')).length := by
  induction cs using List.reverseRecOn with
  | nil => simp [pending]
  | append_singleton cs c ih =>
    rw [pending_append, List.rtakeWhile_concat]
    by_cases hc : c = '\\'
    · simp [hc, Nat.odd_add_one, ← ih]
    · simp [hc]

lemma unit_append {u : List Char} (hu : u ∈ unit) (h : cs ∈ unit∗) : u ++ cs ∈ unit∗ := by
  rw [← Language.one_add_self_mul_kstar_eq_kstar]
  exact .inr (Language.mem_mul.2 ⟨u, hu, cs, h, rfl⟩)

lemma mem_kstar_unit_of_pending (hfeed : '\n' ∉ cs) (hpending : pending cs = false) :
    cs ∈ unit∗ := by
  -- A unit has one character or two, so the induction goes back by one or by two.
  induction cs using List.twoStepInduction with
  | nil => exact Language.nil_mem_kstar unit
  | singleton c =>
    have hslash : c ≠ '\\' := by
      rintro rfl
      cases hpending
    have hc : c ≠ '\n' := (List.ne_of_not_mem_cons hfeed).symm
    exact unit_append (.inl ⟨c, ⟨hslash, hc⟩, rfl⟩) (Language.nil_mem_kstar unit)
  | cons_cons c d cs ih ih' =>
    have hc : c ≠ '\n' := (List.ne_of_not_mem_cons hfeed).symm
    have hrest : '\n' ∉ d :: cs := List.not_mem_of_not_mem_cons hfeed
    by_cases hslash : c = '\\'
    · have hd : d ≠ '\n' := (List.ne_of_not_mem_cons hrest).symm
      have hpair : ['\\', d] ∈ unit :=
        .inr (mem_one_mul.2 ⟨'\\', [d], rfl, ⟨d, hd, rfl⟩, rfl⟩)
      rw [hslash, pending_pair] at hpending
      rw [hslash]
      exact unit_append hpair (ih (List.not_mem_of_not_mem_cons hrest) hpending)
    · rw [pending_cons hslash] at hpending
      exact unit_append (.inl ⟨c, ⟨hslash, hc⟩, rfl⟩) (ih' d hrest hpending)

/-- **A text is made of units** unless it has a line feed or a backslash at its end that takes
nothing along. -/
theorem mem_kstar_unit : cs ∈ unit∗ ↔ '\n' ∉ cs ∧ pending cs = false := by
  refine ⟨fun h => ?_, fun h => mem_kstar_unit_of_pending h.1 h.2⟩
  obtain ⟨parts, rfl, hparts⟩ := Language.mem_kstar.1 h
  clear h
  induction parts with
  | nil => simp [pending]
  | cons part parts ih =>
    obtain ⟨hfeed, hpending⟩ := ih fun u hu => hparts u (List.mem_cons_of_mem _ hu)
    rw [List.flatten_cons]
    rcases hparts part List.mem_cons_self with ⟨c, ⟨hslash, hc⟩, rfl⟩ | hpair
    · rw [List.singleton_append, pending_cons hslash]
      exact ⟨by simp [hc.symm, hfeed], hpending⟩
    · obtain ⟨_, _, rfl, ⟨c, hc, rfl⟩, rfl⟩ := mem_one_mul.1 hpair
      simp only [List.cons_append, List.nil_append, pending_pair]
      exact ⟨by simp [Ne.symm hc, hfeed], hpending⟩

lemma cons_mem_kstar_unit {c : Char} (h : c ≠ '\\') :
    c :: cs ∈ unit∗ ↔ c ≠ '\n' ∧ cs ∈ unit∗ := by
  rw [mem_kstar_unit, mem_kstar_unit, pending_cons h, List.mem_cons, not_or, and_assoc, ne_comm]

lemma pair_mem_kstar_unit {c : Char} : '\\' :: c :: cs ∈ unit∗ ↔ c ≠ '\n' ∧ cs ∈ unit∗ := by
  rw [mem_kstar_unit, mem_kstar_unit, pending_pair, ne_comm]
  simp [and_assoc]

end Imperative.Token
