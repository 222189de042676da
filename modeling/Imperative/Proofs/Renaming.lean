import Mathlib.Logic.Equiv.Basic
import Imperative.Proofs.Rendering.Check
import Imperative.Proofs.Rendering.Run

/-!
No name is special.

A program is checked and run in the same way whatever its names are, as long as different ones stay
different. This includes the names that scopes and frames of the program have.
-/

namespace Imperative

def Diagnostic.rename (f : String → String) (d : Diagnostic) : Diagnostic :=
  { d with problem := d.problem.rename f }

def Checker.rename (f : String → String) (c : Checker) : Checker :=
  { c with symbols := c.symbols.rename f, diagnostics := c.diagnostics.map (.rename f) }

def RuntimeError.rename (f : String → String) (e : RuntimeError) : RuntimeError :=
  { e with fault := e.fault.rename f }

/-- The same outcome in a program with other names. -/
def RunOutcome.rename (f : String → String) : RunOutcome → RunOutcome
  | rejected c => rejected (c.rename f)
  | completed c sink => completed (c.rename f) sink
  | failed e sink => failed (e.rename f) sink
  | outOfFuel => outOfFuel

variable {f : String → String}

/-- Other names, with the positions and labels as they are. -/
def Rendering.renamed (hf : f.Injective) : Rendering := ⟨f, hf, false⟩

lemma Program.rendered_rename (hf : f.Injective) (p : Program) :
    p.Rendered (.renamed hf) (p.rename f) := by
  have hallowed : Spelling.Allowed (.renamed hf) .same (.renamed f) :=
    ⟨fun _ => rfl, fun _ _ => rfl, .inr ⟨rfl, rfl⟩⟩
  have hstmts := hallowed.stmts p
  rwa [Stmt.respellAll_same] at hstmts

lemma Finding.diagnostics_rename (hf : f.Injective) (file : String) {fs fs' : List Finding}
    (h : List.Forall₂ (Finding.Rendered (.renamed hf)) fs fs') :
    fs'.map (fun g => Diagnostic.mk g.problem ⟨g.line, file⟩) =
      (fs.map fun g => Diagnostic.mk g.problem ⟨g.line, file⟩).map (.rename f) := by
  induction h with
  | nil => rfl
  | cons hg _ ih =>
    rw [List.map_cons, List.map_cons, List.map_cons, ih, hg.problem, hg.line rfl]
    rfl

lemma typeCheck_rename (hf : f.Injective) (p : Program) (file : String) :
    typeCheck (p.rename f) file = (typeCheck p file).rename f := by
  have hp := p.rendered_rename hf
  have hvalid := hp.isValid file file
  rw [typeCheck_eq, typeCheck_eq] at hvalid ⊢
  unfold Checker.rename
  dsimp only at hvalid ⊢
  rw [hp.check.symbols, hvalid, Finding.diagnostics_rename hf file hp.check.findings]
  rfl

lemma RuntimeError.Rendered.eq_rename {hf : f.Injective} {e e' : RuntimeError}
    (h : e.Rendered (.renamed hf) e') : e' = e.rename f := by
  obtain ⟨fault, position⟩ := e'
  have hfault : fault = e.fault.rename f := h.fault
  have hposition : position = e.position := h.position rfl
  rw [hfault, hposition]
  rfl

/-- **No name is special.** -/
theorem names_are_inert (hf : f.Injective) (p : Program) (file : String) :
    typeCheck (p.rename f) file = (typeCheck p file).rename f ∧
      ∀ n sink, run n (p.rename f) file sink = (run n p file sink).rename f := by
  have hcheck := typeCheck_rename hf p file
  refine ⟨hcheck, fun n sink => ?_⟩
  have hrun := (p.rendered_rename hf).interpret_rendered rfl n file sink
  have hvalid : ((typeCheck p file).rename f).isValid = (typeCheck p file).isValid := rfl
  unfold run
  dsimp only
  rw [hcheck, hvalid]
  split
  · generalize interpret n p file sink = o at hrun ⊢
    generalize interpret n (p.rename f) file sink = o' at hrun ⊢
    cases hrun with
    | done _ hm =>
      dsimp only
      rw [hm.sink]
      rfl
    | failed he hm =>
      dsimp only
      rw [he.eq_rename, hm.sink]
      rfl
    | outOfFuel => rfl
  · rfl

/-- A function that ends without a return where its loop never runs. -/
def looping : Program :=
  [.fn ⟨"first", .int, [⟨"n", .int, 1⟩], 1, 1⟩
      [.loop (.var "n" 2) (.block [.ret (.var "n" 3) 3] 2) 2],
    .print (.call "first" [.lit ⟨.int, "7", 5⟩] 5) 5,
    .print (.call "first" [.lit ⟨.int, "0", 6⟩] 6) 6]

/-- The function takes the name that the global frame has, and its parameter the one of a scope. -/
def reserved : String → String := Equiv.swap "first" "global" ∘ Equiv.swap "n" "loop"

theorem names_are_inert_reserved : reserved.Injective ∧
    looping.rename reserved =
      [.fn ⟨"global", .int, [⟨"loop", .int, 1⟩], 1, 1⟩
          [.loop (.var "loop" 2) (.block [.ret (.var "loop" 3) 3] 2) 2],
        .print (.call "global" [.lit ⟨.int, "7", 5⟩] 5) 5,
        .print (.call "global" [.lit ⟨.int, "0", 6⟩] 6) 6] ∧
      (typeCheck (looping.rename reserved) "f").isValid = true ∧
      (run 30 (looping.rename reserved) "f" .unlimited).fault? =
        some (.missingReturnValue "global") := by
  have hreserved : reserved.Injective :=
    (Equiv.injective _).comp (Equiv.injective _)
  obtain ⟨hcheck, hrun⟩ := names_are_inert hreserved looping "f"
  have hfault : ((run 30 looping "f" .unlimited).rename reserved).fault? =
      some (.missingReturnValue "global") := by
    decide +kernel
  exact ⟨hreserved, rfl, hcheck ▸ (by decide +kernel : (typeCheck looping "f").isValid = true),
    hrun 30 .unlimited ▸ hfault⟩

end Imperative
