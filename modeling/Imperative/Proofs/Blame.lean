import Imperative.Proofs.Check.Found
import Imperative.Proofs.Machine.Blame

/-!
Every report names the line of what caused it: a construct of the program that the problem or the
fault can be laid to.
-/

namespace Imperative

variable {p : Program} {file : String}

namespace Task

variable {t : SymbolTable} {k : Task} {f : Finding}

lemma blames_of_store {declared assigned : Ty} {line : Nat}
    (hf : f ∈ storeFindings declared assigned line) (name : String) :
    f.line = line ∧ f.problem.blames (.init name) = true ∧
      f.problem.blames (.assign name) = true := by
  obtain ⟨hline, -, -, hproblem | hproblem⟩ := mem_storeFindings hf <;>
    exact ⟨hline, by rw [hproblem]; rfl, by rw [hproblem]; rfl⟩

lemma blames_of_declare {name : String} {a : Symbol} {line : Nat}
    (hf : f ∈ (Check.declare name a line t).findings) :
    f.line = line ∧ f.problem.blames (.init name) = true ∧
      f.problem.blames (.param name) = true := by
  obtain ⟨hline, hproblem | hproblem⟩ := mem_declare hf <;> rw [hproblem] <;>
    exact ⟨hline, decide_eq_true rfl, decide_eq_true rfl⟩

lemma Within.init {type : Ty} {i : Init} {is : List Init}
    (h : (inits type (i :: is)).Within (· ∈ (Node.program p).walk)) :
    (Construct.init i.name).Stands p i.line := by
  obtain ⟨before, line, h⟩ := h
  refine ⟨_, h, List.mem_map_of_mem (f := fun i : Init => (Construct.init i.name, i.line)) ?_⟩
  exact List.mem_append_right before (.head is)

/-- **What is said of a task blames a construct of it.** -/
theorem Found.blames (h : Found t k f) (hk : k.Within (· ∈ (Node.program p).walk)) :
    ∃ c, f.problem.blames c = true ∧ c.Stands p f.line := by
  cases h with
  | @undeclared name | @functionRead name =>
    exact ⟨.read name, decide_eq_true rfl, _, hk, .head _⟩
  | @operands op => exact ⟨.operation op, decide_eq_true rfl, _, hk, .head _⟩
  | @undefined name | @variableCalled name | @arity name | @argument name =>
    exact ⟨.call name, decide_eq_true rfl, _, hk, .head _⟩
  | @initValue _ i _ _ hf =>
    obtain ⟨hline, hblames, -⟩ := blames_of_store hf i.name
    exact ⟨_, hblames, hline ▸ hk.init⟩
  | initName hf =>
    obtain ⟨hline, hblames, -⟩ := blames_of_declare hf
    exact ⟨_, hblames, hline ▸ hk.init⟩
  | @assigned name _ _ _ _ _ hf =>
    obtain ⟨hline, -, hblames⟩ := blames_of_store hf name
    exact ⟨_, hblames, _, hk, hline ▸ .head _⟩
  | @functionAssigned name | @undeclaredAssigned name =>
    exact ⟨.assign name, decide_eq_true rfl, _, hk, .head _⟩
  | @fnName h => exact ⟨.fn h.name, decide_eq_true rfl, _, hk, .head _⟩
  | param hq hf =>
    obtain ⟨hline, -, hblames⟩ := blames_of_declare hf
    refine ⟨_, hblames, _, hk, .tail _ (.tail _ ?_)⟩
    rw [hline]
    exact List.mem_map_of_mem (f := fun q : Param => (Construct.param q.name, q.line)) hq
  | @unreturned h => exact ⟨.body h.name, decide_eq_true rfl, _, hk, .tail _ (.head _)⟩
  | outside | returned => exact ⟨.ret, rfl, _, hk, .head _⟩
  | brk => exact ⟨.brk, rfl, _, hk, .head _⟩
  | cont => exact ⟨.cont, rfl, _, hk, .head _⟩

end Task

/-- The diagnostic names the file and a line with a construct that the problem can be laid to. -/
def Diagnostic.Placed (p : Program) (file : String) (d : Diagnostic) : Prop :=
  d.position.file = file ∧ ∃ c, d.problem.blames c = true ∧ c.Stands p d.position.line

/-- **Reports name the lines of their causes**: whatever the program, the check lays each problem,
and a run its fault, to a construct on the line that it names. -/
theorem reports_name_causes (p : Program) (file : String) :
    (∀ d ∈ (typeCheck p file).diagnostics, d.Placed p file) ∧
      ∀ n sink e, (interpret n p file sink).error? = some e → e.Placed p file := by
  constructor
  · intro d hd
    obtain ⟨t, k, f, hs, hf, rfl⟩ := mem_diagnostics.1 hd
    exact ⟨rfl, (Task.found_of_mem hf).blames hs.within⟩
  · intro n sink e he
    have hstart : (Machine.initial file sink).Runs p file := .initial sink
    have hrun := execProgram_accounts (n := n) (List.Subset.refl p) _ hstart
    unfold interpret Outcome.error? at he
    split at he
    · next hfailed =>
      cases he
      rw [hfailed] at hrun
      exact hrun
    · cases he

/-- A function that divides by its argument; the last name is not declared. -/
def inverting : Program :=
  [.fn ⟨"inverse", .int, [⟨"n", .int, 1⟩], 1, 1⟩
      [.ret (.bin .div (.lit ⟨.int, "1", 2⟩) (.var "n" 3) 3) 2],
    .print (.call "inverse" [.lit ⟨.int, "0", 5⟩] 5) 5,
    .print (.var "m" 6) 6]

theorem reports_name_causes_inverting :
    (∃ d ∈ (typeCheck inverting "f").diagnostics, d.position.line = 6 ∧ d.Placed inverting "f") ∧
      ∃ e, (interpret 20 inverting "f" .unlimited).error? = some e ∧ e.position.line = 3 ∧
        e.Placed inverting "f" := by
  obtain ⟨hcheck, hrun⟩ := reports_name_causes inverting "f"
  have hd : (⟨.undeclaredName "m" true, ⟨6, "f"⟩⟩ : Diagnostic) ∈
      (typeCheck inverting "f").diagnostics := by decide +kernel
  have he : (interpret 20 inverting "f" .unlimited).error? =
      some ⟨.divisionByZero, ⟨3, "f"⟩⟩ := by decide +kernel
  exact ⟨⟨_, hd, rfl, hcheck _ hd⟩, _, he, rfl, hrun _ _ _ he⟩

end Imperative
