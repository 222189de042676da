import Imperative.Proofs.Check.Report
import Imperative.Proofs.Typing.Soundness

/-!
Floats that lose their fraction in a store.

In plain programs a run stores a float in an integer variable only where the check has a warning
for it.
-/

namespace Imperative

variable {p : Program}

/-- As a value of the type, the float becomes an integer. -/
def Value.Drops (v : Value) (type : Ty) : Prop := v.type = .float ∧ (v.coerce type).type = .int

lemma Value.drops_iff {v : Value} {type : Ty} : v.Drops type ↔ v.type = .float ∧ type = .int := by
  refine and_congr_right fun hv => ?_
  cases v with
  | int | string => cases hv
  | float x => cases type <;> simp [coerce, Value.type]

/-- A run of the program from the machine `m₀` stores a float as an integer, in a declaration or an
assignment on the line. -/
inductive Truncates (p : Program) (m₀ : Machine) : Nat → Prop
  | init {cs t type i is m n v m'} : Reached p m₀ cs t (.inits type (i :: is)) m →
      (evalExpr n i.value).run m = .done v m' → v.Drops type → Truncates p m₀ i.line
  | assign {cs t name e line m n v m' old} : Reached p m₀ cs t (.stmt (.assign name e line)) m →
      (evalExpr n e).run m = .done v m' → m'.memory.lookup name = some old → v.Drops old.type →
      Truncates p m₀ line

/-- What is reported at a place that the check comes by is among the diagnostics. -/
lemma Seen.diagnostic {t : SymbolTable} {k : Task} {f : Finding} (h : Seen p t k)
    (hf : f ∈ k.reports t) (file : String) :
    ⟨f.problem, ⟨f.line, file⟩⟩ ∈ (typeCheck p file).diagnostics :=
  mem_diagnostics.2 ⟨t, k, f, h, hf, rfl⟩

namespace Plain

variable {file : String} {sink : Sink} {cs : List SymbolTable} {t : SymbolTable} {m m' : Machine}
  {v : Value} {n : Nat}

/-- What an expression comes to has the type that the check tells. -/
lemma evaluated (h : Plain p) (hp : Passes p) {e : Expr} (hs : Seen p t (.expr e))
    (hm : Sound p cs t m) (he : (evalExpr n e).run m = .done v m') :
    Sound p cs t m' ∧ v.type = e.type t :=
  (((soundness hp h.noUnknown (h.uniform hp)).keeps hp n).expr hs hm).done he

lemma init_warned (h : Plain p) (hp : Passes p) {type : Ty} {i : Init} {is : List Init}
    (hr : Reached p (.initial file sink) cs t (.inits type (i :: is)) m)
    (he : (evalExpr n i.value).run m = .done v m') (hd : v.Drops type) :
    ⟨.precisionLoss .int .float, ⟨i.line, file⟩⟩ ∈ (typeCheck p file).diagnostics := by
  obtain ⟨hs, hm⟩ := h.reached hp hr
  obtain ⟨-, htype⟩ := h.evaluated hp (hs.part (.head _)) hm he
  obtain ⟨hv, rfl⟩ := Value.drops_iff.1 hd
  have hfound : ⟨.precisionLoss .int .float, i.line⟩ ∈ (Task.inits .int (i :: is)).reports t := by
    simp only [Task.reports]
    rw [← htype, hv]
    exact .head _
  exact hs.diagnostic hfound file

lemma assign_warned (h : Plain p) (hp : Passes p) {name : String} {e : Expr} {line : Nat}
    {old : Value} (hr : Reached p (.initial file sink) cs t (.stmt (.assign name e line)) m)
    (he : (evalExpr n e).run m = .done v m') (hl : m'.memory.lookup name = some old)
    (hd : v.Drops old.type) :
    ⟨.precisionLoss .int .float, ⟨line, file⟩⟩ ∈ (typeCheck p file).diagnostics := by
  obtain ⟨hs, hm⟩ := h.reached hp hr
  obtain ⟨hm', htype⟩ := h.evaluated hp (hs.part (.head _)) hm he
  obtain ⟨hv, hold⟩ := Value.drops_iff.1 hd
  obtain ⟨type, htable, -⟩ := (hs.passes hp).assign
  -- The check knows the variable by the type of the value that the run finds in it.
  have hvar : old.type = type :=
    hm'.typed.variable_type hp (h.uniform hp) hm'.agrees hs rfl htable hl
  have hfound : ⟨.precisionLoss .int .float, line⟩ ∈
      (Task.stmt (.assign name e line)).reports t := by
    simp only [Task.reports, Check.assignFindings, htable]
    rw [← htype, ← hvar, hv, hold]
    exact .head _
  exact hs.diagnostic hfound file

end Plain

/-- **No float is cut off in silence.** In a run of a valid plain program, each store of a float as
an integer has a warning on its line, so there is none in a program without diagnostics. -/
theorem truncations_are_announced {file : String} (h : Plain p)
    (hv : (typeCheck p file).isValid = true) (sink : Sink) :
    (∀ line, Truncates p (.initial file sink) line →
      ⟨.precisionLoss .int .float, ⟨line, file⟩⟩ ∈ (typeCheck p file).diagnostics) ∧
    ((typeCheck p file).diagnostics = [] → ∀ line, ¬ Truncates p (.initial file sink) line) := by
  have hp := (passes_iff p file).2 hv
  have announced : ∀ line, Truncates p (.initial file sink) line →
      ⟨.precisionLoss .int .float, ⟨line, file⟩⟩ ∈ (typeCheck p file).diagnostics := by
    intro line hline
    cases hline with
    | init hr he hd => exact h.init_warned hp hr he hd
    | assign hr he hl hd => exact h.assign_warned hp hr he hl hd
  refine ⟨announced, fun hnone line hline => ?_⟩
  have hmem := announced line hline
  rw [hnone] at hmem
  cases hmem

/-- A function that stores a float in an integer parameter. -/
def half : FnDecl :=
  ⟨⟨"half", .int, [⟨"n", .int, 1⟩], 1, 1⟩,
    [.assign "n" (.bin .mul (.var "n" 2) (.lit ⟨.float, "0.5", 2⟩) 2) 2, .ret (.var "n" 3) 3]⟩

def halving : Program :=
  [.fn half.header half.body, .print (.call "half" [.lit ⟨.int, "5", 5⟩] 5) 5]

lemma halving_truncates : Truncates halving (.initial "f" .unlimited) 2 := by
  have hdefined : (execStmt 9 (.fn half.header half.body)).run (.initial "f" .unlimited) =
      .done .normal { Machine.initial "f" .unlimited with
        functions := Bindings.empty.insert "half" half } := rfl
  have hstart : Reached halving (.initial "f" .unlimited) [] .initial (.stmts halving) _ := .program
  have hprint := (hstart.tail hdefined).head
  have hseen : Seen halving .initial (.stmt (.fn half.header half.body)) :=
    Seen.program.part (.head _)
  have hbody := (hprint.first rfl).call (n := 9) (d := half) rfl rfl hseen rfl
  exact .assign (n := 9) hbody.head rfl rfl ⟨rfl, rfl⟩

theorem truncations_are_announced_halving : Plain halving ∧
    (typeCheck halving "f").isValid = true ∧
    Truncates halving (.initial "f" .unlimited) 2 ∧
    ⟨.precisionLoss .int .float, ⟨2, "f"⟩⟩ ∈ (typeCheck halving "f").diagnostics :=
  have h : Plain halving := by decide +kernel
  have hv : (typeCheck halving "f").isValid = true := by decide +kernel
  ⟨h, hv, halving_truncates, (truncations_are_announced h hv .unlimited).1 2 halving_truncates⟩

end Imperative
