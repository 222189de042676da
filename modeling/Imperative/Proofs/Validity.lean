import Imperative.Proofs.Check.Found
import Imperative.Run

/-!
What has been reported decides whether a program runs.

A checker notes beside its diagnostics whether one of them is an error. Whatever is done to a
checker, no diagnostic is taken back and the note stays true. So a program is rejected just if its
check reports an error, and then nothing is printed; what is reported of a program that runs are
losses of fractions.
-/

namespace Imperative

lemma Diagnostic.isError_eq (d : Diagnostic) : d.isError = decide (d.severity = .error) := rfl

namespace Checker

/-- What is done to a checker. -/
inductive Op
  | report (f : Finding)
  | reportSymbolError (e : SymbolError) (line : Nat)
  | declare (name : String) (symbol : Symbol) (line : Nat)
  | checkStore (declared assigned : Ty) (line : Nat)
  | visit (n : Node)
  /-- Anything at all that is done to the table of symbols, past the checker. -/
  | symbols (change : SymbolTable → SymbolTable)

def after (c : Checker) : Op → Checker
  | .report f => c.report f
  | .reportSymbolError e line => c.reportSymbolError e line
  | .declare name symbol line => c.declare name symbol line
  | .checkStore declared assigned line => c.checkStore declared assigned line
  | .visit n => (c.visit n).2
  | .symbols change => { c with symbols := change c.symbols }

def run (c : Checker) (ops : List Op) : Checker := ops.foldl after c

/-- Operations lead to the checker from one that knows nothing. -/
def Reached (c : Checker) : Prop := ∃ file ops, (initial file).run ops = c

/-- The second checker has the diagnostics of the first and further ones, and is valid if the first
is and there is no error among these. -/
structure Reports (c : Checker) (ds : List Diagnostic) (d : Checker) : Prop where
  diagnostics : d.diagnostics = c.diagnostics ++ ds
  isValid : d.isValid = (c.isValid && ds.all fun x => !x.isError)

variable {c d : Checker} {ds : List Diagnostic}

lemma reportAll_reports (c : Checker) (fs : List Finding) :
    c.Reports (fs.map fun f => ⟨f.problem, ⟨f.line, c.file⟩⟩) (c.reportAll fs) := by
  rw [reportAll_eq]
  refine ⟨rfl, ?_⟩
  rw [List.all_map]
  rfl

lemma follow_reports (c : Checker) (check : SymbolTable → Checked) :
    ∃ ds, c.Reports ds (c.follow check) :=
  have h := reportAll_reports { c with symbols := (check c.symbols).symbols }
    (check c.symbols).findings
  ⟨_, h.diagnostics, h.isValid⟩

/-- **All that an operation does to the diagnostics is to report further ones.** -/
theorem after_reports (c : Checker) (op : Op) : ∃ ds, c.Reports ds (c.after op) := by
  cases op with
  | report f => exact ⟨_, reportAll_reports c [f]⟩
  | reportSymbolError e line =>
    exact ⟨_, reportAll_reports c [⟨e.problem c.symbols.isGlobal, line⟩]⟩
  | declare name symbol line => exact follow_reports c (Check.declare name symbol line)
  | checkStore declared assigned line => exact ⟨_, reportAll_reports c _⟩
  | visit n =>
    cases n with
    | program p => exact follow_reports c (Check.stmts p)
    | stmt s => exact follow_reports c (Check.stmt s)
    | expr e => exact follow_reports c (Check.expr e)
  | symbols change => exact ⟨[], (List.append_nil _).symm, (Bool.and_true _).symm⟩

/-- The checker is valid as its diagnostics say. -/
def InStep (c : Checker) : Prop := c.isValid = c.diagnostics.all fun d => !d.isError

lemma Reports.inStep (h : c.Reports ds d) (hc : c.InStep) : d.InStep := by
  unfold InStep at hc ⊢
  rw [h.isValid, h.diagnostics, List.all_append, hc]

theorem run_inStep (hc : c.InStep) (ops : List Op) : (c.run ops).InStep := by
  induction ops generalizing c with
  | nil => exact hc
  | cons op ops ih =>
    obtain ⟨ds, hop⟩ := c.after_reports op
    exact ih (hop.inStep hc)

lemma Reached.inStep (h : c.Reached) : c.InStep := by
  obtain ⟨file, ops, rfl⟩ := h
  exact run_inStep (c := initial file) rfl ops

lemma InStep.isValid_iff (hc : c.InStep) :
    c.isValid = true ↔ ∀ d ∈ c.diagnostics, d.severity ≠ .error := by
  rw [hc, List.all_eq_true]
  simp only [Diagnostic.isError_eq, Bool.not_eq_true', decide_eq_false_iff_not, ne_eq]

lemma InStep.invalid_iff (hc : c.InStep) :
    c.isValid = false ↔ ∃ d ∈ c.diagnostics, d.severity = .error := by
  rw [← Bool.not_eq_true, hc.isValid_iff]
  simp only [ne_eq, not_forall, not_not, exists_prop]

/-- A diagnostic is an error or a warning. -/
lemma errorCount_add_warningCount (c : Checker) :
    c.errorCount + c.warningCount = c.diagnostics.length := by
  rw [c.diagnostics.length_eq_countP_add_countP Diagnostic.isError]
  refine congrArg (c.errorCount + ·) (List.countP_congr fun d _ => ?_)
  cases h : d.severity <;> simp [Diagnostic.isError_eq, h]

lemma diagnostics_prefix_after (c : Checker) (op : Op) :
    c.diagnostics <+: (c.after op).diagnostics := by
  obtain ⟨ds, hop⟩ := c.after_reports op
  rw [hop.diagnostics]
  exact List.prefix_append _ _

end Checker

variable {p : Program} {file : String} {n : Nat} {sink : Sink} {c : Checker}

/-- The check of a program is one operation on a checker that knows nothing. -/
lemma typeCheck_reached (p : Program) (file : String) : (typeCheck p file).Reached :=
  ⟨file, [.visit (.program p)], rfl⟩

/-- What is said of a store is an error, or that a float loses its fraction. -/
lemma loss_of_store {declared assigned : Ty} {line : Nat} {f : Finding}
    (hf : f ∈ storeFindings declared assigned line) (hw : f.problem.isError = false) :
    f.problem = .precisionLoss .int .float := by
  unfold storeFindings at hf
  split at hf
  · cases hf
  · split at hf
    · cases hf
    · cases List.mem_singleton.1 hf
      rfl
    · cases List.mem_singleton.1 hf
      cases hw

/-- **The one thing that is said and is no error is that a float loses its fraction.** -/
theorem Task.Found.loss {t : SymbolTable} {k : Task} {f : Finding} (h : Found t k f)
    (hw : f.problem.isError = false) : f.problem = .precisionLoss .int .float := by
  cases h with
  | initValue hf | assigned _ hf => exact loss_of_store hf hw
  | initName hf | param _ hf =>
    obtain ⟨-, hproblem | hproblem⟩ := mem_declare hf <;> rw [hproblem] at hw <;> cases hw
  | _ => cases hw

lemma typeCheck_losses (hv : (typeCheck p file).isValid = true) :
    ∀ d ∈ (typeCheck p file).diagnostics, d.problem = .precisionLoss .int .float := by
  intro d hd
  -- As the checker is valid, what has been found is no error.
  have hw : d.isError = false := by
    have hall := (typeCheck_reached p file).inStep.symm.trans hv
    simpa using List.all_eq_true.1 hall d hd
  obtain ⟨t, k, f, -, hf, rfl⟩ := mem_diagnostics.1 hd
  exact (Task.found_of_mem hf).loss hw

lemma run_eq_rejected : run n p file sink = .rejected c ↔
    (typeCheck p file).isValid = false ∧ c = typeCheck p file := by
  unfold run
  dsimp only
  cases (typeCheck p file).isValid with
  | true => cases interpret n p file sink <;> simp
  | false => simp [eq_comm]

lemma run_completed {s : Sink} (h : run n p file sink = .completed c s) :
    (typeCheck p file).isValid = true ∧ c = typeCheck p file := by
  unfold run at h
  dsimp only at h
  split at h
  · next hv =>
    refine ⟨hv, ?_⟩
    split at h <;> cases h
    rfl
  · cases h

/-- Checks a program and then runs it, as one computation on the machine that has the sink. -/
def execChecked (fuel : Nat) (p : Program) : Exec Checker := do
  let checker := typeCheck p (← Exec.machine).file
  if checker.isValid then execProgram fuel p
  pure checker

/-- The outcome of a run that such a computation comes to. -/
def Outcome.toRun : Outcome Checker → RunOutcome
  | done c m => if c.isValid then .completed c m.sink else .rejected c
  | failed e m => .failed e m.sink
  | outOfFuel => .outOfFuel

lemma run_execChecked (n : Nat) (p : Program) (m : Machine) : (execChecked n p).run m =
    (if (typeCheck p m.file).isValid then execProgram n p >>= fun _ => pure (typeCheck p m.file)
      else pure (typeCheck p m.file)).run m := rfl

lemma execChecked_valid {m : Machine} (hv : (typeCheck p m.file).isValid = true) :
    (execChecked n p).run m =
      (execProgram n p >>= fun _ => pure (typeCheck p m.file)).run m := by
  rw [run_execChecked, if_pos hv]

/-- What is not valid leaves the machine as it was. -/
lemma execChecked_invalid {m : Machine} (hv : (typeCheck p m.file).isValid = false) :
    (execChecked n p).run m = .done (typeCheck p m.file) m := by
  rw [run_execChecked, hv]
  rfl

/-- A run is such a computation. -/
lemma run_eq_execChecked (n : Nat) (p : Program) (file : String) (sink : Sink) :
    run n p file sink = ((execChecked n p).run (.initial file sink)).toRun := by
  unfold run interpret
  cases hv : (typeCheck p file).isValid with
  | false =>
    rw [execChecked_invalid (m := .initial file sink) hv]
    simp only [Outcome.toRun, Machine.initial, hv, Bool.false_eq_true, if_false]
  | true =>
    rw [execChecked_valid (m := .initial file sink) hv, Exec.run_bind]
    cases (execProgram n p).run (.initial file sink) with
    | done _ m => simp only [Exec.run_pure, Outcome.toRun, Machine.initial, hv, if_true]
    | failed | outOfFuel => simp only [Outcome.toRun, hv, if_true]

/-- **Errors, and only errors, keep a program from running.** However a checker has come about, it
is valid just if none of its diagnostics is an error; errors and warnings make up the diagnostics;
and an operation adds to them at the end. A program is rejected just if its check reports an error.
Then the machine, and so the sink, is left as it was, and fuel and sink make no difference. What is
reported of a program that runs to its end are warnings of floats that lose their fractions. -/
theorem validity_is_faithful :
    (∀ c : Checker, c.Reached →
      (c.isValid = true ↔ ∀ d ∈ c.diagnostics, d.severity ≠ .error) ∧
      c.errorCount + c.warningCount = c.diagnostics.length ∧
      ∀ op, c.diagnostics <+: (c.after op).diagnostics) ∧
    ∀ n p file sink,
      run n p file sink = ((execChecked n p).run (.initial file sink)).toRun ∧
      ((∃ c, run n p file sink = .rejected c) ↔
        ∃ d ∈ (typeCheck p file).diagnostics, d.severity = .error) ∧
      (∀ c, run n p file sink = .rejected c → c = typeCheck p file ∧
        (execChecked n p).run (.initial file sink) = .done c (.initial file sink) ∧
        ∀ n' sink', run n' p file sink' = .rejected c) ∧
      ∀ c s, run n p file sink = .completed c s → c = typeCheck p file ∧
        ∀ d ∈ c.diagnostics, d.severity = .warning ∧ d.problem = .precisionLoss .int .float := by
  refine ⟨fun c hc => ?_, fun n p file sink => ?_⟩
  · exact ⟨hc.inStep.isValid_iff, c.errorCount_add_warningCount, c.diagnostics_prefix_after⟩
  refine ⟨run_eq_execChecked n p file sink, ?_, fun c hrun => ?_, fun c s hrun => ?_⟩
  · rw [← (typeCheck_reached p file).inStep.invalid_iff]
    exact ⟨fun ⟨_, hrun⟩ => (run_eq_rejected.1 hrun).1,
      fun hv => ⟨_, run_eq_rejected.2 ⟨hv, rfl⟩⟩⟩
  · obtain ⟨hv, rfl⟩ := run_eq_rejected.1 hrun
    exact ⟨rfl, execChecked_invalid hv, fun _ _ => run_eq_rejected.2 ⟨hv, rfl⟩⟩
  · obtain ⟨hv, rfl⟩ := run_completed hrun
    refine ⟨rfl, fun d hd => ?_⟩
    have hloss := typeCheck_losses hv d hd
    exact ⟨by rw [Diagnostic.severity, hloss]; rfl, hloss⟩

/-- A loss, a break in a loop, and a name that is declared and read. -/
def harmless : List Checker.Op :=
  [.checkStore .int .float 1, .symbols (·.push .loop), .visit (.stmt (.brk 2)),
    .declare "n" (.var .int) 3, .visit (.expr (.var "n" 4))]

/-- With the loop given up, another break stands outside; a loss that is reported later does not
make up for it. -/
def faulty : List Checker.Op :=
  harmless ++ [.symbols .pop, .visit (.stmt (.brk 5)), .report ⟨.precisionLoss .int .float, 6⟩]

/-- Prints an integer, or else stores a float in it. -/
def rounding : Program :=
  [.decl .int [⟨"n", .lit ⟨.int, "1", 1⟩, 1⟩] 1,
    .cond (.var "n" 2) (.print (.var "n" 2) 2)
      (some (.assign "n" (.lit ⟨.float, "1.5", 3⟩) 3)) 2]

/-- After all that, stores a text in the integer. -/
def refused : Program := rounding ++ [.assign "n" (.lit ⟨.string, "\"a\"", 4⟩) 4]

theorem validity_is_faithful_rounding :
    ((Checker.initial "f").run harmless).isValid = true ∧
    ((Checker.initial "f").run faulty).isValid = false ∧
    ((Checker.initial "f").run faulty).errorCount +
      ((Checker.initial "f").run faulty).warningCount = 3 ∧
    (∃ s, run 9 rounding "f" .unlimited = .completed (typeCheck rounding "f") s ∧
      s.bytes = "1\n".toUTF8 ∧
      ∀ d ∈ (typeCheck rounding "f").diagnostics, d.problem = .precisionLoss .int .float) ∧
    (∀ n sink, run n refused "f" sink = .rejected (typeCheck refused "f")) ∧
    (execChecked 9 refused).run (.initial "f" .unlimited) =
      .done (typeCheck refused "f") (.initial "f" .unlimited) := by
  obtain ⟨hcheckers, hruns⟩ := validity_is_faithful
  obtain ⟨hharmless, -, -⟩ := hcheckers _ ⟨"f", harmless, rfl⟩
  obtain ⟨hfaulty, hcount, -⟩ := hcheckers _ ⟨"f", faulty, rfl⟩
  obtain ⟨-, -, -, hcompleted⟩ := hruns 9 rounding "f" .unlimited
  obtain ⟨-, hiff, hrejected, -⟩ := hruns 9 refused "f" .unlimited
  have hprinted : (match run 9 rounding "f" .unlimited with
      | .completed _ s => decide (s.bytes = "1\n".toUTF8)
      | _ => false) = true := by decide +kernel
  obtain ⟨c, hc⟩ := hiff.2 (by decide +kernel)
  obtain ⟨rfl, hstill, hall⟩ := hrejected c hc
  refine ⟨hharmless.2 (by decide +kernel), ?_, hcount.trans (by decide +kernel), ?_, hall, hstill⟩
  · rw [← Bool.not_eq_true, hfaulty]
    decide +kernel
  · split at hprinted
    · next c s hrun =>
      obtain ⟨rfl, hlosses⟩ := hcompleted c s hrun
      exact ⟨s, hrun, of_decide_eq_true hprinted, fun d hd => (hlosses d hd).2⟩
    · cases hprinted

end Imperative
