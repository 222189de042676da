import Imperative.Proofs.Typing.FirstOrder
import Imperative.Proofs.Typing.Operations

/-!
What the check tells of types is true of runs: of all runs of plain programs, and as to operators,
of all runs of programs in which names have one type throughout.
-/

namespace Imperative

variable {p : Program}

/-- The scopes that have frames at a place, the global one as it is at the end of the check. -/
def live (p : Program) (cs : List SymbolTable) (t : SymbolTable) : List Scope :=
  active (t :: cs) ++ [globals p]

/-- The frames belong to the scopes, one by one, and each variable that a frame binds is declared in
its scope and has a value of the type that it is declared with. -/
def Memory.WellTyped (m : Memory) (ss : List Scope) : Prop :=
  List.Forall₂ (fun (f : Frame) s => ∀ x v, f.get? x = some v → s.get? x = some (.var v.type))
    m.frames ss

lemma Sound.wellTyped {cs : List SymbolTable} {t : SymbolTable} {m : Machine}
    (h : Sound p cs t m) (hl : ∀ x, ¬ Loose p x) : m.memory.WellTyped (live p cs t) := by
  refine List.rel_append (h.typed.tracks.frames.imp fun f s hf x v hx => (hf x v hx).1) ?_
  exact .cons (fun x v hx => (h.typed.base x v hx).2.resolve_right (hl x)) .nil

namespace Plain

variable {cs : List SymbolTable} {t : SymbolTable} {k : Task} {m : Machine}

/-- At the level of the program only the global frame is left. -/
lemma wellTyped_global (h : Plain p) (hp : Passes p) {l : List (String × Symbol)}
    (ht : SymbolTable.initial.Extends l t) (hm : Sound p [] t m) :
    m.memory.WellTyped [globals p] := by
  have hinner : t.inner = [] := List.forall₂_nil_left_iff.1 ht.inner_extends
  have hw := hm.wellTyped fun x => h.not_loose hp
  unfold live active SymbolTable.own at hw
  rw [List.flatMap_cons, hinner] at hw
  exact hw

lemma reached (h : Plain p) (hp : Passes p) {file : String} {sink : Sink}
    (hr : Reached p (.initial file sink) cs t k m) : Seen p t k ∧ Sound p cs t m := by
  obtain ⟨cs', t', heq, hs, hm⟩ :=
    (soundness hp h.noUnknown (h.uniform hp)).reached hp (.initial file sink) hr
  obtain ⟨rfl, rfl⟩ := heq (h.unambiguous hp)
  exact ⟨hs, hm⟩

/-- What may stop a run of a plain program, taking types, names and signals together. -/
lemma ordinary (h : Plain p) (hp : Passes p) {f : Fault} (ho : f.Operates) (hb : f.Blames p)
    (hi : ∀ signal, f ≠ .signalEscaped signal) : f.Ordinary := by
  cases f with
  | undefinedVariable x => exact h.not_loose hp hb
  | undefinedFunction x => exact h.not_conditional hb.choose_spec
  | illegalOperation => exact ho
  | signalEscaped signal => exact hi signal rfl
  | _ => trivial

end Plain

/-- **Types are sound in plain programs.** In a run of a valid one, expressions come to values of
the types that the check tells, variables are at all times bound to values of the types that they
are declared with, and only an ordinary fault stops the run. -/
theorem types_are_sound {file : String} (h : Plain p) (hv : (typeCheck p file).isValid = true)
    (sink : Sink) :
    (∀ cs t k m, Reached p (.initial file sink) cs t k m → m.memory.WellTyped (live p cs t)) ∧
    (∀ cs t e m n v m', Reached p (.initial file sink) cs t (.expr e) m →
      (evalExpr n e).run m = .done v m' →
      v.type = e.type t ∧ m'.memory.WellTyped (live p cs t)) ∧
    (∀ cs t s m n signal m', Reached p (.initial file sink) cs t (.stmt s) m →
      (execStmt n s).run m = .done signal m' →
      ∃ l t', t.Extends l t' ∧ m'.memory.WellTyped (live p cs t')) ∧
    (∀ n m, interpret n p file sink = .done () m → m.memory.WellTyped [globals p]) ∧
    ∀ n e m, interpret n p file sink = .failed e m →
      m.memory.WellTyped [globals p] ∧ e.fault.Ordinary := by
  have hp := (passes_iff p file).2 hv
  have hl : ∀ x, ¬ Loose p x := fun x => h.not_loose hp
  have keeps := (soundness hp h.noUnknown (h.uniform hp)).keeps hp
  have ends n := (soundness hp h.noUnknown (h.uniform hp)).interpret_ends hp n
    (.initial file sink)
  refine ⟨?_, ?_, ?_, ?_, ?_⟩
  · exact fun cs t k m hr => (h.reached hp hr).2.wellTyped hl
  · intro cs t e m n v m' hr he
    obtain ⟨hs, hm⟩ := h.reached hp hr
    obtain ⟨hm', htype⟩ := ((keeps n).expr hs hm).done he
    exact ⟨htype, Sound.wellTyped hm' hl⟩
  · intro cs t s m n signal m' hr he
    obtain ⟨hs, hm⟩ := h.reached hp hr
    obtain ⟨l, t', ht, hm', -⟩ := (((keeps n).stmt hs hm).done he).place
    exact ⟨l, t', ht, Sound.wellTyped hm' hl⟩
  · intro n m he
    exact h.wellTyped_global hp (Check.stmts_extends p .initial) ((ends n).done he)
  · intro n e m he
    have hstopped := (ends n).failed he
    obtain ⟨l, t, ht, hm⟩ := hstopped.place
    have hblames := (((agreement hp).interpret_ends hp n (.initial file sink)).failed he).faults
    exact ⟨h.wellTyped_global hp ht hm, h.ordinary hp hstopped.faults hblames hstopped.inside⟩

/-- A function with a loop over variables of its own. -/
def adder : FnDecl :=
  ⟨⟨"sum", .int, [⟨"n", .int, 2⟩], 2, 2⟩,
    [.decl .int [⟨"total", .lit ⟨.int, "0", 3⟩, 3⟩] 3,
      .loop (.var "n" 4)
        (.block [.assign "total" (.bin .add (.var "total" 5) (.var "n" 5) 5) 5,
          .assign "n" (.bin .sub (.var "n" 6) (.lit ⟨.int, "1", 6⟩) 6) 6] 4) 4,
      .ret (.var "total" 8) 8]⟩

/-- The function is called with a global variable. -/
def summing : Program :=
  [.decl .int [⟨"limit", .lit ⟨.int, "3", 1⟩, 1⟩] 1,
    .fn adder.header adder.body,
    .print (.bin .mod (.call "sum" [.var "limit" 10] 10) (.lit ⟨.int, "4", 10⟩) 10) 10]

/-- The machine when the function is called. -/
def summingMachine : Machine :=
  { Machine.initial "f" .unlimited with
    memory := Memory.initial.declare "limit" (.int 3)
    functions := Bindings.empty.insert "sum" adder }

/-- The types are those of the check where the function starts, after it has declared its variable
and after the call, and at the end of the run. -/
theorem types_are_sound_summing : Plain summing ∧ (typeCheck summing "f").isValid = true ∧
    (∃ cs t m, Reached summing (.initial "f" .unlimited) cs t (.stmts adder.body) m ∧
      m.memory.WellTyped (live summing cs t)) ∧
    (∃ cs t v m, Reached summing (.initial "f" .unlimited) cs t
        (.expr (.call "sum" [.var "limit" 10] 10)) summingMachine ∧
      (evalExpr 30 (.call "sum" [.var "limit" 10] 10)).run summingMachine = .done v m ∧
      v.type = (Expr.call "sum" [.var "limit" 10] 10).type t ∧
      m.memory.WellTyped (live summing cs t)) ∧
    (∃ cs t m signal m', Reached summing (.initial "f" .unlimited) cs t
        (.stmt (.decl .int [⟨"total", .lit ⟨.int, "0", 3⟩, 3⟩] 3)) m ∧
      (execStmt 3 (.decl .int [⟨"total", .lit ⟨.int, "0", 3⟩, 3⟩] 3)).run m = .done signal m' ∧
      ∃ l t', t.Extends l t' ∧ m'.memory.WellTyped (live summing cs t')) ∧
    (∃ m, interpret 30 summing "f" .unlimited = .done () m ∧
      m.memory.WellTyped [globals summing]) ∧
    ∀ n e m, interpret n summing "f" .unlimited = .failed e m →
      m.memory.WellTyped [globals summing] ∧ e.fault.Ordinary := by
  have h : Plain summing := by decide +kernel
  have hv : (typeCheck summing "f").isValid = true := by decide +kernel
  have hreturns : ((evalExpr 30 (.call "sum" [.var "limit" 10] 10)).run
      summingMachine).isDone = true := by decide +kernel
  have hends : (interpret 30 summing "f" .unlimited).isDone = true := by decide +kernel
  obtain ⟨v, m, hvalue⟩ := Outcome.exists_done hreturns
  obtain ⟨_, m', hend⟩ := Outcome.exists_done hends
  obtain ⟨hplaces, hexprs, hstmts, hdone, hfailed⟩ := types_are_sound h hv .unlimited
  have hlimit : (execStmt 3 (.decl .int [⟨"limit", .lit ⟨.int, "3", 1⟩, 1⟩] 1)).run
      (.initial "f" .unlimited) = .done .normal
        { Machine.initial "f" .unlimited with memory := Memory.initial.declare "limit" (.int 3) } :=
    rfl
  have hdefined : Reached summing (.initial "f" .unlimited) [] _ (.stmts (summing.drop 1)) _ :=
    Reached.program.tail hlimit
  have hcall : Reached summing (.initial "f" .unlimited) [] _
      (.expr (.call "sum" [.var "limit" 10] 10)) summingMachine :=
    .left (.first (.head (.tail (n := 1) hdefined rfl)) rfl)
  have hbody : Reached summing (.initial "f" .unlimited) [_] _ (.stmts adder.body) _ :=
    .call (n := 2) (d := adder) hcall rfl rfl hdefined.head.seen rfl
  refine ⟨h, hv, ⟨_, _, _, hbody, hplaces _ _ _ _ hbody⟩, ?_, ?_, ⟨m', hend, ?_⟩, hfailed⟩
  · exact ⟨_, _, v, m, hcall, hvalue, hexprs _ _ _ _ _ _ _ hcall hvalue⟩
  · exact ⟨_, _, _, _, _, hbody.head, rfl, hstmts _ _ _ _ 3 _ _ hbody.head rfl⟩
  · exact hdone _ _ hend

/-- **Operators fit their operands.** A program in which names that the check and the run may take
for different things have one type throughout never applies an operator to values that it cannot
take. -/
theorem operators_fit (hn : NoUnknown p) (hu : Uniform p) (n : Nat) (file : String) (sink : Sink)
    (left operator right : String) :
    (run n p file sink).fault? ≠ some (.illegalOperation left operator right) := by
  intro h
  obtain ⟨hv, hf⟩ := run_fault h
  have hp := (passes_iff p file).2 hv
  obtain ⟨e, m, he, hfault⟩ := Outcome.fault?_eq_some hf
  have hend := ((soundness hp hn hu).interpret_ends hp n (.initial file sink)).failed he
  have hop : e.fault.Operates := hend.faults
  rw [hfault] at hop
  exact hop

/-- A function inside another one that takes its variable for the global one, and a declaration that
may be left out. -/
def nesting : Program :=
  [.decl .int [⟨"x", .lit ⟨.int, "1", 1⟩, 1⟩] 1,
    .fn ⟨"f", .int, [⟨"n", .int, 2⟩], 2, 2⟩
      [.decl .int [⟨"x", .lit ⟨.int, "2", 3⟩, 3⟩] 3,
       .fn ⟨"g", .int, [⟨"n", .int, 4⟩], 4, 4⟩ [.ret (.bin .mod (.var "x" 5) (.var "n" 5) 5) 5],
       .cond (.var "n" 7) (.decl .int [⟨"y", .lit ⟨.int, "3", 7⟩, 7⟩] 7) none 7,
       .ret (.bin .add (.call "g" [.var "n" 8] 8) (.var "y" 8) 8) 8],
    .print (.call "f" [.lit ⟨.int, "2", 10⟩] 10) 10]

theorem operators_fit_nesting : NoUnknown nesting ∧ Uniform nesting ∧
    (run 100 nesting "f" .unlimited).fault? ≠ some (.illegalOperation "int" "%" "int") := by
  have hn : NoUnknown nesting := by decide +kernel
  have hfree : ∀ n ∈ (Node.program nesting).walk, n.tag ≠ "assign" := by decide +kernel
  have hu : Uniform nesting := by
    refine .of_nodes (by decide +kernel) (by decide +kernel) fun t x e line hs => ?_
    exact absurd rfl (hfree _ hs.within)
  exact ⟨hn, hu, operators_fit hn hu 100 "f" .unlimited "int" "%" "int"⟩

/-- A function inside another one that returns a string, in the place of one that returns an
integer. -/
def returning : Program :=
  [.fn ⟨"g", .int, [], 1, 1⟩ [.ret (.lit ⟨.int, "1", 1⟩) 1],
    .fn ⟨"f", .int, [], 2, 2⟩
      [.fn ⟨"g", .string, [], 3, 3⟩ [.ret (.lit ⟨.string, "\"a\"", 3⟩) 3],
       .ret (.lit ⟨.int, "0", 4⟩) 4],
    .expr (.call "f" [] 6) 6,
    .print (.bin .mod (.call "g" [] 7) (.lit ⟨.int, "2", 7⟩) 7) 7]

/-- The same with a parameter. -/
def receiving : Program :=
  [.fn ⟨"g", .int, [⟨"x", .string, 1⟩], 1, 1⟩ [.ret (.lit ⟨.int, "1", 1⟩) 1],
    .fn ⟨"f", .int, [], 2, 2⟩
      [.fn ⟨"g", .int, [⟨"x", .int, 3⟩], 3, 3⟩
        [.ret (.bin .mod (.var "x" 3) (.lit ⟨.int, "2", 3⟩) 3) 3],
       .ret (.lit ⟨.int, "0", 4⟩) 4],
    .expr (.call "f" [] 6) 6,
    .print (.call "g" [.lit ⟨.string, "\"a\"", 7⟩] 7) 7]

/-- A declaration that is left out, where a global variable has its name. -/
def skipping : Program :=
  [.decl .string [⟨"x", .lit ⟨.string, "\"a\"", 1⟩, 1⟩] 1,
    .fn ⟨"f", .int, [], 2, 2⟩
      [.cond (.lit ⟨.int, "0", 3⟩) (.decl .int [⟨"x", .lit ⟨.int, "1", 3⟩, 3⟩] 3) none 3,
       .ret (.bin .mod (.var "x" 4) (.lit ⟨.int, "2", 4⟩) 4) 4],
    .print (.call "f" [] 6) 6]

/-- A function inside another one that takes its variable for the global one. -/
def capturing : Program :=
  [.decl .string [⟨"x", .lit ⟨.string, "\"a\"", 1⟩, 1⟩] 1,
    .fn ⟨"f", .int, [], 2, 2⟩
      [.decl .int [⟨"x", .lit ⟨.int, "1", 3⟩, 3⟩] 3,
       .fn ⟨"g", .int, [], 4, 4⟩ [.ret (.bin .mod (.var "x" 4) (.lit ⟨.int, "2", 4⟩) 4) 4],
       .ret (.call "g" [] 5) 5],
    .print (.call "f" [] 7) 7]

/-- A float that is assigned to an integer variable which is not found. -/
def widening : Program :=
  [.fn ⟨"f", .int, [], 1, 1⟩
      [.decl .int [⟨"x", .lit ⟨.int, "1", 2⟩, 2⟩] 2,
       .fn ⟨"g", .int, [], 3, 3⟩
        [.assign "x" (.lit ⟨.float, "2.5", 4⟩) 4,
         .ret (.bin .mod (.var "x" 5) (.lit ⟨.int, "2", 5⟩) 5) 5],
       .ret (.call "g" [] 7) 7],
    .print (.call "f" [] 9) 9]

/-- None of the conditions on names could be left out. -/
theorem valid_unfitting :
    Slips returning (.illegalOperation "string" "%" "int") ∧
    Slips receiving (.illegalOperation "string" "%" "int") ∧
    Slips skipping (.illegalOperation "string" "%" "int") ∧
    Slips capturing (.illegalOperation "string" "%" "int") ∧
    Slips widening (.illegalOperation "float" "%" "float") := by
  decide +kernel

end Imperative
