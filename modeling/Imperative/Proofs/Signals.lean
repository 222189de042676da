import Imperative.Proofs.Machine.Reached

/-!
No break, continue or return gets out of the construct that takes it.

A signal is checked against the scopes around its statement, and a run follows these scopes. All it
takes is that every function in the table of a run has been checked.
-/

namespace Imperative

variable {p : Program}

/-- Every function that has been defined has been checked. -/
def Machine.Checked (p : Program) (m : Machine) : Prop :=
  ∀ name d, m.functions.get? name = some d → ∃ t, Seen p t (.stmt (.fn d.header d.body))

namespace Machine.Checked

lemma initial (file : String) (sink : Sink) : (Machine.initial file sink).Checked p := by
  intro name d hd
  cases hd

lemma define {m : Machine} {t : SymbolTable} {h : FnHeader} {body : List Stmt}
    (hm : m.Checked p) (hs : Seen p t (.stmt (.fn h body))) :
    Checked p { m with functions := m.functions.insert h.name ⟨h, body⟩ } := by
  intro name d hd
  rw [Bindings.get?_insert] at hd
  split at hd
  · cases hd
    exact ⟨t, hs⟩
  · exact hm name d hd

lemma callee {m : Machine} {name : String} {d : FnDecl} (hp : Passes p) (hm : m.Checked p)
    (hd : m.functions.get? name = some d) : ∃ u v, Seen p u (.stmt (.fn d.header d.body)) ∧
      u.declare d.header.name (.fn (Check.signatureOf d.header)) = .ok v := by
  obtain ⟨u, hu⟩ := hm name d hd
  obtain ⟨v, hv, -⟩ := (hu.passes hp).fn
  exact ⟨u, v, hu, hv⟩

end Machine.Checked

/-- That all functions have been checked is an invariant. -/
def checkedInvariant (hp : Passes p) : Invariant p where
  Holds _ _ m := m.Checked p
  Yields _ _ _ := True
  Returns _ _ := True
  Faults _ := True
  ordinary _ := trivial
  lit _ := trivial
  var _ _ _ _ := trivial
  unbound _ _ _ := trivial
  bin _ _ _ := ⟨fun _ _ => trivial, fun _ _ => trivial⟩
  undefined _ _ _ := trivial
  call := by
    intro cs t m m' name args line d vs _ hm hd _ hm' _
    obtain ⟨u, v, hu, hv⟩ := hm.callee hp hd
    exact ⟨u, v, hu, hv, hm'⟩
  result _ _ _ _ := trivial
  leaveCall _ hm := hm
  enterScope _ hm := hm
  leaveScope _ _ hm := hm
  settle _ := Iff.rfl
  declare _ hm _ := hm
  store _ hm _ := hm
  define hs _ hm := hm.define hs
  print hm := hm
  skip _ _ _ hm := hm
  ret _ _ _ := trivial

/-- A run comes to the body of every function that it calls. -/
theorem Reached.callee {file : String} {sink : Sink} {cs : List SymbolTable} {t : SymbolTable}
    {name : String} {args : List Expr} {line : Nat} {m m' : Machine} {d : FnDecl} {n : Nat}
    {vs : List Value} (hp : Passes p)
    (h : Reached p (.initial file sink) cs t (.expr (.call name args line)) m)
    (hd : m.functions.get? name = some d) (hargs : (evalArgs n args).run m = .done vs m') :
    ∃ v, Reached p (.initial file sink) (t :: cs) (Check.entry d.header v) (.stmts d.body)
      (m'.enter (callFrame d.header vs)) := by
  have hstart := Machine.Checked.initial (p := p) file sink
  obtain ⟨_, _, -, -, hm⟩ := Invariant.reached (I := checkedInvariant hp) hp hstart h
  obtain ⟨u, v, hu, hv⟩ := Machine.Checked.callee hp hm hd
  exact ⟨v, h.call hd hargs hu hv⟩

/-- **Signals stay where they belong.** In a run of a valid program no signal escapes: no break or
continue reaches a call, and nothing at all comes out of a statement of the program itself. -/
theorem signals_stay {file : String} (hv : (typeCheck p file).isValid = true) (sink : Sink) :
    (∀ n e m, interpret n p file sink = .failed e m → ∀ signal, e.fault ≠ .signalEscaped signal) ∧
    (∀ cs t name args line m d n vs m' n' s m'',
      Reached p (.initial file sink) cs t (.expr (.call name args line)) m →
      m.functions.get? name = some d → (evalArgs n args).run m = .done vs m' →
      (execStmts n' d.body).run (m'.enter (callFrame d.header vs)) = .done s m'' →
      s = .normal ∨ ∃ v, s = .ret v) ∧
    ∀ before s after n m n' signal m', p = before ++ s :: after →
      (execProgram n before).run (.initial file sink) = .done () m →
      (execStmt n' s).run m = .done signal m' → signal = .normal := by
  have hp := (passes_iff p file).2 hv
  have hstart := Machine.Checked.initial (p := p) file sink
  have keeps := (checkedInvariant hp).keeps hp
  refine ⟨fun n e m hr => ?_, ?_, ?_⟩
  · exact (((checkedInvariant hp).interpret_ends hp n hstart).failed hr).inside
  · intro cs t name args line m d n vs m' n' s m'' hreach hd hargs hbody
    obtain ⟨cs', t', -, hs, hm⟩ := Invariant.reached (I := checkedInvariant hp) hp hstart hreach
    obtain ⟨hm', -⟩ := ((keeps n).args (hs.part (.head _)) hm).done hargs
    obtain ⟨u, v, hu, hv⟩ := Machine.Checked.callee hp hm hd
    have hb : Seen p (Check.entry d.header v) (.stmts d.body) :=
      hu.part (by simp [Task.parts, hv])
    have hentry : (checkedInvariant hp).Holds (t' :: cs') (Check.entry d.header v)
        (m'.enter (callFrame d.header vs)) := hm'
    have hended := ((keeps n').stmts hb hentry).done hbody
    have hfits := hended.fits.of_extends (Check.params_extends d.header.params _)
    rcases hfits.of_function with hn | ⟨v, hs, -⟩
    · exact .inl hn
    · exact .inr ⟨v, hs⟩
  · rintro before s after n m n' signal m' rfl hbefore hs
    obtain ⟨l, t, ht, hseen, hm⟩ := (checkedInvariant hp).holds_at hp n (.refl [] .initial)
      .program hstart hbefore
    exact (((keeps n').stmt hseen hm).done hs).fits.of_initial ht

/-- A function that returns out of an endless loop. -/
def leaver : FnDecl :=
  ⟨⟨"f", .int, [⟨"n", .int, 1⟩], 1, 1⟩,
    [.loop (.lit ⟨.int, "1", 2⟩) (.block [.ret (.var "n" 3) 3] 2) 2]⟩

/-- A loop that calls the function and is left by a break. -/
def leavingLoop : Stmt :=
  .repeatUntil [.print (.call "f" [.lit ⟨.int, "7", 6⟩] 6) 6, .labeled "out" (.brk 7) 7]
    (.lit ⟨.int, "0", 8⟩) 5

def leaving : Program := [.fn leaver.header leaver.body, leavingLoop]

/-- The machine when the loop starts. -/
def leavingMachine : Machine :=
  { Machine.initial "f" .unlimited with functions := Bindings.empty.insert "f" leaver }

/-- The run comes to its end, by the body of the function and by the loop. -/
theorem signals_stay_leaving : (typeCheck leaving "f").isValid = true ∧
    (∃ m, interpret 20 leaving "f" .unlimited = .done () m ∧ m.sink.bytes = "7\n".toUTF8) ∧
    (∀ n e m, interpret n leaving "f" .unlimited = .failed e m →
      ∀ signal, e.fault ≠ .signalEscaped signal) ∧
    (∃ cs t m m' s m'',
      Reached leaving (.initial "f" .unlimited) cs t (.expr (.call "f" [.lit ⟨.int, "7", 6⟩] 6)) m ∧
      (evalArgs 2 [.lit ⟨.int, "7", 6⟩]).run m = .done [.int 7] m' ∧
      (execStmts 9 leaver.body).run (m'.enter (callFrame leaver.header [.int 7])) = .done s m'' ∧
      (s = .normal ∨ ∃ v, s = .ret v)) ∧
    (execProgram 2 [.fn leaver.header leaver.body]).run (.initial "f" .unlimited) =
      .done () leavingMachine ∧
    ∃ signal m, (execStmt 20 leavingLoop).run leavingMachine = .done signal m ∧
      signal = .normal := by
  have hv : (typeCheck leaving "f").isValid = true := by decide +kernel
  have hends : (interpret 20 leaving "f" .unlimited).isDone = true := by decide +kernel
  have hprinted : (interpret 20 leaving "f" .unlimited).machine?.map (fun m => m.sink.bytes) =
      some "7\n".toUTF8 := by decide +kernel
  have hleft : ((execStmt 20 leavingLoop).run leavingMachine).isDone = true := by decide +kernel
  obtain ⟨_, m, hend⟩ := Outcome.exists_done hends
  obtain ⟨signal, m', hloop⟩ := Outcome.exists_done hleft
  obtain ⟨hfailed, hbody, hstmt⟩ := signals_stay hv .unlimited
  have hdefined : (execStmt 1 (.fn leaver.header leaver.body)).run (.initial "f" .unlimited) =
      .done .normal leavingMachine := rfl
  have hcall : Reached leaving (.initial "f" .unlimited) [] _
      (.expr (.call "f" [.lit ⟨.int, "7", 6⟩] 6)) _ :=
    (Reached.program.tail hdefined).head.repeatBody.head.first rfl
  rw [hend] at hprinted
  refine ⟨hv, ⟨m, hend, Option.some.inj hprinted⟩, hfailed, ?_, rfl, signal, m', hloop, ?_⟩
  · exact ⟨_, _, _, _, _, _, hcall, rfl, rfl, hbody _ _ _ _ _ _ _ 2 _ _ 9 _ _ hcall rfl rfl rfl⟩
  · exact hstmt [_] leavingLoop [] 2 _ 20 _ _ rfl rfl hloop

end Imperative
