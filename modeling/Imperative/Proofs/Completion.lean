import Imperative.Proofs.Check.Report
import Imperative.Proofs.Machine.Paths
import Imperative.Proofs.Resolution.Variables
import Imperative.Proofs.Signals

/-!
Calls that bring no value.

The check makes sure that a function has a return, not that every path through its body comes to
one. Only functions with a path to the end of the body can finish without a value.
-/

namespace Imperative

open Stmt

variable {p : Program}

lemma Passes.accepted (hp : Passes p) : Accepted p := fun _ _ _ hs =>
  let ⟨u, hu, _⟩ := (hs.passes hp).fn
  ⟨u, hu⟩

lemma Machine.Checked.defined {m : Machine} (hm : m.Checked p) : m.Defined p := by
  intro name d hd
  obtain ⟨t, ht⟩ := hm name d hd
  exact ht.within

/-- How the body of a function that is called ends. -/
lemma Reached.body_ends {file : String} {sink : Sink} {cs : List SymbolTable} {t : SymbolTable}
    {name : String} {args : List Expr} {line : Nat} {m m' m'' : Machine} {d : FnDecl} {n n' : Nat}
    {vs : List Value} {s : Signal} (hp : Passes p)
    (h : Reached p (.initial file sink) cs t (.expr (.call name args line)) m)
    (hd : m.functions.get? name = some d) (hargs : (evalArgs n args).run m = .done vs m')
    (hbody : (execStmts n' d.body).run (m'.enter (callFrame d.header vs)) = .done s m'') :
    (s = .normal ∨ ∃ v, s = .ret v) ∧ allMayEnd d.body s.exit = true := by
  have hstart := Machine.Checked.initial (p := p) file sink
  obtain ⟨cs', t', -, hs, hm⟩ := Invariant.reached (I := checkedInvariant hp) hp hstart h
  obtain ⟨u, v, hu, hv⟩ := Machine.Checked.callee hp hm hd
  constructor
  · have hm' := (((checkedInvariant hp).keeps hp n).args (hs.part (.head _)) hm).done hargs
    have hentry : (checkedInvariant hp).Holds (t' :: cs') (Check.entry d.header v)
        (m'.enter (callFrame d.header vs)) := hm'.1
    have hframe := Exec.inFrame_done hbody
    obtain ⟨-, hs⟩ := (((checkedInvariant hp).keeps hp n').body hu hv hentry).done hframe
    exact hs.imp_right fun ⟨v, hv, _⟩ => ⟨v, hv⟩
  · have hdefined := Machine.Checked.defined hm
    have hm' := ((followsAt p n).args args m hdefined).done hargs
    have hentry : (m'.enter (callFrame d.header vs)).Defined p := hm'.1
    exact (((followsAt p n').stmts d.body (hdefined name d hd).body _ hentry).done hbody).2

/-- **Only functions that may finish bring no value.** Every function of a valid program has a
return of its own. A call is stopped for want of a value only if some function of the name has a
path to the end of its body, and where the function called has none, a body that ends returns a
value. -/
theorem unreturned_may_finish {file : String} (hv : (typeCheck p file).isValid = true)
    (sink : Sink) :
    (∀ d : FnDecl, d.Stands p → returns (ownIn d.body) = true) ∧
    (∀ n f, (interpret n p file sink).fault? = some (.missingReturnValue f) →
      ∃ d : FnDecl, d.Stands p ∧ d.header.name = f ∧ d.mayFinish = true) ∧
    ∀ cs t name args line m d n vs m' n' s m'',
      Reached p (.initial file sink) cs t (.expr (.call name args line)) m →
      m.functions.get? name = some d → (evalArgs n args).run m = .done vs m' →
      (execStmts n' d.body).run (m'.enter (callFrame d.header vs)) = .done s m'' →
      d.mayFinish = false → ∃ v, s = .ret v := by
  have hp := (passes_iff p file).2 hv
  refine ⟨fun d hd => ?_, fun n f hf => ?_, ?_⟩
  · obtain ⟨t, ht⟩ := hp.accepted.seen _ hd
    obtain ⟨u, hu⟩ := hp.accepted t _ _ ht
    exact (ht.passes hp).returns hu
  · obtain ⟨e, m, hr, he⟩ := Outcome.fault?_eq_some hf
    have hprogram : (execProgram n p).Follows p _ := execProgram_follows (Node.stmt_mem_walk p)
    have hexcused := (hprogram _ (.initial file sink)).failed hr
    rw [he] at hexcused
    exact hexcused
  · intro cs t name args line m d n vs m' n' s m'' h hd hargs hbody hfinish
    obtain ⟨hs, hend⟩ := h.body_ends hp hd hargs hbody
    refine hs.resolve_left ?_
    rintro rfl
    exact nomatch hfinish.symm.trans hend

/-- A function that returns on all paths, and one that does not. -/
def finishing : Program :=
  [.fn ⟨"sign", .int, [⟨"n", .int, 1⟩], 1, 1⟩
      [.cond (.bin .lt (.var "n" 2) (.lit ⟨.int, "0", 2⟩) 2)
        (.ret (.bin .sub (.lit ⟨.int, "0", 2⟩) (.lit ⟨.int, "1", 2⟩) 2) 2)
        (some (.ret (.lit ⟨.int, "1", 3⟩) 3)) 2],
    .fn ⟨"f", .int, [⟨"n", .int, 4⟩], 4, 4⟩
      [.loop (.var "n" 5) (.ret (.call "sign" [.var "n" 5] 5) 5) 5],
    .print (.call "f" [.lit ⟨.int, "7", 6⟩] 6) 6,
    .print (.call "f" [.lit ⟨.int, "0", 7⟩] 7) 7]

theorem unreturned_may_finish_finishing :
    (interpret 20 finishing "f" .unlimited).fault? = some (.missingReturnValue "f") ∧
      ∃ d : FnDecl, d.Stands finishing ∧ d.header.name = "f" ∧ d.mayFinish = true :=
  have hv : (typeCheck finishing "f").isValid = true := by decide +kernel
  have hf : (interpret 20 finishing "f" .unlimited).fault? = some (.missingReturnValue "f") := by
    decide +kernel
  ⟨hf, (unreturned_may_finish hv .unlimited).2.1 20 "f" hf⟩

/-- A function that returns in one branch only. -/
def branching : Program :=
  [.fn ⟨"f", .int, [⟨"n", .int, 1⟩], 1, 1⟩
      [.cond (.var "n" 2) (.block [.ret (.lit ⟨.int, "1", 3⟩) 3] 2) none 2],
    .print (.call "f" [.lit ⟨.int, "0", 5⟩] 5) 5]

/-- A function whose return comes after a break. -/
def breaking : Program :=
  [.fn ⟨"f", .int, [], 1, 1⟩
      [.repeatUntil [.brk 3, .ret (.lit ⟨.int, "1", 4⟩) 4] (.lit ⟨.int, "1", 5⟩) 2],
    .print (.call "f" [] 7) 7]

/-- A return that is not come to is enough for the check: valid programs lack values. -/
theorem valid_unreturned : Slips branching (.missingReturnValue "f") ∧
    Slips breaking (.missingReturnValue "f") := by
  decide +kernel

end Imperative
