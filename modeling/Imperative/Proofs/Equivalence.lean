import Imperative.Proofs.Machine.Fuel
import Imperative.Proofs.Machine.Paths
import Imperative.Proofs.Machine.Reframing

/-!
Statements that do the same.

A block around a single statement that declares nothing makes no difference. A loop that tests last
does what an endless one does that has the test as its last statement.
-/

namespace Imperative

open Exec

/-! ### Blocks -/

lemma stmt_unaware (n : Nat) {s : Stmt} (hs : s.declares = false) :
    (execStmt n s).Unaware .values := by
  have hkept : (execStmt n s).Unaware s.extent := (unawareness.keptAt n).stmt s
  unfold Stmt.extent at hkept
  rwa [hs] at hkept

lemma execStmts_singleton (n : Nat) (s : Stmt) : execStmts (n + 2) [s] = execStmt (n + 1) s := by
  calc execStmts (n + 2) [s]
    _ = execStmt (n + 1) s >>= pure := bind_congr fun signal => by cases signal <;> rfl
    _ = execStmt (n + 1) s := bind_pure _

/-- A block takes some more fuel, and that is all. -/
lemma execStmt_block (n : Nat) {s : Stmt} (hs : s.declares = false) (line : Nat) :
    execStmt (n + 3) (.block [s] line) = execStmt (n + 1) s := by
  show inFrame (.block "block") (execStmts (n + 2) [s]) = _
  rw [execStmts_singleton, (stmt_unaware (n + 1) hs).inFrame_block]

lemma stmt_approximates (s : Stmt) {n n' : Nat} (hn : n ≤ n') :
    (execStmt n s).Approximates (execStmt n' s) :=
  .of_le (fun k => (stableAt k).stmt s) hn

/-- **Blocks around a statement do nothing** if it declares nothing by itself: with the block and
without it there is no end, or the same signal or error and the same machine. -/
theorem blocks_are_transparent {s : Stmt} (hs : s.declares = false) (line : Nat) :
    Equivalent (fun n => execStmt n (.block [s] line)) fun n => execStmt n s := by
  refine .of_approximates (fun n => (stableAt n).stmt _) (fun n => (stableAt n).stmt s)
    (fun n => ⟨n + 1, ?_⟩) fun n => ⟨n + 3, ?_⟩
  · rw [← execStmt_block n hs line]
    exact stmt_approximates _ (Nat.le_add_right n 3)
  · rw [execStmt_block n hs line]
    exact stmt_approximates s (Nat.le_succ n)

theorem blocks_are_transparent_failing : failing.declares = false ∧
    ∃ e m' k, (execStmt 12 failing).run calledFromBlock = .failed e m' ∧
      e.fault = .divisionByZero ∧
      ∀ n ≥ k, (execStmt n (.block [failing] 3)).run calledFromBlock = .failed e m' := by
  obtain ⟨e, m', hrun, he⟩ := failing_fails
  have hdeclares : failing.declares = false := rfl
  have hequivalent := blocks_are_transparent hdeclares 3
  obtain ⟨k, hk⟩ := hequivalent.symm.ends (fun n => (stableAt n).stmt failing) hrun nofun
  exact ⟨hdeclares, e, m', k, hrun, he, hk⟩

/-! ### Loops -/

namespace Stmt

mutual

/-- The statement has a continue that goes to a loop around it. -/
def continues : Stmt → Bool
  | cont _ => true
  | cond _ yes none _ => yes.continues
  | cond _ yes (some no) _ => yes.continues || no.continues
  | block body _ => anyContinues body
  | labeled _ body _ => body.continues
  | _ => false

def anyContinues : List Stmt → Bool
  | [] => false
  | s :: rest => s.continues || anyContinues rest

end

mutual

lemma continues_of_mayEnd : ∀ {s : Stmt}, s.mayEnd .cont = true → s.continues = true
  | cont _, _ => rfl
  | cond _ yes none _, h => continues_of_mayEnd (s := yes) h
  | cond _ yes (some no) _, h => by
    unfold mayEnd at h
    unfold continues
    rw [Bool.or_eq_true] at h ⊢
    exact h.imp continues_of_mayEnd continues_of_mayEnd
  | block body _, h => anyContinues_of_mayEnd h
  | labeled _ body _, h => continues_of_mayEnd (s := body) h
  | loop .., h | repeatUntil .., h | decl .., h | assign .., h | fn .., h | print .., h
  | expr .., h | ret .., h | brk .., h => by simp [mayEnd] at h

lemma anyContinues_of_mayEnd : ∀ {ss : List Stmt}, allMayEnd ss .cont = true →
    anyContinues ss = true
  | [], h => by simp [allMayEnd] at h
  | s :: rest, h => by
    simp only [allMayEnd, anyContinues, Bool.or_eq_true, Bool.and_eq_true] at h ⊢
    exact h.imp (fun h => continues_of_mayEnd h.2) fun h => anyContinues_of_mayEnd h.2

end

end Stmt

variable {α β : Type}

/-- What follows a computation matters for what it comes to only. -/
lemma Exec.bind_congr_done {c : Exec α} {next next' : α → Exec β}
    (h : ∀ m a m', c.run m = .done a m' → next a = next' a) : c >>= next = c >>= next' := by
  funext m
  show (c >>= next).run m = (c >>= next').run m
  rw [run_bind, run_bind]
  cases hr : c.run m with
  | done a m' => exact congrArg (fun d : Exec β => d.run m') (h m a m' hr)
  | failed | outOfFuel => rfl

/-- What comes after a round of a loop that tests first. -/
def afterRound (again : Exec Signal) : Signal → Exec Signal
  | .normal | .cont => again
  | .brk => pure .normal
  | .ret v => pure (.ret v)

/-- What comes after the body of a loop that tests last. -/
def afterBody (test : Exec Value) (again : Exec Signal) : Signal → Exec Signal
  | .normal | .cont => do if (← test).truthy then pure .normal else again
  | .brk => pure .normal
  | .ret v => pure (.ret v)

/-- What comes after a body that the statement `if test { break }` follows. -/
def breakAfter (test : Exec Value) : Signal → Exec Signal
  | .normal => do if (← test).truthy then pure .brk else pure .normal
  | s => pure s

lemma afterBody_approximates {test test' : Exec Value} {again again' : Exec Signal}
    (htest : test.Approximates test') (hagain : again.Approximates again') (s : Signal) :
    (afterBody test again s).Approximates (afterBody test' again' s) := by
  cases s with
  | normal | cont =>
    refine .bind htest fun v => ?_
    split
    · exact .refl _
    · exact hagain
  | brk | ret => exact .refl _

lemma execRepeat_succ (n : Nat) (body : List Stmt) (test : Expr) : execRepeat (n + 1) body test =
    inFrame (.block "repeat") (execStmts n body) >>=
      afterBody (evalExpr n test) (execRepeat n body test) := by
  conv_lhs => unfold execRepeat
  exact bind_congr fun s => by cases s <;> rfl

lemma execLoop_succ {one : Literal} (hone : Value.ofLiteral one = .ok (.int 1)) (n : Nat)
    (body : Stmt) : execLoop (n + 2) (.lit one) body =
      inFrame (.block "while") (execStmt (n + 1) body) >>=
        afterRound (execLoop (n + 1) (.lit one) body) := by
  have htest : evalExpr (n + 1) (.lit one) = pure (.int 1) := by
    show orRaise one.line (Value.ofLiteral one) = _
    rw [hone]
    rfl
  conv_lhs => unfold execLoop
  rw [htest, pure_bind]
  exact bind_congr fun s => by cases s <;> rfl

/-- A round of the endless loop without the frames of its blocks. -/
lemma execStmts_breaking (n : Nat) (body : List Stmt) (test : Expr) (l₁ l₂ l₃ : Nat) :
    execStmts (n + 4) [.block body l₁, .cond test (.brk l₂) none l₃] =
      inFrame (.block "repeat") (execStmts (n + 2) body) >>= breakAfter (evalExpr (n + 1) test) := by
  have hbody : inFrame (.block "block") (execStmts (n + 2) body) =
      inFrame (.block "repeat") (execStmts (n + 2) body) :=
    ((unawareness.keptAt (n + 2)).stmts body).inFrame_retitle _ _
  rw [← hbody]
  refine bind_congr fun s => ?_
  cases s with
  | normal => exact execStmts_singleton (n + 1) _
  | brk | cont | ret => rfl

lemma breakAfter_unaware (n : Nat) (body : List Stmt) (test : Expr) :
    (inFrame (.block "repeat") (execStmts (n + 2) body) >>=
      breakAfter (evalExpr (n + 1) test)).Unaware .values := by
  refine unawareness.bind (unawareness.scope _ ((unawareness.keptAt _).stmts body)) fun s => ?_
  cases s with
  | normal =>
    refine unawareness.bind (unawareness.mono_nothing ((unawareness.keptAt _).expr test)) fun v => ?_
    split <;> exact unawareness.mono_nothing (unawareness.pure _)
  | brk | cont | ret => exact unawareness.mono_nothing (unawareness.pure _)

variable {body : List Stmt}

/-- A body that continues no loop around it does not end in a continue. -/
lemma execStmts_ne_cont (hbody : Stmt.anyContinues body = false) {n : Nat} {s : Signal}
    {m m' : Machine} (h : (execStmts n body).run m = .done s m') : s ≠ .cont := by
  rintro rfl
  have hcont := Stmt.anyContinues_of_mayEnd (execStmts_mayEnd h)
  rw [hbody] at hcont
  cases hcont

/-- The statement after the body decides whether there is another round, as the test of a loop does
that tests last. -/
lemma bind_breakAfter (hbody : Stmt.anyContinues body = false) (n : Nat) (test : Exec Value)
    (again : Exec Signal) :
    inFrame (.block "repeat") (execStmts n body) >>= breakAfter test >>= afterRound again =
      inFrame (.block "repeat") (execStmts n body) >>= afterBody test again := by
  rw [bind_assoc]
  refine bind_congr_done fun m s m' h => ?_
  cases s with
  | normal =>
    show ((do if (← test).truthy then pure .brk else pure .normal) >>= afterRound again) = _
    rw [bind_assoc]
    refine bind_congr fun v => ?_
    split <;> rfl
  | brk | ret => rfl
  | cont =>
    rw [run_inFrame] at h
    cases hr : (execStmts n body).run (m.enter (.block "repeat")) with
    | done s m₁ =>
      rw [hr] at h
      cases h
      exact absurd rfl (execStmts_ne_cont hbody hr)
    | failed | outOfFuel =>
      rw [hr] at h
      cases h

/-- The body and the test of a loop that tests last, as the body of one without end. -/
def Stmt.breaking (body : List Stmt) (test : Expr) (l₁ l₂ l₃ l₄ : Nat) : Stmt :=
  .block [.block body l₁, .cond test (.brk l₂) none l₃] l₄

section

variable (hbody : Stmt.anyContinues body = false) (n : Nat) (test : Expr) (l₁ l₂ l₃ l₄ : Nat)
include hbody

/-- A round of the endless loop is a round of the other one. -/
lemma round_breaking (again : Exec Signal) :
    inFrame (.block "while") (execStmt (n + 5) (.breaking body test l₁ l₂ l₃ l₄)) >>=
        afterRound again =
      inFrame (.block "repeat") (execStmts (n + 2) body) >>=
        afterBody (evalExpr (n + 1) test) again := by
  have hunaware := breakAfter_unaware n body test
  calc inFrame (.block "while") (execStmt (n + 5) (.breaking body test l₁ l₂ l₃ l₄)) >>=
      afterRound again
    _ = inFrame (.block "while") (inFrame (.block "block") (execStmts (n + 4)
          [.block body l₁, .cond test (.brk l₂) none l₃])) >>= afterRound again := rfl
    _ = inFrame (.block "repeat") (execStmts (n + 2) body) >>= breakAfter (evalExpr (n + 1) test) >>=
          afterRound again := by
      rw [execStmts_breaking, hunaware.inFrame_block, hunaware.inFrame_block]
    _ = _ := bind_breakAfter hbody (n + 2) (evalExpr (n + 1) test) again

variable {one : Literal} (hone : Value.ofLiteral one = .ok (.int 1))
include hone

lemma execRepeat_approximates : (execRepeat n body test).Approximates
    (execLoop (n + 5) (.lit one) (.breaking body test l₁ l₂ l₃ l₄)) := by
  induction n with
  | zero => exact .outOfFuel _
  | succ n ih =>
    rw [execRepeat_succ, execLoop_succ hone, round_breaking hbody]
    refine .bind (.inFrame _ (.of_le (fun k => (stableAt k).stmts body) (Nat.le_add_right n 2))) ?_
    exact afterBody_approximates ((stableAt n).expr test) ih

lemma execLoop_approximates :
    (execLoop n (.lit one) (.breaking body test l₁ l₂ l₃ l₄)).Approximates
      (execRepeat (n + 1) body test) := by
  induction n with
  | zero => exact .outOfFuel _
  | succ n ih =>
    cases n with
    | zero => exact .outOfFuel _
    | succ n =>
      rw [execLoop_succ hone, execRepeat_succ]
      -- The blocks of the endless loop use up fuel that the body of the other one has left.
      have hfuel := Approximates.inFrame (.block "while")
        (stmt_approximates (.breaking body test l₁ l₂ l₃ l₄) (Nat.le_add_right (n + 1) 4))
      refine .trans (.bind hfuel fun _ => .refl _) ?_
      rw [round_breaking hbody]
      exact .bind (.refl _) (afterBody_approximates ((stableAt (n + 1)).expr test) ih)

end

/-- **A loop that tests last is a loop without end** whose last statement ends it, if no statement
of the body continues the loop: there is no end to both, or the same signal or error and the same
machine. -/
theorem repeats_are_loops (hbody : Stmt.anyContinues body = false) {one : Literal}
    (hone : Value.ofLiteral one = .ok (.int 1)) (test : Expr) (l₁ l₂ l₃ l₄ l₅ l₆ : Nat) :
    Equivalent (fun n => execStmt n (.repeatUntil body test l₅)) fun n =>
      execStmt n (.loop (.lit one) (.breaking body test l₁ l₂ l₃ l₄) l₆) := by
  refine .of_approximates (fun n => (stableAt n).stmt _) (fun n => (stableAt n).stmt _)
    (fun n => ⟨n + 5, ?_⟩) fun n => ⟨n + 1, ?_⟩
  · cases n with
    | zero => exact .outOfFuel _
    | succ n => exact execRepeat_approximates hbody n test l₁ l₂ l₃ l₄ hone
  · cases n with
    | zero => exact .outOfFuel _
    | succ n => exact execLoop_approximates hbody n test l₁ l₂ l₃ l₄ hone

/-- Adds what `f` gives to `y`, which is seven. -/
def adding : List Stmt :=
  [.decl .int [⟨"z", .call "f" [] 5, 5⟩] 5, .assign "y" (.bin .add (.var "y" 6) (.var "z" 6) 6) 6]

/-- How far `y` is over nine, divided by how far it is from sixteen. -/
def overNine : Expr :=
  .bin .div (.bin .sub (.var "y" 7) (.lit ⟨.int, "9", 7⟩) 7)
    (.bin .sub (.lit ⟨.int, "16", 7⟩) (.var "y" 7) 7) 7

theorem repeats_are_loops_adding : Stmt.anyContinues adding = false ∧
    Value.ofLiteral ⟨.int, "1", 4⟩ = .ok (.int 1) ∧
    ∃ e m' k, (execStmt 20 (.repeatUntil adding overNine 4)).run calledFromBlock = .failed e m' ∧
      e.fault = .divisionByZero ∧
      ∀ n ≥ k, (execStmt n (.loop (.lit ⟨.int, "1", 4⟩) (.breaking adding overNine 4 7 7 4) 4)).run
        calledFromBlock = .failed e m' := by
  have hbody : Stmt.anyContinues adding = false := rfl
  have hone : Value.ofLiteral ⟨.int, "1", 4⟩ = .ok (.int 1) := rfl
  have hfault : ((execStmt 20 (.repeatUntil adding overNine 4)).run calledFromBlock).fault? =
      some .divisionByZero := by decide +kernel
  obtain ⟨e, m', hrun, he⟩ := Outcome.fault?_eq_some hfault
  have hequivalent := repeats_are_loops hbody hone overNine 4 7 7 4 4 4
  obtain ⟨k, hk⟩ := hequivalent.ends (fun n => (stableAt n).stmt _) hrun nofun
  exact ⟨hbody, hone, e, m', k, hrun, he, hk⟩

end Imperative
