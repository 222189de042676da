import Imperative.Proofs.Machine.Discipline

/-!
More fuel changes no result.

A computation with less fuel comes to the same as with more, or runs out of it. So two computations
that follow each other, each with fuel enough, both end alike or both run on for ever.
-/

namespace Imperative

variable {α β : Type}

namespace Exec

/-- The second computation comes to what the first one comes to, unless that runs out of fuel. -/
def Approximates (c c' : Exec α) : Prop := ∀ m, c.run m = .outOfFuel ∨ c'.run m = c.run m

namespace Approximates

variable {c c' c'' : Exec α}

lemma refl (c : Exec α) : c.Approximates c := fun _ => .inr rfl

lemma outOfFuel (c : Exec α) : Exec.outOfFuel.Approximates c := fun _ => .inl rfl

lemma trans (h : c.Approximates c') (h' : c'.Approximates c'') : c.Approximates c'' := by
  intro m
  rcases h m with hm | hm
  · exact .inl hm
  · rcases h' m with hm' | hm'
    · exact .inl (hm.symm.trans hm')
    · exact .inr (hm'.trans hm)

lemma bind {next next' : α → Exec β} (h : c.Approximates c')
    (hn : ∀ a, (next a).Approximates (next' a)) : (c >>= next).Approximates (c' >>= next') := by
  intro m
  rw [run_bind, run_bind]
  rcases h m with hm | hm
  · exact .inl (by rw [hm])
  · rw [hm]
    cases c.run m with
    | done a m' => exact hn a m'
    | failed | outOfFuel => exact .inr rfl

lemma inFrame (f : Frame) (h : c.Approximates c') :
    (Exec.inFrame f c).Approximates (Exec.inFrame f c') := by
  intro m
  rw [run_inFrame, run_inFrame]
  rcases h (m.enter f) with hm | hm
  · exact .inl (by rw [hm]; rfl)
  · exact .inr (by rw [hm])

lemma of_le {c : Nat → Exec α} (h : ∀ n, (c n).Approximates (c (n + 1))) {n n' : Nat}
    (hn : n ≤ n') : (c n).Approximates (c n') := by
  induction hn with
  | refl => exact refl _
  | step _ ih => exact ih.trans (h _)

end Approximates

/-- From every machine, neither computation ever ends, or both end in one and the same way with all
but too little fuel. -/
def Equivalent (c c' : Nat → Exec α) : Prop :=
  ∀ m, (∀ n, (c n).run m = .outOfFuel ∧ (c' n).run m = .outOfFuel) ∨
    ∃ o, o ≠ .outOfFuel ∧ ∃ k, ∀ n ≥ k, (c n).run m = o ∧ (c' n).run m = o

/-- Computations that follow each other are equivalent, if more fuel changes no result of theirs. -/
lemma Equivalent.of_approximates {c c' : Nat → Exec α}
    (hc : ∀ n, (c n).Approximates (c (n + 1))) (hc' : ∀ n, (c' n).Approximates (c' (n + 1)))
    (h : ∀ n, ∃ k, (c n).Approximates (c' k)) (h' : ∀ n, ∃ k, (c' n).Approximates (c k)) :
    Equivalent c c' := by
  intro m
  by_cases hends : ∃ n, (c n).run m ≠ .outOfFuel
  · obtain ⟨n, hn⟩ := hends
    obtain ⟨k, hk⟩ := h n
    have hrun : (c' k).run m = (c n).run m := (hk m).resolve_left hn
    refine .inr ⟨(c n).run m, hn, max n k, fun j hj => ⟨?_, ?_⟩⟩
    · exact (Approximates.of_le hc (Nat.le_trans (Nat.le_max_left n k) hj) m).resolve_left hn
    · rw [← hrun] at hn ⊢
      exact (Approximates.of_le hc' (Nat.le_trans (Nat.le_max_right n k) hj) m).resolve_left hn
  · have hout (n : Nat) : (c n).run m = .outOfFuel :=
      Classical.not_not.1 fun hn => hends ⟨n, hn⟩
    refine .inl fun n => ⟨hout n, ?_⟩
    obtain ⟨k, hk⟩ := h' n
    rcases hk m with hm | hm
    · exact hm
    · exact hm.symm.trans (hout k)

lemma Equivalent.symm {c c' : Nat → Exec α} (h : Equivalent c c') : Equivalent c' c := by
  intro m
  rcases h m with hout | ⟨o, ho, k, hk⟩
  · exact .inl fun n => (hout n).symm
  · exact .inr ⟨o, ho, k, fun n hn => (hk n hn).symm⟩

/-- What the one computation comes to, the other one comes to. -/
lemma Equivalent.ends {c c' : Nat → Exec α} (h : Equivalent c c')
    (hc : ∀ n, (c n).Approximates (c (n + 1))) {n : Nat} {m : Machine} {o : Outcome α}
    (ho : (c n).run m = o) (hends : o ≠ .outOfFuel) : ∃ k, ∀ j ≥ k, (c' j).run m = o := by
  have hn : (c n).run m ≠ .outOfFuel := by rwa [ho]
  rcases h m with hout | ⟨o', -, k, hk⟩
  · exact absurd (hout n).1 hn
  · have hmax := Approximates.of_le hc (Nat.le_max_left n k) m
    have hrun : o' = o := by
      rw [← (hk _ (Nat.le_max_right n k)).1, hmax.resolve_left hn, ho]
    exact ⟨k, fun j hj => hrun ▸ (hk j hj).2⟩

end Exec

open Exec

/-- One more unit of fuel changes no result of this depth. -/
structure StableAt (n : Nat) : Prop where
  expr : ∀ e, (evalExpr n e).Approximates (evalExpr (n + 1) e)
  args : ∀ es, (evalArgs n es).Approximates (evalArgs (n + 1) es)
  inits : ∀ type is, (execInits n type is).Approximates (execInits (n + 1) type is)
  stmt : ∀ s, (execStmt n s).Approximates (execStmt (n + 1) s)
  stmts : ∀ ss, (execStmts n ss).Approximates (execStmts (n + 1) ss)
  loop : ∀ test body, (execLoop n test body).Approximates (execLoop (n + 1) test body)
  repeatUntil : ∀ body test, (execRepeat n body test).Approximates (execRepeat (n + 1) body test)

namespace StableAt

open Approximates

lemma zero : StableAt 0 :=
  ⟨fun _ => outOfFuel _, fun _ => outOfFuel _, fun _ _ => outOfFuel _, fun _ => outOfFuel _,
    fun _ => outOfFuel _, fun _ _ => outOfFuel _, fun _ _ => outOfFuel _⟩

variable {n : Nat} (ih : StableAt n)
include ih

lemma expr_succ (e : Expr) : (evalExpr (n + 1) e).Approximates (evalExpr (n + 2) e) := by
  cases e with
  | lit l => exact refl _
  | var name line =>
    rw [evalExpr_var, evalExpr_var]
    exact refl _
  | bin op l r line => exact bind (ih.expr l) fun a => bind (ih.expr r) fun b => refl _
  | call name args line =>
    rw [evalExpr_call, evalExpr_call]
    refine bind (refl _) fun d => bind (ih.args args) fun vs => ?_
    exact bind (inFrame _ (ih.stmts d.body)) fun s => refl _

lemma args_succ (es : List Expr) : (evalArgs (n + 1) es).Approximates (evalArgs (n + 2) es) := by
  cases es with
  | nil => exact refl _
  | cons e es => exact bind (ih.expr e) fun v => bind (ih.args es) fun vs => refl _

lemma inits_succ (type : Ty) (is : List Init) :
    (execInits (n + 1) type is).Approximates (execInits (n + 2) type is) := by
  cases is with
  | nil => exact refl _
  | cons i is => exact bind (ih.expr i.value) fun v => bind (refl _) fun _ => ih.inits type is

lemma stmts_succ (ss : List Stmt) :
    (execStmts (n + 1) ss).Approximates (execStmts (n + 2) ss) := by
  cases ss with
  | nil => exact refl _
  | cons s ss =>
    refine bind (ih.stmt s) fun signal => ?_
    cases signal with
    | normal => exact ih.stmts ss
    | brk | cont | ret => exact refl _

lemma loop_succ (test : Expr) (body : Stmt) :
    (execLoop (n + 1) test body).Approximates (execLoop (n + 2) test body) := by
  unfold execLoop
  refine bind (ih.expr test) fun v => ?_
  split
  · refine bind (inFrame _ (ih.stmt body)) fun signal => ?_
    cases signal with
    | normal | cont => exact ih.loop test body
    | brk | ret => exact refl _
  · exact refl _

lemma repeat_succ (body : List Stmt) (test : Expr) :
    (execRepeat (n + 1) body test).Approximates (execRepeat (n + 2) body test) := by
  have again : Approximates (do
      if (← evalExpr n test).truthy then pure .normal else execRepeat n body test)
      (do if (← evalExpr (n + 1) test).truthy then pure .normal
          else execRepeat (n + 1) body test) := by
    refine bind (ih.expr test) fun v => ?_
    split
    · exact refl _
    · exact ih.repeatUntil body test
  unfold execRepeat
  refine bind (inFrame _ (ih.stmts body)) fun signal => ?_
  cases signal with
  | normal | cont => exact again
  | brk | ret => exact refl _

lemma stmt_succ (s : Stmt) : (execStmt (n + 1) s).Approximates (execStmt (n + 2) s) := by
  cases s with
  | decl type is _ => exact ih.inits type is
  | assign name value _ => exact bind (ih.expr value) fun v => refl _
  | cond test yes no _ =>
    unfold execStmt
    refine bind (ih.expr test) fun v => ?_
    split
    · exact ih.stmt yes
    · cases no with
      | none => exact refl _
      | some no => exact ih.stmt no
  | loop test body _ => exact ih.loop test body
  | repeatUntil body test _ => exact ih.repeatUntil body test
  | fn h body => exact refl _
  | block body _ => exact inFrame _ (ih.stmts body)
  | ret value _ => exact bind (ih.expr value) fun v => refl _
  | brk _ | cont _ => exact refl _
  | print value line => exact bind (ih.expr value) fun v => refl _
  | labeled _ body _ => exact ih.stmt body
  | expr value _ => exact bind (ih.expr value) fun v => refl _

end StableAt

/-- **More fuel changes no result.** -/
theorem stableAt (n : Nat) : StableAt n := by
  induction n with
  | zero => exact .zero
  | succ n ih =>
    exact ⟨ih.expr_succ, ih.args_succ, ih.inits_succ, ih.stmt_succ, ih.stmts_succ, ih.loop_succ,
      ih.repeat_succ⟩

end Imperative
