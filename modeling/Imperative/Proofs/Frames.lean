import Imperative.Proofs.Machine.Growth
import Imperative.Proofs.Memory.Confinement

/-!
What evaluation and execution leave of the frames.

However a computation ends, the frames are the ones it started with. An expression changes none but
the global one. A statement reaches as far as the frame of the innermost call, and only the current
frame gets further names.
-/

namespace Imperative

/-- How the frames above the global one may change. -/
def Extent.Allows : Extent → List Frame → List Frame → Prop
  | nothing => fun fs fs' => fs' = fs
  | values => Confined Frame.Rebinds
  | names => Confined Frame.Extends

namespace Extent.Allows

variable {x : Extent} {f : Frame} {fs fs' fs'' : List Frame}

lemma refl (x : Extent) (fs : List Frame) : x.Allows fs fs := by
  cases x with
  | nothing => exact rfl
  | values => exact Confined.refl .refl fs
  | names => exact Confined.refl .refl fs

lemma trans (h : x.Allows fs fs') (h' : x.Allows fs' fs'') : x.Allows fs fs'' := by
  cases x with
  | nothing => exact Eq.trans h' h
  | values => exact Confined.trans (fun _ _ _ => .trans) (fun _ _ h => h.title) h h'
  | names => exact Confined.trans (fun _ _ _ => .trans) (fun _ _ h => h.title) h h'

lemma of_nothing (h : nothing.Allows fs fs') : x.Allows fs fs' := by
  cases (h : fs' = fs)
  exact refl x fs

lemma of_values (h : values.Allows fs fs') : names.Allows fs fs' :=
  Confined.mono (fun _ _ => Frame.Rebinds.extends) h

lemma confined (h : x.Allows fs fs') : Confined Frame.Extends fs fs' := by
  cases x with
  | nothing => exact of_nothing (x := .names) h
  | values => exact of_values h
  | names => exact h

end Extent.Allows

/-- The frames of the second machine are those of the first one after a change of the extent. -/
structure Machine.Within (x : Extent) (m m' : Machine) : Prop where
  inner : x.Allows m.memory.inner m'.memory.inner
  base : m'.memory.base.title = m.memory.base.title

/-- The change that the frames go through. -/
def confinement : Change where
  Rel := Machine.Within
  refl x m := ⟨.refl x m.memory.inner, rfl⟩
  trans h h' := ⟨h.inner.trans h'.inner, h'.base.trans h.base⟩
  mono_nothing h := ⟨h.inner.of_nothing, h.base⟩
  mono_values h := ⟨h.inner.of_values, h.base⟩
  call h vs _ _ hm := ⟨hm.inner.leave_call (kind_callFrame h vs), hm.base⟩
  scope name _ _ hm := ⟨hm.inner.leave_block (by simp [Frame.block, Frame.opened]), hm.base⟩
  declare m name v := ⟨m.memory.declare_confined name v, m.memory.declare_title name v⟩
  store m name v := ⟨(m.memory.store_confined name v).1, (m.memory.store_confined name v).2⟩
  define m _ _ := ⟨.refl .values m.memory.inner, rfl⟩
  print m _ := ⟨.refl .values m.memory.inner, rfl⟩

variable {n : Nat} {m m' : Machine}

lemma expr_within (e : Expr) (h : ((evalExpr n e).run m).machine? = some m') :
    m.Within .nothing m' :=
  ((confinement.discipline.keptAt n).expr e m).machine h

lemma stmt_within (s : Stmt) (h : ((execStmt n s).run m).machine? = some m') :
    m.Within s.extent m' :=
  ((confinement.discipline.keptAt n).stmt s m).machine h

/-- **Calls write nothing of their callers.** However it ends, an expression leaves all frames above
the global one as they are, and a statement all of them that are beyond the frame of a call. -/
theorem writes_stay_in_the_call (n : Nat) (m m' : Machine) :
    (∀ e, ((evalExpr n e).run m).machine? = some m' → m'.memory.inner = m.memory.inner) ∧
    ∀ s above c below, ((execStmt n s).run m).machine? = some m' →
      m.memory.inner = above ++ c :: below → c.kind = .call →
      ∃ above' c', m'.memory.inner = above' ++ c' :: below ∧ above'.length = above.length := by
  refine ⟨fun e h => (expr_within e h).inner, fun s above c below h hinner hc => ?_⟩
  have hconfined := (stmt_within s h).inner.confined
  rw [hinner] at hconfined
  exact hconfined.beyond hc

/-- A machine in a loop of a function `g` that was called from a block. -/
def calledFromBlock : Machine :=
  { Machine.initial "f" .unlimited with
    memory := ⟨[.block "while", (Frame.call "g").declare "y" (.int 2),
      (Frame.block "block").declare "y" (.int 5)], Frame.global.declare "y" (.int 0)⟩
    functions := Bindings.empty.insert "f" ⟨⟨"f", .int, [], 1, 1⟩,
      [.assign "y" (.lit ⟨.int, "7", 2⟩) 2, .ret (.var "y" 3) 3]⟩ }

/-- A block that calls `f`, writes a variable of `g`, and then fails. -/
def failing : Stmt :=
  .block [.decl .int [⟨"x", .call "f" [] 5, 5⟩] 5, .assign "y" (.var "x" 6) 6,
    .expr (.bin .div (.var "y" 7) (.lit ⟨.int, "0", 7⟩) 7) 7] 4

lemma failing_fails : ∃ e m', (execStmt 12 failing).run calledFromBlock = .failed e m' ∧
    e.fault = .divisionByZero := by
  have hfault : ((execStmt 12 failing).run calledFromBlock).fault? = some .divisionByZero := by
    decide +kernel
  exact Outcome.fault?_eq_some hfault

theorem writes_stay_in_the_call_failing :
    (∃ m', ((evalExpr 12 (.call "f" [] 5)).run calledFromBlock).machine? = some m' ∧
      m'.memory.inner = calledFromBlock.memory.inner) ∧
    ∃ e m', (execStmt 12 failing).run calledFromBlock = .failed e m' ∧
      e.fault = .divisionByZero ∧ ∃ above' c', m'.memory.inner =
        above' ++ c' :: [(Frame.block "block").declare "y" (.int 5)] ∧ above'.length = 1 := by
  have hexpr : ((evalExpr 12 (.call "f" [] 5)).run calledFromBlock).machine?.isSome = true := by
    decide +kernel
  obtain ⟨m, hm⟩ := Option.isSome_iff_exists.1 hexpr
  obtain ⟨e, m', hrun, he⟩ := failing_fails
  have hm' : ((execStmt 12 failing).run calledFromBlock).machine? = some m' := by rw [hrun]; rfl
  exact ⟨⟨m, hm, (writes_stay_in_the_call 12 _ m).1 _ hm⟩, e, m', hrun, he,
    (writes_stay_in_the_call 12 _ m').2 failing [.block "while"] _ _ hm' rfl rfl⟩

/-- What stays of the frames and of the functions. -/
structure Machine.Preserves (m m' : Machine) : Prop where
  depth : m'.memory.depth = m.memory.depth
  titles : m'.memory.frames.map Frame.title = m.memory.frames.map Frame.title
  /-- The frames other than the current and the global one have the names that they had. -/
  between : List.Forall₂ Frame.Rebinds m.memory.inner.tail m'.memory.inner.tail
  current : ∀ x, m.memory.current.contains x = true → m'.memory.current.contains x = true
  grows : m.Grows m'

lemma Machine.Within.preserves {x : Extent} (h : m.Within x m') (hg : m.Grows m') :
    m.Preserves m' := by
  have hinner := h.inner.confined
  have htitles := hinner.titles fun _ _ h => h.title
  refine ⟨?_, ?_, hinner.tail, fun x hx => ?_, hg⟩
  · have hlength := congrArg List.length htitles
    rw [List.length_map, List.length_map] at hlength
    exact congrArg Nat.succ hlength
  · unfold Memory.frames
    rw [List.map_append, List.map_append, htitles, List.map_singleton, List.map_singleton, h.base]
  · unfold Memory.current at hx ⊢
    generalize m.memory.inner = fs at hx hinner
    generalize m'.memory.inner = fs' at hinner ⊢
    cases hinner with
    | none => exact hg.globals x hx
    | call _ hf | block _ hf => exact hf.names x hx

/-- **Frames stay, however a computation ends.** Depth, names and kinds of the frames are as before,
all frames but the current and the global one have the names that they had, and these two and the
table of functions lose none. A statement that declares nothing by itself gives no frame but the
global one a further name. -/
theorem frames_stay (n : Nat) (m m' : Machine) :
    (∀ e, ((evalExpr n e).run m).machine? = some m' → m.Preserves m') ∧
    ∀ s, ((execStmt n s).run m).machine? = some m' → m.Preserves m' ∧
      (s.declares = false → List.Forall₂ Frame.Rebinds m.memory.inner m'.memory.inner) := by
  refine ⟨fun e h => ?_, fun s h => ⟨?_, fun hs => ?_⟩⟩
  · exact (expr_within e h).preserves (((growsAt n).expr e m).machine h)
  · exact (stmt_within s h).preserves (((growsAt n).stmt s m).machine h)
  · have hinner := (stmt_within s h).inner
    unfold Stmt.extent at hinner
    rw [hs] at hinner
    exact Confined.frames hinner

theorem frames_stay_failing :
    ∃ e m', (execStmt 12 failing).run calledFromBlock = .failed e m' ∧
      e.fault = .divisionByZero ∧ calledFromBlock.Preserves m' ∧
      List.Forall₂ Frame.Rebinds calledFromBlock.memory.inner m'.memory.inner := by
  obtain ⟨e, m', hrun, he⟩ := failing_fails
  have hm' : ((execStmt 12 failing).run calledFromBlock).machine? = some m' := by rw [hrun]; rfl
  obtain ⟨hpreserves, hinner⟩ := (frames_stay 12 _ m').2 failing hm'
  exact ⟨e, m', hrun, he, hpreserves, hinner rfl⟩

end Imperative
