import Imperative.Proofs.Memory.Access

/-!
What reading, declaring and writing a name leave as it is.

Only frames up to that of the innermost call are ever looked at, and the global one. Of these, the
current frame may get further names and the others get other values at most.
-/

namespace Imperative

/-- A frame without its variables. -/
def Frame.title (f : Frame) : String × FrameKind := (f.name, f.kind)

namespace Frame

/-- The same frame with the same names, which may have other values. -/
structure Rebinds (f f' : Frame) : Prop where
  title : f'.title = f.title
  names : ∀ x, f'.contains x = f.contains x

/-- The same frame with the same names and maybe more, which may have other values. -/
structure Extends (f f' : Frame) : Prop where
  title : f'.title = f.title
  names : ∀ x, f.contains x = true → f'.contains x = true

variable {f f' f'' : Frame}

lemma Rebinds.refl (f : Frame) : f.Rebinds f := ⟨rfl, fun _ => rfl⟩

lemma Rebinds.trans (h : f.Rebinds f') (h' : f'.Rebinds f'') : f.Rebinds f'' :=
  ⟨h'.title.trans h.title, fun x => (h'.names x).trans (h.names x)⟩

lemma Extends.refl (f : Frame) : f.Extends f := ⟨rfl, fun _ h => h⟩

lemma Extends.trans (h : f.Extends f') (h' : f'.Extends f'') : f.Extends f'' :=
  ⟨h'.title.trans h.title, fun x hx => h'.names x (h.names x hx)⟩

lemma Rebinds.extends (h : f.Rebinds f') : f.Extends f' :=
  ⟨h.title, fun x hx => (h.names x).trans hx⟩

lemma Extends.declare (f : Frame) (name : String) (v : Value) : f.Extends (f.declare name v) :=
  ⟨rfl, fun _ h => f.contains_declare (.inr h)⟩

lemma Rebinds.declare {name : String} {v : Value} (h : f.contains name = true) :
    f.Rebinds (f.declare name v) := by
  refine ⟨rfl, fun x => ?_⟩
  rw [contains_eq, get?_declare]
  split
  · next hx => exact hx ▸ h.symm
  · rfl

lemma kind_eq (h : f'.title = f.title) : f'.kind = f.kind := congrArg Prod.snd h

end Frame

/-- The second frames are the first ones after a change within the function at hand: one of the
current frame as `R` says, and one of values in the others up to the frame of the call. -/
inductive Confined : (Frame → Frame → Prop) → List Frame → List Frame → Prop
  | none {R} : Confined R [] []
  | call {R f f' fs} : f.kind = .call → R f f' → Confined R (f :: fs) (f' :: fs)
  | block {R f f' fs fs'} : f.kind ≠ .call → R f f' → Confined Frame.Rebinds fs fs' →
      Confined R (f :: fs) (f' :: fs')

namespace Confined

variable {R S : Frame → Frame → Prop} {f f' : Frame} {fs fs' fs'' : List Frame}

lemma refl (hR : ∀ f, R f f) (fs : List Frame) : Confined R fs fs := by
  induction fs generalizing R with
  | nil => exact .none
  | cons f fs ih =>
    by_cases hf : f.kind = .call
    · exact .call hf (hR f)
    · exact .block hf (hR f) (ih .refl)

lemma mono (hRS : ∀ f f', R f f' → S f f') (h : Confined R fs fs') : Confined S fs fs' := by
  cases h with
  | none => exact .none
  | call hf h => exact .call hf (hRS _ _ h)
  | block hf h hrest => exact .block hf (hRS _ _ h) hrest

lemma trans (hR : ∀ f f' f'', R f f' → R f' f'' → R f f'')
    (htitle : ∀ f f', R f f' → f'.title = f.title) (h : Confined R fs fs')
    (h' : Confined R fs' fs'') : Confined R fs fs'' := by
  -- A frame keeps its kind, so both changes come to an end at the frame of the same call.
  induction h generalizing fs'' with
  | none => exact h'
  | call hf h =>
    cases h' with
    | call _ h' => exact .call hf (hR _ _ _ h h')
    | block hf' => exact absurd ((Frame.kind_eq (htitle _ _ h)).trans hf) hf'
  | block hf h hrest ih =>
    cases h' with
    | call hf' => exact absurd ((Frame.kind_eq (htitle _ _ h)).symm.trans hf') hf
    | block _ h' hrest' =>
      exact .block hf (hR _ _ _ h h') (ih (fun _ _ _ => .trans) (fun _ _ h => h.title) hrest')

lemma leave_call (hf : f.kind = .call) (h : Confined R (f :: fs) fs') : fs'.tail = fs := by
  cases h with
  | call => rfl
  | block hf' => exact absurd hf hf'

lemma leave_block (hf : f.kind ≠ .call) (h : Confined R (f :: fs) fs') :
    Confined Frame.Rebinds fs fs'.tail := by
  cases h with
  | call hf' => exact absurd hf' hf
  | block _ _ hrest => exact hrest

/-- Frame by frame, all but the current one keep their names. -/
lemma tail (h : Confined R fs fs') : List.Forall₂ Frame.Rebinds fs.tail fs'.tail := by
  induction h with
  | none => exact .nil
  | call => exact List.forall₂_same.2 fun _ _ => .refl _
  | block hf h hrest ih =>
    cases hrest with
    | none => exact .nil
    | call _ h => exact .cons h ih
    | block _ h => exact .cons h ih

lemma frames (h : Confined Frame.Rebinds fs fs') : List.Forall₂ Frame.Rebinds fs fs' := by
  have htail := h.tail
  cases h with
  | none => exact .nil
  | call _ h | block _ h => exact .cons h htail

lemma titles (htitle : ∀ f f', R f f' → f'.title = f.title) (h : Confined R fs fs') :
    fs'.map Frame.title = fs.map Frame.title := by
  induction h with
  | none => rfl
  | call _ h => simp [htitle _ _ h]
  | block _ h _ ih => simp [htitle _ _ h, ih fun _ _ h => h.title]

/-- Beyond the frame of a call nothing changes. -/
lemma beyond {c : Frame} {above below : List Frame} (hc : c.kind = .call)
    (h : Confined R (above ++ c :: below) fs') :
    ∃ above' c', fs' = above' ++ c' :: below ∧ above'.length = above.length := by
  induction above generalizing R fs' with
  | nil =>
    cases h with
    | call _ _ => exact ⟨[], _, rfl, rfl⟩
    | block hf => exact absurd hc hf
  | cons f above ih =>
    cases h with
    | @call _ _ f' => exact ⟨f' :: above, c, rfl, rfl⟩
    | @block _ _ f' _ _ _ _ hrest =>
      obtain ⟨above', c', rfl, hlength⟩ := ih hrest
      exact ⟨f' :: above', c', rfl, congrArg Nat.succ hlength⟩

end Confined

namespace Memory

variable {name : String} {v : Value}

lemma declare_confined (m : Memory) (name : String) (v : Value) :
    Confined Frame.Extends m.inner (m.declare name v).inner := by
  rcases m with ⟨_ | ⟨f, fs⟩, base⟩
  · exact .none
  · by_cases hf : f.kind = .call
    · exact .call hf (.declare f name v)
    · exact .block hf (.declare f name v) (.refl .refl fs)

lemma declare_title (m : Memory) (name : String) (v : Value) :
    (m.declare name v).base.title = m.base.title := by
  unfold declare
  split <;> rfl

lemma writeInner_confined {fs fs' : List Frame} (h : writeInner name v fs = some fs') :
    Confined Frame.Rebinds fs fs' := by
  induction fs generalizing fs' with
  | nil => cases h
  | cons f fs ih =>
    unfold writeInner at h
    by_cases hf : f.kind = .call
    · split at h
      · next hx =>
        cases h
        exact .call hf (.declare hx)
      · cases h
    · split at h
      · next hx =>
        cases h
        exact .block hf (.declare hx) (.refl .refl fs)
      · obtain ⟨gs, hgs, rfl⟩ := Option.map_eq_some_iff.1 h
        exact .block hf (.refl f) (ih hgs)

lemma assignOrDeclareGlobal_confined (m : Memory) (name : String) (v : Value) :
    Confined Frame.Rebinds m.inner (m.assignOrDeclareGlobal name v).inner ∧
      (m.assignOrDeclareGlobal name v).base.title = m.base.title := by
  unfold assignOrDeclareGlobal assign?
  split
  · next hw => exact ⟨writeInner_confined hw, rfl⟩
  · split <;> exact ⟨.refl .refl _, rfl⟩

lemma store_confined (m : Memory) (name : String) (v : Value) :
    Confined Frame.Rebinds m.inner (m.store name v).inner ∧
      (m.store name v).base.title = m.base.title := by
  unfold store
  split <;> exact assignOrDeclareGlobal_confined m name _

end Memory

end Imperative
