import Imperative.Machine.Evaluation
import Imperative.Proofs.Memory.Tracking

/-!
What reading and writing a name come to, in terms of the frames of the function at hand.
-/

namespace Imperative

/-- The second frame is the first one, or that with `w` in the place of the value of a name. -/
def Frame.Writes (name : String) (old w : Value) (f f' : Frame) : Prop :=
  f' = f ∨ f.get? name = some old ∧ f' = f.declare name w

/-- A frame of a call belongs to the scope of a function, and the other way round. -/
def Frame.Mirrors (f : Frame) (s : Scope) : Prop := f.kind = .call ↔ s.function?.isSome = true

lemma Frame.contains_eq (f : Frame) (x : String) : f.contains x = (f.get? x).isSome := rfl

lemma Frame.contains_declare (f : Frame) {x y : String} {v : Value}
    (h : x = y ∨ f.contains y = true) : (f.declare x v).contains y = true := by
  rw [contains_eq, get?_declare]
  split
  · rfl
  · next hne => exact h.resolve_left hne

namespace Memory

open SymbolTable

variable {base : Frame} {name : String} {v w : Value}

/-- **A name is looked for in the frames of the function at hand, and then in the global one.** -/
theorem lookupFrom_own {r : List Scope} {fs gs : List Frame}
    (h : List.Forall₂ Frame.Mirrors fs (upToFunction r))
    (hc : (r.any fun s => s.function?.isSome) = true ∨ gs = []) :
    lookupFrom base name (fs ++ gs) = (fs ++ [base]).findSome? fun f => f.get? name := by
  induction r generalizing fs with
  | nil =>
    cases h
    obtain rfl : gs = [] := hc.resolve_left (by simp)
    simp only [List.nil_append, lookupFrom, List.findSome?_cons, List.findSome?_nil]
    cases base.get? name <;> rfl
  | cons s r ih =>
    rw [upToFunction_cons] at h
    cases h with
    | @cons f _ fs _ hf hfs =>
      rw [List.cons_append, List.cons_append, List.findSome?_cons, lookupFrom]
      cases f.get? name with
      | some v => rfl
      | none =>
        by_cases hs : s.function?.isSome = true
        · rw [if_pos hs] at hfs
          cases hfs
          simp only [if_pos (hf.2 hs), List.nil_append, List.findSome?_cons, List.findSome?_nil]
          cases base.get? name <;> rfl
        · rw [if_neg hs] at hfs
          simp only [if_neg (mt hf.1 hs)]
          refine ih hfs (hc.imp_left fun hany => ?_)
          simpa [hs] using hany

lemma Tracks.lookup {R : Frame → Scope → Prop} {cs : List SymbolTable} {t : SymbolTable}
    {m : Memory} (h : m.Tracks R cs t) (hR : ∀ f s, R f s → f.Mirrors s) (name : String) :
    ∃ fs, List.Forall₂ R fs t.own ∧
      m.lookup name = (fs ++ [m.base]).findSome? fun f => f.get? name := by
  obtain ⟨fs, gs, hinner, hfs, -, hin⟩ := h.split
  refine ⟨fs, hfs, ?_⟩
  unfold Memory.lookup
  rw [hinner]
  exact lookupFrom_own (hfs.imp hR) hin

lemma writeInner_some (base : Frame) {fs fs' : List Frame} (h : writeInner name w fs = some fs') :
    ∃ old, lookupFrom base name fs = some old ∧
      List.Forall₂ (Frame.Writes name old w) fs fs' := by
  have same (old : Value) (gs : List Frame) : List.Forall₂ (Frame.Writes name old w) gs gs :=
    List.forall₂_same.2 fun _ _ => .inl rfl
  induction fs generalizing fs' with
  | nil => cases h
  | cons f fs ih =>
    unfold writeInner at h
    unfold lookupFrom
    cases hf : f.get? name with
    | some old =>
      rw [if_pos (by simp [Frame.contains_eq, hf])] at h
      cases h
      exact ⟨old, rfl, .cons (.inr ⟨hf, rfl⟩) (same old fs)⟩
    | none =>
      rw [if_neg (by simp [Frame.contains_eq, hf])] at h
      split at h
      · cases h
      · next hk =>
        obtain ⟨gs, hgs, rfl⟩ := Option.map_eq_some_iff.1 h
        obtain ⟨old, hold, hrest⟩ := ih hgs
        simp only [if_neg hk]
        exact ⟨old, hold, .cons (.inl rfl) hrest⟩

lemma writeInner_none (base : Frame) {fs : List Frame} (h : writeInner name w fs = none) :
    lookupFrom base name fs = base.get? name := by
  induction fs with
  | nil => rfl
  | cons f fs ih =>
    unfold writeInner at h
    unfold lookupFrom
    cases hf : f.get? name with
    | some old => simp [Frame.contains_eq, hf] at h
    | none =>
      rw [if_neg (by simp [Frame.contains_eq, hf])] at h
      simp only
      split
      · rfl
      · next hk =>
        rw [if_neg hk] at h
        exact ih (Option.map_eq_none_iff.1 h)

/-- **What an assignment does.** The value takes on the type of the one that it replaces. A name
without a value is new in the global frame. -/
theorem store_spec (m : Memory) (name : String) (v : Value) :
    (∃ old, m.lookup name = some old ∧
      List.Forall₂ (Frame.Writes name old (v.coerce old.type)) m.inner (m.store name v).inner ∧
      Frame.Writes name old (v.coerce old.type) m.base (m.store name v).base) ∨
    m.lookup name = none ∧ (m.store name v).inner = m.inner ∧
      (m.store name v).base = m.base.declare name v := by
  unfold store
  cases hl : m.lookup name with
  | some old =>
    refine .inl ⟨old, rfl, ?_⟩
    simp only [assignOrDeclareGlobal, assign?]
    cases hw : writeInner name (v.coerce old.type) m.inner with
    | some inner =>
      obtain ⟨old', hold, hinner⟩ := writeInner_some m.base hw
      obtain rfl : old' = old := Option.some.inj (hold.symm.trans hl)
      exact ⟨hinner, .inl rfl⟩
    | none =>
      have hbase : m.base.get? name = some old := (writeInner_none m.base hw).symm.trans hl
      have same : List.Forall₂ (Frame.Writes name old (v.coerce old.type)) m.inner m.inner :=
        List.forall₂_same.2 fun _ _ => .inl rfl
      simp only
      split <;> exact ⟨same, .inr ⟨hbase, rfl⟩⟩
  | none =>
    refine .inr ⟨rfl, ?_⟩
    simp only [assignOrDeclareGlobal, assign?]
    cases hw : writeInner name v m.inner with
    | some inner =>
      obtain ⟨old, hold, -⟩ := writeInner_some m.base hw
      cases hold.symm.trans hl
    | none =>
      simp only
      split <;> exact ⟨rfl, rfl⟩

/-- The memory after a change of the frames above the global one. -/
def reframe (g : List Frame → List Frame) (m : Memory) : Memory := { m with inner := g m.inner }

/-- A change that commutes with the write of a name above the global frame does so altogether. -/
lemma assignOrDeclareGlobal_reframe (g : List Frame → List Frame) {m : Memory}
    (h : writeInner name v (g m.inner) = (writeInner name v m.inner).map g) :
    (m.reframe g).assignOrDeclareGlobal name v = (m.assignOrDeclareGlobal name v).reframe g := by
  unfold assignOrDeclareGlobal assign? reframe
  rw [h]
  cases writeInner name v m.inner with
  | some inner => rfl
  | none =>
    by_cases hname : m.base.contains name = true
    · simp [declareGlobal, hname]
    · simp [declareGlobal, hname]

lemma store_reframe (g : List Frame → List Frame) {m : Memory}
    (hl : lookupFrom m.base name (g m.inner) = lookupFrom m.base name m.inner)
    (hw : ∀ w, writeInner name w (g m.inner) = (writeInner name w m.inner).map g) :
    (m.reframe g).store name v = (m.store name v).reframe g := by
  have hlookup : (m.reframe g).lookup name = m.lookup name := hl
  unfold store
  rw [hlookup]
  split <;> exact assignOrDeclareGlobal_reframe g (hw _)

lemma Tracks.store {R : Frame → Scope → Prop} {cs : List SymbolTable} {t : SymbolTable}
    {m : Memory} (h : m.Tracks R cs t) (hR : ∀ old f f' s, m.lookup name = some old →
      Frame.Writes name old (v.coerce old.type) f f' → R f s → R f' s) :
    (m.store name v).Tracks R cs t := by
  refine ⟨h.nested, ?_⟩
  rcases m.store_spec name v with ⟨old, hold, hinner, -⟩ | ⟨-, hinner, -⟩
  · exact forall₂_trans (fun f' f s hw hf => hR old f f' s hold hw hf) hinner.flip h.frames
  · rw [hinner]
    exact h.frames

end Memory

section

variable {x : String} {v : Value}

lemma get?_foldl_declare {ps : List (Param × Value)} {f : Frame}
    (h : (ps.foldl (fun f p => f.declare p.1.name p.2) f).get? x = some v) :
    f.get? x = some v ∨ ∃ q, (q, v) ∈ ps ∧ q.name = x := by
  induction ps generalizing f with
  | nil => exact .inl h
  | cons p ps ih =>
    rcases ih h with hf | ⟨q, hq, hx⟩
    · rw [Frame.get?_declare] at hf
      split at hf
      · next hx => cases hf; exact .inr ⟨p.1, .head _, hx⟩
      · exact .inl hf
    · exact .inr ⟨q, .tail _ hq, hx⟩

lemma contains_foldl_declare {ps : List (Param × Value)} {f : Frame}
    (h : f.contains x = true ∨ ∃ p ∈ ps, p.1.name = x) :
    (ps.foldl (fun f p => f.declare p.1.name p.2) f).contains x = true := by
  induction ps generalizing f with
  | nil => exact h.resolve_right (by simp)
  | cons p ps ih =>
    refine ih ?_
    rcases h with h | ⟨q, hq, hx⟩
    · exact .inl (f.contains_declare (.inr h))
    · rcases List.mem_cons.1 hq with rfl | hq
      · exact .inl (f.contains_declare (.inl hx))
      · exact .inr ⟨q, hq, hx⟩

lemma kind_foldl_declare (ps : List (Param × Value)) (f : Frame) :
    (ps.foldl (fun f p => f.declare p.1.name p.2) f).kind = f.kind := by
  induction ps generalizing f with
  | nil => rfl
  | cons p ps ih => exact ih _

lemma kind_callFrame (h : FnHeader) (vs : List Value) : (callFrame h vs).kind = .call :=
  kind_foldl_declare _ _

/-- The frame of a call holds arguments and nothing else. -/
lemma get?_callFrame {h : FnHeader} {vs : List Value} (hx : (callFrame h vs).get? x = some v) :
    ∃ q, (q, v) ∈ h.params.zip vs ∧ q.name = x :=
  (get?_foldl_declare hx).resolve_left fun hn => nomatch hn

/-- A parameter that there is an argument for is bound. -/
lemma callFrame_contains {h : FnHeader} {vs : List Value} {q : Param}
    (hq : q ∈ h.params.take vs.length) : (callFrame h vs).contains q.name = true := by
  refine contains_foldl_declare (.inr ?_)
  obtain ⟨i, hi, rfl⟩ := List.getElem_of_mem hq
  rw [List.length_take] at hi
  have hzip : i < (h.params.zip vs).length := by
    rw [List.length_zip]; omega
  refine ⟨(h.params.zip vs)[i], List.getElem_mem hzip, ?_⟩
  rw [List.getElem_zip, List.getElem_take]

end

end Imperative
