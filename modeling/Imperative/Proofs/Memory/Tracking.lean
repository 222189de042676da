import Imperative.Memory.Stack
import Imperative.Proofs.Scope.Extension
import Imperative.Value.Basic

/-!
Frames of a run that follow the scopes of the check.

A call sees the scopes up to that of its function, and the global one. So the scopes that have a
frame are those of the function at hand, then those of its caller, and so on.
-/

namespace Imperative

namespace SymbolTable

variable {t t' : SymbolTable} {l : List (String × Symbol)} {label : ScopeLabel}

/-- The scopes up to the first one of a function, and that one. -/
def upToFunction : List Scope → List Scope
  | [] => []
  | s :: rest => if s.function?.isSome then [s] else s :: upToFunction rest

/-- The scopes of the function at hand; at the level of the program, those inside the global one. -/
def own (t : SymbolTable) : List Scope := upToFunction t.inner

/-- The place is in the body of a function. -/
def inFunction (t : SymbolTable) : Bool := t.inner.any fun s => s.function?.isSome

/-- What a name means where only the scopes of the function at hand and the global one count. -/
def visible? (t : SymbolTable) (name : String) : Option Symbol :=
  (t.own ++ [t.base]).findSome? fun s => s.get? name

lemma function?_opened (hl : ∀ f, label ≠ .function f) : (Scope.opened label).function? = none := by
  unfold Scope.function? Scope.opened
  split
  · next f hf => exact absurd hf (hl f)
  · rfl

lemma upToFunction_cons (s : Scope) (r : List Scope) :
    upToFunction (s :: r) = s :: if s.function?.isSome then [] else upToFunction r := by
  rw [upToFunction]
  split <;> rfl

lemma own_push (hl : ∀ f, label ≠ .function f) :
    (t.push label).own = .opened label :: t.own := by
  simp [own, push, upToFunction, function?_opened hl]

lemma inFunction_push (hl : ∀ f, label ≠ .function f) :
    (t.push label).inFunction = t.inFunction := by
  simp [inFunction, push, function?_opened hl]

lemma upToFunction_extends {r r' : List Scope} (h : List.Forall₂ (Scope.Extends l) r r') :
    List.Forall₂ (Scope.Extends l) (upToFunction r) (upToFunction r') := by
  induction h with
  | nil => exact .nil
  | cons hs _ ih =>
    unfold upToFunction
    rw [Extends.function?_eq hs]
    split
    · exact .cons hs .nil
    · exact .cons hs ih

lemma own_extends (h : t.Extends l t') : List.Forall₂ (Scope.Extends l) t.own t'.own :=
  upToFunction_extends h.inner_extends

lemma inFunction_extends (h : t.Extends l t') : t'.inFunction = t.inFunction := by
  have hany : ∀ {r r' : List Scope}, List.Forall₂ (Scope.Extends l) r r' →
      (r'.any fun s => s.function?.isSome) = r.any fun s => s.function?.isSome := by
    intro r r' h
    induction h with
    | nil => rfl
    | cons hs _ ih => simp only [List.any_cons, Extends.function?_eq hs, ih]
  exact hany h.inner_extends

/-- In the body of a function, outside blocks and loops, the scope of the function is all. -/
lemma own_call {u : SymbolTable} {name : String} (h : (u.push (.function name)).Extends l t) :
    t.own = [t.current] ∧ Scope.Extends l (.opened (.function name)) t.current := by
  have hs : Scope.Extends l (.opened (.function name)) t.current := h.current
  refine ⟨?_, hs⟩
  rcases t with ⟨_ | ⟨s, r⟩, b⟩
  · cases h
  · have hsome : s.function? = some name := Extends.function?_eq hs
    simp [own, upToFunction, hsome, SymbolTable.current]

end SymbolTable

/-- The scopes that have frames, at a place with calls under way. -/
def active (ts : List SymbolTable) : List Scope := ts.flatMap SymbolTable.own

/-- The frames above the global one are related to the scopes that have frames, one by one, and
calls are under way only in functions. -/
structure Memory.Tracks (R : Frame → Scope → Prop) (cs : List SymbolTable) (t : SymbolTable)
    (m : Memory) : Prop where
  nested : ∀ u ∈ (t :: cs).dropLast, u.inFunction = true
  frames : List.Forall₂ R m.inner (active (t :: cs))

namespace Memory.Tracks

open SymbolTable

variable {R : Frame → Scope → Prop} {cs : List SymbolTable} {t u v : SymbolTable} {m m' : Memory}
  {l : List (String × Symbol)} {label : ScopeLabel} {f : Frame}

lemma initial : Memory.initial.Tracks R [] .initial := ⟨(fun _ h => nomatch h), .nil⟩

lemma and {S : Frame → Scope → Prop} (h : m.Tracks R cs t) (h' : m.Tracks S cs t) :
    m.Tracks (fun f s => R f s ∧ S f s) cs t :=
  ⟨h.nested, forall₂_and h.frames h'.frames⟩

lemma nested_congr (hf : u.inFunction = t.inFunction)
    (h : ∀ w ∈ (t :: cs).dropLast, w.inFunction = true) :
    ∀ w ∈ (u :: cs).dropLast, w.inFunction = true := by
  cases cs with
  | nil => exact fun _ h => nomatch h
  | cons c cs =>
    rw [List.dropLast_cons_cons, List.forall_mem_cons] at h ⊢
    exact ⟨hf.trans h.1, h.2⟩

lemma frames_pop {s : Scope} {ss : List Scope} (h : List.Forall₂ R m.inner (s :: ss)) :
    List.Forall₂ R m.pop.inner ss := by
  unfold Memory.pop
  cases hm : m.inner with
  | nil => rw [hm] at h; cases h
  | cons g gs => rw [hm] at h; cases h with | cons _ hrest => exact hrest

/-- The frames of the function at hand come first. -/
lemma split (h : m.Tracks R cs t) : ∃ fs gs, m.inner = fs ++ gs ∧ List.Forall₂ R fs t.own ∧
    List.Forall₂ R gs (active cs) ∧ (t.inFunction = true ∨ gs = []) := by
  have hframes : List.Forall₂ R m.inner (t.own ++ active cs) := h.frames
  have hrest := List.forall₂_drop_append _ _ _ hframes
  refine ⟨m.inner.take t.own.length, m.inner.drop t.own.length, (List.take_append_drop _ _).symm,
    List.forall₂_take_append _ _ _ hframes, hrest, ?_⟩
  cases cs with
  | nil => exact .inr (List.forall₂_nil_right_iff.1 hrest)
  | cons c cs => exact .inl (h.nested t (.head _))

/-- At the level of the program there are no frames above the global one. -/
lemma inner_nil (h : m.Tracks R cs t) (ht : t.inner = []) : m.inner = [] := by
  obtain ⟨fs, gs, hinner, hfs, -, hin⟩ := h.split
  have hown : t.own = [] := by unfold own; rw [ht]; rfl
  rw [hown] at hfs
  cases hfs
  rw [hinner, hin.resolve_left (by simp [inFunction, ht])]
  rfl

/-- Where there are no frames above the global one, there are no scopes inside the global one. -/
lemma table_nil (h : m.Tracks R cs t) (hm : m.inner = []) : t.inner = [] := by
  have hframes := h.frames
  rw [hm] at hframes
  unfold active at hframes
  rw [List.flatMap_cons] at hframes
  have hown := (List.append_eq_nil_iff.1 (List.forall₂_nil_left_iff.1 hframes)).1
  rcases t with ⟨_ | ⟨s, r⟩, b⟩
  · rfl
  · unfold own at hown
    rw [upToFunction_cons] at hown
    cases hown

/-- The relation may change along with the scopes of the function at hand. -/
lemma change (h : m.Tracks R cs t)
    (hu : List.Forall₂ (fun s s' => ∀ f, R f s → R f s') t.own u.own)
    (hf : u.inFunction = t.inFunction) : m.Tracks R cs u := by
  obtain ⟨fs, gs, hinner, hfs, hgs, -⟩ := h.split
  refine ⟨nested_congr hf h.nested, ?_⟩
  rw [hinner]
  exact List.rel_append (forall₂_trans (fun f _ _ hR h' => h' f hR) hfs hu) hgs

lemma extend (h : m.Tracks R cs t) (he : t.Extends l u)
    (hR : ∀ f s s', Scope.Extends l s s' → R f s → R f s') : m.Tracks R cs u :=
  h.change ((own_extends he).imp fun s s' hs f => hR f s s' hs) (inFunction_extends he)

lemma back (h : m.Tracks R cs u) (he : t.Extends l u)
    (hR : ∀ f s s', Scope.Extends l s s' → R f s' → R f s) : m.Tracks R cs t := by
  have hown : List.Forall₂ (fun s' s => ∀ f, R f s' → R f s) u.own t.own :=
    ((own_extends he).imp fun s s' hs f => hR f s s' hs).flip
  exact h.change hown (inFunction_extends he).symm

lemma enterScope (h : m.Tracks R cs t) (hl : ∀ f, label ≠ .function f)
    (hR : R f (.opened label)) : (m.push f).Tracks R cs (t.push label) := by
  refine ⟨nested_congr (inFunction_push hl) h.nested, ?_⟩
  unfold active
  rw [List.flatMap_cons, own_push hl]
  exact .cons hR h.frames

lemma leaveScope (h : m.Tracks R cs u) (hl : ∀ f, label ≠ .function f)
    (he : (t.push label).Extends l u)
    (hR : ∀ f s s', Scope.Extends [] s s' → R f s' → R f s) : m.pop.Tracks R cs t := by
  have hpop : m.pop.Tracks R cs u.pop := by
    rcases u with ⟨r, b⟩
    cases he with
    | @inner _ s' _ _ _ r' hs hr hb =>
      have hnone : s'.function? = none := by
        rw [Extends.function?_eq hs, function?_opened hl]
      have hown : own ⟨s' :: r', b⟩ = s' :: own ⟨r', b⟩ := by
        simp [own, upToFunction, hnone]
      have hin : inFunction ⟨s' :: r', b⟩ = inFunction ⟨r', b⟩ := by
        simp [inFunction, hnone]
      have hframes := h.frames
      unfold active at hframes
      rw [List.flatMap_cons, hown] at hframes
      exact ⟨nested_congr hin.symm h.nested, frames_pop hframes⟩
  exact hpop.back he.pop hR

lemma enterCall {name : String} (h : m.Tracks R cs t) (he : (u.push (.function name)).Extends l v)
    (hR : R f v.current) : (m.push f).Tracks R (t :: cs) v := by
  obtain ⟨hown, -⟩ := own_call he
  refine ⟨?_, ?_⟩
  · rw [List.dropLast_cons_cons, List.forall_mem_cons]
    exact ⟨inFunction_extends he, h.nested⟩
  · unfold active
    rw [List.flatMap_cons, hown]
    exact .cons hR h.frames

lemma leaveCall {name : String} (h : m.Tracks R (t :: cs) v)
    (he : (u.push (.function name)).Extends l v) : m.pop.Tracks R cs t := by
  obtain ⟨hown, -⟩ := own_call he
  have hnested := h.nested
  have hframes := h.frames
  rw [List.dropLast_cons_cons, List.forall_mem_cons] at hnested
  unfold active at hframes
  rw [List.flatMap_cons, hown] at hframes
  exact ⟨hnested.2, frames_pop hframes⟩

/-- A declaration goes to the innermost frame and the innermost scope alike. -/
lemma declare {name : String} {symbol : Symbol} {value : Value} (h : m.Tracks R cs t)
    (hu : t.declare name symbol = .ok u)
    (hR : ∀ f s, R f s → s.contains name = false →
      R (f.declare name value) (s.insert name symbol)) :
    (m.declare name value).Tracks R cs u := by
  obtain ⟨-, hc, rfl⟩ := declare_ok hu
  have hframes := h.frames
  rcases t with ⟨_ | ⟨s, r⟩, b⟩
  · -- The global frame is not among the frames that are tracked.
    have hnil := h.inner_nil rfl
    refine ⟨nested_congr (t := ⟨[], b⟩) rfl h.nested, ?_⟩
    rw [hnil] at hframes
    unfold Memory.declare
    rw [hnil]
    exact hframes
  · refine ⟨nested_congr (t := ⟨s :: r, b⟩) rfl h.nested, ?_⟩
    show List.Forall₂ R _ (upToFunction (s.insert name symbol :: r) ++ active cs)
    have hold : List.Forall₂ R m.inner (upToFunction (s :: r) ++ active cs) := hframes
    rw [upToFunction_cons] at hold ⊢
    unfold Memory.declare
    cases hm : m.inner with
    | nil => rw [hm] at hold; cases hold
    | cons g gs =>
      rw [hm] at hold
      cases hold with | cons hg hrest => exact .cons (hR g s hg hc) hrest

end Memory.Tracks

end Imperative
