import Imperative.Proofs.Scope.Noting

/-!
The function at hand: the one whose body a place is in.

A check looks it up by its name again, from the innermost scope outward. It finds it as long as no
scope in between holds another function of the name.
-/

namespace Imperative

/-- The second signature is the first one, but a return may have been noted since. -/
def Signature.Settles (g g' : Signature) : Prop := (Symbol.fn g).Settles (.fn g')

lemma Signature.Settles.returnType {g g' : Signature} (h : g.Settles g') :
    g'.returnType = g.returnType := by
  cases h <;> rfl

lemma Signature.Settles.returned {g g' : Signature} (h : g.Settles g')
    (hg : g.hasReturned = true) : g'.hasReturned = true := by
  cases h with
  | refl => exact hg
  | returned => rfl

lemma rel_some_left {α β : Type} {R : α → β → Prop} {a : α} {o : Option β}
    (h : Option.Rel R (some a) o) : ∃ b, o = some b ∧ R a b := by
  cases h with
  | some h => exact ⟨_, rfl, h⟩

lemma rel_none_left {α β : Type} {R : α → β → Prop} {o : Option β}
    (h : Option.Rel R none o) : o = none := by
  cases h
  rfl

lemma rel_isSome {α β : Type} {R : α → β → Prop} {o : Option α} {o' : Option β}
    (h : Option.Rel R o o') : o'.isSome = o.isSome := by
  cases h <;> rfl

lemma rel_findSome? {α β : Type} {R : β → β → Prop} {k : α → Option β} {as bs : List α}
    (h : List.Forall₂ (fun a b => Option.Rel R (k a) (k b)) as bs) :
    Option.Rel R (as.findSome? k) (bs.findSome? k) := by
  induction h with
  | nil => exact .none
  | @cons a b as bs hab _ ih =>
    rw [List.findSome?_cons, List.findSome?_cons]
    revert hab
    cases k a <;> cases k b
    · exact fun _ => ih
    · exact nofun
    · exact nofun
    · exact id

lemma Scope.Extends.signature? {l : List (String × Symbol)} {s s' : Scope} {f : String}
    (h : s.Extends l s') (hl : ∀ g, (f, .fn g) ∉ l) :
    Option.Rel Signature.Settles (s.signature? f) (s'.signature? f) := by
  cases hs : s.signature? f with
  | some g =>
    obtain ⟨b, hb, hgb⟩ := h.keep f _ (signature?_eq_some.1 hs)
    obtain ⟨g', rfl, -⟩ := hgb.fn_left
    rw [signature?_eq_some.2 hb]
    exact .some hgb
  | none =>
    cases hs' : s'.signature? f with
    | none => exact .none
    | some g' =>
      rcases h.source f _ (signature?_eq_some.1 hs') with ⟨a, ha, hab⟩ | ⟨a, ha, hab⟩
      · obtain ⟨g, rfl, -⟩ := hab.fn_right
        rw [signature?_eq_some.2 ha] at hs
        cases hs
      · obtain ⟨g, rfl, -⟩ := hab.fn_right
        exact (hl g ha).elim

namespace SymbolTable

variable {t u : SymbolTable} {l : List (String × Symbol)} {f : String} {type : Ty}
  {label : ScopeLabel}

lemma Extends.signature? (h : t.Extends l u) (hl : ∀ g, (f, .fn g) ∉ l) :
    Option.Rel Signature.Settles (t.signature? f) (u.signature? f) :=
  rel_findSome? (h.scopes.imp fun _ _ hs => hs.signature? hl)

lemma signature?_pop (h : (t.push label).Extends l u) (hl : ∀ g, (f, .fn g) ∉ l) :
    u.pop.signature? f = u.signature? f := by
  have hcurrent : Option.Rel _ none (u.current.signature? f) := h.current.signature? hl
  have hnone : u.current.signature? f = none := rel_none_left hcurrent
  have hscopes : u.scopes = u.current :: u.pop.scopes := by
    cases h
    rfl
  unfold signature?
  rw [hscopes, List.findSome?_cons, hnone]

lemma signature?_markReturned (t : SymbolTable) (f : String) :
    (t.markReturned f).signature? f =
      (t.signature? f).map fun g => { g with hasReturned := true } := by
  unfold signature?
  rw [scopes_markReturned]
  induction t.scopes with
  | nil => rfl
  | cons s r ih =>
    unfold markFirst
    cases hs : s.signature? f with
    | none =>
      simp only [List.findSome?_cons, hs, ih, Option.isSome_none, Bool.false_eq_true, if_false]
    | some g =>
      simp only [List.findSome?_cons, hs, Option.isSome_some, if_true,
        Scope.signature?_markReturned hs, Option.map_some]

/-- The place is in the body of a function of the name. The nearest function of the name returns
the type. -/
structure AtHand (t : SymbolTable) (f : String) (type : Ty) : Prop where
  encloses : t.enclosingFunction? = some f
  signature : ∃ g, t.signature? f = some g ∧ g.returnType = type

/-- A return of the nearest function of the name has been seen. -/
def Returned (t : SymbolTable) (f : String) : Prop :=
  ∃ g, t.signature? f = some g ∧ g.hasReturned = true

lemma AtHand.extend (h : t.AtHand f type) (he : t.Extends l u) (hl : ∀ g, (f, .fn g) ∉ l) :
    u.AtHand f type := by
  refine ⟨he.enclosingFunction?_eq.trans h.encloses, ?_⟩
  obtain ⟨g, hg, htype⟩ := h.signature
  have hrel := he.signature? hl
  rw [hg] at hrel
  obtain ⟨g', hg', hgg'⟩ := rel_some_left hrel
  exact ⟨g', hg', hgg'.returnType.trans htype⟩

lemma AtHand.push (h : t.AtHand f type) (hl : ∀ f, label ≠ .function f) :
    (t.push label).AtHand f type := by
  refine ⟨?_, h.signature⟩
  unfold enclosingFunction?
  rw [scopes_push, List.findSome?_cons]
  have hnone : (Scope.opened label).function? = none := by
    unfold Scope.function?
    split
    · next hlabel => exact absurd hlabel (hl _)
    · rfl
  rw [hnone]
  exact h.encloses

lemma Returned.extend (h : t.Returned f) (he : t.Extends l u) (hl : ∀ g, (f, .fn g) ∉ l) :
    u.Returned f := by
  obtain ⟨g, hg, hret⟩ := h
  have hrel := he.signature? hl
  rw [hg] at hrel
  obtain ⟨g', hg', hgg'⟩ := rel_some_left hrel
  exact ⟨g', hg', hgg'.returned hret⟩

lemma Returned.pop (h : u.Returned f) (he : (t.push label).Extends l u)
    (hl : ∀ g, (f, .fn g) ∉ l) : u.pop.Returned f := by
  unfold Returned
  rw [signature?_pop he hl]
  exact h

end SymbolTable

end Imperative
