import Imperative.Proofs.Scope.AtHand

/-!
Scopes by their height: how many scopes are outside of them. The height of a scope stays the same
while scopes are opened and given up inside it.
-/

namespace Imperative

namespace Scope

/-- The scope of a chain that has so many others outside. -/
def at? : List Scope → Nat → Option Scope
  | [], _ => none
  | s :: rest, i => if i = rest.length then some s else at? rest i

/-- The height of the innermost scope that holds the name. -/
def height? (name : String) : List Scope → Option Nat
  | [] => none
  | s :: rest => if (s.get? name).isSome then some rest.length else height? name rest

lemma at?_lt {r : List Scope} {i : Nat} {s : Scope} (h : at? r i = some s) : i < r.length := by
  induction r with
  | nil => cases h
  | cons s' r ih =>
    unfold at? at h
    split at h
    · next hi => simp [hi]
    · exact Nat.lt_succ_of_lt (ih h)

lemma at?_cons {s s' : Scope} {r : List Scope} {i : Nat} (h : at? r i = some s) :
    at? (s' :: r) i = some s := by
  have hne : i ≠ r.length := Nat.ne_of_lt (at?_lt h)
  rw [at?, if_neg hne, h]

lemma forall₂_at? {R : Scope → Scope → Prop} {r r' : List Scope} (h : List.Forall₂ R r r')
    {i : Nat} {s' : Scope} (hs' : at? r' i = some s') : ∃ s, at? r i = some s ∧ R s s' := by
  induction h with
  | nil => cases hs'
  | @cons a a' r r' ha hr ih =>
    unfold at? at hs' ⊢
    rw [hr.length_eq]
    split at hs'
    · next hi => cases hs'; exact ⟨a, if_pos hi, ha⟩
    · next hi =>
      obtain ⟨s, hs, hss'⟩ := ih hs'
      exact ⟨s, by rw [if_neg hi, hs], hss'⟩

end Scope

namespace SymbolTable

variable {t u : SymbolTable} {l : List (String × Symbol)} {i : Nat} {f : String} {g : Signature}

/-- The scope of the height holds a function of the name. -/
def FnAt (t : SymbolTable) (i : Nat) (f : String) (g : Signature) : Prop :=
  ∃ s, Scope.at? t.scopes i = some s ∧ s.get? f = some (.fn g)

/-- What a name means is what the innermost scope says that holds it. -/
lemma fnAt_of_resolve? (h : t.resolve? f = some (.fn g)) :
    ∃ i, Scope.height? f t.scopes = some i ∧ t.FnAt i f g := by
  unfold FnAt
  unfold resolve? at h
  generalize t.scopes = r at h
  induction r with
  | nil => cases h
  | cons s r ih =>
    rw [List.findSome?_cons] at h
    unfold Scope.height?
    cases hs : s.get? f with
    | some b =>
      rw [hs] at h
      cases h
      exact ⟨r.length, rfl, s, by simp [Scope.at?], hs⟩
    | none =>
      rw [hs] at h
      obtain ⟨i, hi, s', hs', ha⟩ := ih h
      exact ⟨i, by simpa using hi, s', Scope.at?_cons hs', ha⟩

/-- Only the innermost scope of an extended table has new names. -/
lemma Extends.at? (h : t.Extends l u) {s' : Scope} (hs' : Scope.at? u.scopes i = some s') :
    ∃ s, Scope.at? t.scopes i = some s ∧
      (s.Extends [] s' ∨ i = t.inner.length ∧ s.Extends l s') := by
  cases h with
  | @base b b' hb =>
    have hi : i = 0 := Nat.lt_one_iff.1 (Scope.at?_lt hs')
    subst hi
    cases hs'
    exact ⟨b, rfl, .inr ⟨rfl, hb⟩⟩
  | @inner s₀ s₀' b b' r r' hs hr hb =>
    have houter : List.Forall₂ (Scope.Extends []) (r ++ [b]) (r' ++ [b']) :=
      List.rel_append hr (.cons hb .nil)
    show ∃ s, Scope.at? (s₀ :: (r ++ [b])) i = some s ∧ _
    change Scope.at? (s₀' :: (r' ++ [b'])) i = some s' at hs'
    unfold Scope.at? at hs'
    split at hs'
    · next hi =>
      cases hs'
      rw [← houter.length_eq] at hi
      exact ⟨s₀, by rw [Scope.at?, if_pos hi], .inr ⟨by simpa using hi, hs⟩⟩
    · obtain ⟨s, hat, hss'⟩ := Scope.forall₂_at? houter hs'
      exact ⟨s, Scope.at?_cons hat, .inl hss'⟩

/-- A function of an extended table was there before, or has been added to the innermost scope. -/
lemma Extends.fnAt (h : t.Extends l u) (hg : u.FnAt i f g) :
    (∃ g₀, t.FnAt i f g₀ ∧ g₀.Settles g) ∨
      i = t.inner.length ∧ ∃ g₀, (f, .fn g₀) ∈ l ∧ g₀.Settles g := by
  obtain ⟨s', hs', hget⟩ := hg
  obtain ⟨s, hs, hext⟩ := h.at? hs'
  rcases hext with hext | ⟨hi, hext⟩ <;>
    rcases hext.source f _ hget with ⟨a, ha, hag⟩ | ⟨a, ha, hag⟩ <;>
      obtain ⟨g₀, rfl, -⟩ := hag.fn_right
  · exact .inl ⟨g₀, ⟨s, hs, ha⟩, hag⟩
  · cases ha
  · exact .inl ⟨g₀, ⟨s, hs, ha⟩, hag⟩
  · exact .inr ⟨hi, g₀, ha, hag⟩

/-- A scope that has just been opened holds nothing. -/
lemma fnAt_push {label : ScopeLabel} (h : (t.push label).FnAt i f g) : t.FnAt i f g := by
  obtain ⟨s, hs, hget⟩ := h
  rw [scopes_push] at hs
  unfold Scope.at? at hs
  split at hs
  · cases hs
    cases hget
  · exact ⟨s, hs, hget⟩

end SymbolTable

end Imperative
