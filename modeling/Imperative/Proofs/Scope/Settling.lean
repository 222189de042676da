import Imperative.Proofs.Scope.AtHand

/-!
Tables that are the same but for returns that have been noted since.

Such tables cannot be told apart by what a name means, by the place they describe, or by the names
that they refuse.
-/

namespace Imperative

/-- The second scope is the first one, but returns may have been noted since. -/
structure Scope.Settles (s s' : Scope) : Prop where
  label : s'.label = s.label
  names : ∀ x, Option.Rel Symbol.Settles (s.get? x) (s'.get? x)

lemma Scope.Extends.settles {s s' : Scope} (h : s.Extends [] s') : s.Settles s' := by
  refine ⟨h.label, fun x => ?_⟩
  cases hs : s.get? x with
  | some a =>
    obtain ⟨b, hb, hab⟩ := h.keep x a hs
    rw [hb]
    exact .some hab
  | none =>
    cases hs' : s'.get? x with
    | none => exact .none
    | some b =>
      rcases h.source x b hs' with ⟨a, ha, -⟩ | ⟨a, ha, -⟩
      · rw [hs] at ha
        cases ha
      · cases ha

namespace SymbolTable.Extends

variable {t u : SymbolTable} {l : List (String × Symbol)}

lemma depth_eq (h : t.Extends l u) : u.depth = t.depth :=
  congrArg (· + 1) h.inner_extends.length_eq.symm

lemma isGlobal_eq (h : t.Extends l u) : u.isGlobal = t.isGlobal := by
  cases h <;> rfl

lemma labels_eq (h : t.Extends l u) :
    u.scopes.map Scope.label = t.scopes.map Scope.label := by
  have hscopes := h.scopes
  generalize t.scopes = r at hscopes
  generalize u.scopes = r' at hscopes
  induction hscopes with
  | nil => rfl
  | cons hs _ ih => simp only [List.map_cons, hs.label, ih]

/-- Below the innermost scope nothing is added. -/
lemma below (h : t.Extends l u) :
    List.Forall₂ Scope.Settles t.scopes.tail u.scopes.tail := by
  cases h with
  | base => exact .nil
  | inner _ hr hb =>
    exact List.rel_append (hr.imp fun _ _ h => h.settles) (.cons hb.settles .nil)

lemma settles (h : t.Extends [] u) : List.Forall₂ Scope.Settles t.scopes u.scopes :=
  h.scopes.imp fun _ _ hs => hs.settles

lemma resolve? (h : t.Extends [] u) (x : String) :
    Option.Rel Symbol.Settles (t.resolve? x) (u.resolve? x) :=
  rel_findSome? (h.settles.imp fun _ _ hs => hs.names x)

/-- A name means the same in both tables, or a function that has returned only in the second. -/
lemma resolve?_eq_or (h : t.Extends [] u) (x : String) : u.resolve? x = t.resolve? x ∨
    ∃ g, t.resolve? x = some (.fn g) ∧
      u.resolve? x = some (.fn { g with hasReturned := true }) := by
  have hrel := h.resolve? x
  generalize t.resolve? x = o at hrel ⊢
  generalize u.resolve? x = o' at hrel ⊢
  cases hrel with
  | none => exact .inl rfl
  | some hab =>
    cases hab with
    | refl => exact .inl rfl
    | returned g => exact .inr ⟨g, rfl, rfl⟩

lemma shadowsFunction_eq (h : t.Extends [] u) (x : String) (a : Symbol) :
    u.shadowsFunction x a = t.shadowsFunction x a := by
  cases a with
  | fn => rfl
  | var => exact rel_isSome (h.base_extends.signature? (by simp))

end SymbolTable.Extends

end Imperative
