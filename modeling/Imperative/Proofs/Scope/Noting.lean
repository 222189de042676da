import Imperative.Proofs.Scope.Extension

/-!
Which symbol a return is noted at.

A check notes returns at the nearest function that has the name of the function at hand. All other
symbols stay as they are, and so do all symbols where no return is met.
-/

namespace Imperative

namespace Scope

/-- What the first scope holds, the second one holds as well, except perhaps for a name. -/
def KeepsBut (o : Option String) (s s' : Scope) : Prop :=
  ∀ x a, o ≠ some x → s.get? x = some a → s'.get? x = some a

variable {o : Option String} {s s' s'' : Scope} {name : String}

lemma signature?_eq_some {g : Signature} : s.signature? name = some g ↔
    s.get? name = some (.fn g) := by
  unfold signature?
  split
  · next h => rw [h]; simp
  · next h => exact ⟨nofun, fun hg => (h g hg).elim⟩

lemma signature?_markReturned {g : Signature} (h : s.signature? name = some g) :
    (s.markReturned name).signature? name = some { g with hasReturned := true } := by
  unfold markReturned
  rw [h, signature?_eq_some, get?_insert, if_pos rfl]

namespace KeepsBut

lemma refl (o : Option String) (s : Scope) : s.KeepsBut o s := fun _ _ _ h => h

lemma trans (h : s.KeepsBut o s') (h' : s'.KeepsBut o s'') : s.KeepsBut o s'' :=
  fun x a hx ha => h' x a hx (h x a hx ha)

lemma weaken (h : s.KeepsBut none s') : s.KeepsBut o s' := fun x a _ ha => h x a nofun ha

lemma insert {a : Symbol} (h : s.contains name = false) : s.KeepsBut none (s.insert name a) := by
  intro x b _ hb
  have hne : name ≠ x := by
    rintro rfl
    simp [contains, Bindings.contains, get?] at h hb
    rw [h] at hb
    cases hb
  rw [get?_insert, if_neg hne]
  exact hb

lemma markReturned (s : Scope) (name : String) : s.KeepsBut (some name) (s.markReturned name) := by
  intro x b hx hb
  unfold Scope.markReturned
  split
  · have hne : name ≠ x := fun h => hx (congrArg some h)
    rw [get?_insert, if_neg hne]
    exact hb
  · exact hb

end KeepsBut

end Scope

/-- Symbols stay as they are, except perhaps for that of the nearest function of a name. -/
inductive Noted (o : Option String) : List Scope → List Scope → Prop
  | nil : Noted o [] []
  | here {name s s' r r'} (ho : o = some name) (hs : (s.signature? name).isSome)
      (hs' : (s'.signature? name).isSome) (keeps : s.KeepsBut o s')
      (rest : List.Forall₂ (Scope.KeepsBut none) r r') : Noted o (s :: r) (s' :: r')
  | outside {s s' r r'} (hs : ∀ name, o = some name → s.signature? name = none)
      (keeps : s.KeepsBut none s') (rest : Noted o r r') : Noted o (s :: r) (s' :: r')

namespace Noted

variable {o : Option String} {name : String} {r r' r'' : List Scope}

lemma none_iff : Noted none r r' ↔ List.Forall₂ (Scope.KeepsBut none) r r' := by
  constructor
  · intro h
    induction h with
    | nil => exact .nil
    | here ho => cases ho
    | outside _ keeps _ ih => exact .cons keeps ih
  · intro h
    induction h with
    | nil => exact .nil
    | cons keeps _ ih => exact .outside nofun keeps ih

lemma of_none (h : Noted none r r') : Noted o r r' := by
  rw [none_iff] at h
  induction h with
  | nil => exact .nil
  | @cons s s' r r' keeps rest ih =>
    by_cases hs : ∃ name, o = some name ∧ (s.signature? name).isSome
    · obtain ⟨name, ho, hs⟩ := hs
      obtain ⟨g, hg⟩ := Option.isSome_iff_exists.1 hs
      have hg' := keeps name _ nofun (Scope.signature?_eq_some.1 hg)
      have hs' : (s'.signature? name).isSome := by rw [Scope.signature?_eq_some.2 hg']; rfl
      exact .here ho hs hs' keeps.weaken rest
    · refine .outside (fun name ho => ?_) keeps ih
      by_contra hn
      exact hs ⟨name, ho, Option.isSome_iff_ne_none.2 hn⟩

lemma refl (o : Option String) (r : List Scope) : Noted o r r :=
  of_none (none_iff.2 (List.forall₂_same.2 fun s _ => .refl none s))

lemma keeps_trans (h : List.Forall₂ (Scope.KeepsBut none) r r')
    (h' : List.Forall₂ (Scope.KeepsBut none) r' r'') :
    List.Forall₂ (Scope.KeepsBut none) r r'' :=
  forall₂_trans (fun _ _ _ => .trans) h h'

lemma trans_none (h : Noted o r r') (h' : List.Forall₂ (Scope.KeepsBut none) r' r'') :
    Noted o r r'' := by
  induction h generalizing r'' with
  | nil => cases h'; exact .nil
  | @here name s s' r r' ho hs hs' keeps rest =>
    cases h' with
    | @cons _ s'' _ r'' keeps' rest' =>
      obtain ⟨g, hg⟩ := Option.isSome_iff_exists.1 hs'
      have hg' := keeps' name _ nofun (Scope.signature?_eq_some.1 hg)
      have hs'' : (s''.signature? name).isSome := by rw [Scope.signature?_eq_some.2 hg']; rfl
      exact .here ho hs hs'' (keeps.trans keeps'.weaken) (keeps_trans rest rest')
  | outside hs keeps _ ih =>
    cases h' with
    | cons keeps' rest' => exact .outside hs (keeps.trans keeps') (ih rest')

lemma trans (h : Noted o r r') (h' : Noted o r' r'') : Noted o r r'' := by
  induction h generalizing r'' with
  | nil => cases h'; exact .nil
  | @here name s s' r r' ho hs hs' keeps rest =>
    cases h' with
    | here ho' _ hs'' keeps' rest' =>
      obtain rfl := Option.some.inj (ho.symm.trans ho')
      exact .here ho hs hs'' (keeps.trans keeps') (keeps_trans rest rest')
    | outside hn => rw [hn name ho] at hs'; cases hs'
  | @outside s s' r r' hs keeps rest ih =>
    cases h' with
    | @here name _ s'' _ r'' ho hs' _ keeps' rest' =>
      refine .outside hs (fun x a _ ha => ?_) (rest.trans_none rest')
      have ha' := keeps x a nofun ha
      refine keeps' x a ?_ ha'
      rintro rfl
      obtain rfl := Option.some.inj ho
      -- The name may have become one of a function, but then nothing had it before.
      obtain ⟨g, hg⟩ := Option.isSome_iff_exists.1 hs'
      obtain rfl := Option.some.inj (ha'.symm.trans (Scope.signature?_eq_some.1 hg))
      have hnone := hs x ho
      rw [Scope.signature?_eq_some.2 ha] at hnone
      cases hnone
    | outside _ keeps' rest' => exact .outside hs (keeps.trans keeps') (ih rest')

end Noted

namespace SymbolTable

variable {o : Option String} {name : String} {t u : SymbolTable} {label : ScopeLabel}

lemma scopes_eq_cons (t : SymbolTable) : ∃ r, t.scopes = t.current :: r := by
  rcases t with ⟨_ | ⟨s, r⟩, b⟩
  · exact ⟨[], rfl⟩
  · exact ⟨r ++ [b], rfl⟩

lemma declare_keeps {a : Symbol} (h : t.declare name a = .ok u) :
    List.Forall₂ (Scope.KeepsBut none) t.scopes u.scopes := by
  obtain ⟨-, hc, rfl⟩ := declare_ok h
  have same (r : List Scope) : List.Forall₂ (Scope.KeepsBut none) r r :=
    Noted.none_iff.1 (.refl none r)
  rcases t with ⟨_ | ⟨s, r⟩, b⟩
  · exact .cons (.insert hc) .nil
  · exact .cons (.insert hc) (same (r ++ [b]))

lemma scopes_markReturned (t : SymbolTable) (name : String) :
    (t.markReturned name).scopes = markFirst name t.scopes := by
  have hbase : markFirst name [t.base] = [t.base.markReturned name] := by
    unfold markFirst
    split
    · rfl
    · next hs =>
      rw [Bool.not_eq_true, Option.isSome_eq_false_iff, Option.isNone_iff_eq_none] at hs
      simp [Scope.markReturned, hs, markFirst]
  unfold markReturned scopes
  generalize t.inner = r
  split
  · next h =>
    induction r with
    | nil => cases h
    | cons s r ih =>
      simp only [List.cons_append, markFirst]
      split
      · rfl
      · next hs => exact congrArg (s :: ·) (ih (by simpa [hs] using h))
  · next h =>
    induction r with
    | nil => exact hbase.symm
    | cons s r ih =>
      rw [List.any_cons, Bool.or_eq_true, not_or] at h
      simp only [List.cons_append, markFirst, if_neg h.1]
      exact congrArg (s :: ·) (ih h.2)

lemma markFirst_noted (name : String) (r : List Scope) :
    Noted (some name) r (markFirst name r) := by
  induction r with
  | nil => exact .nil
  | cons s r ih =>
    unfold markFirst
    split
    · next hs =>
      obtain ⟨g, hg⟩ := Option.isSome_iff_exists.1 hs
      have hs' : ((s.markReturned name).signature? name).isSome := by
        rw [Scope.signature?_markReturned hg]; rfl
      exact .here rfl hs hs' (.markReturned s name) (Noted.none_iff.1 (.refl none r))
    · next hs =>
      refine .outside (fun x hx => ?_) (.refl none s) ih
      cases hx
      simpa using hs

/-- In a scope that has just been opened there is nothing to note a return at. -/
lemma noted_pop (h : Noted o (t.push label).scopes u.scopes) : Noted o t.scopes u.pop.scopes := by
  rw [scopes_push] at h
  rcases u with ⟨_ | ⟨s, r⟩, b⟩
  · rcases t with ⟨_ | ⟨s, r⟩, b⟩ <;> cases h <;> contradiction
  · cases h with
    | here _ hs => cases hs
    | outside _ _ rest => exact rest

/-- A return of a function that has just been declared is noted nowhere else. -/
lemma noted_declare {r : List Scope} {g : Signature}
    (hu : t.declare name (.fn g) = .ok u) (h : Noted (some name) u.scopes r) :
    List.Forall₂ (Scope.KeepsBut none) t.scopes r := by
  have hfresh := declare_fresh hu
  have hnew := declare_current hu
  have hkeeps := declare_keeps hu
  obtain ⟨q, hq⟩ := t.scopes_eq_cons
  obtain ⟨q', hq'⟩ := u.scopes_eq_cons
  rw [hq, hq'] at hkeeps
  rw [hq'] at h
  rw [hq]
  cases hkeeps with
  | cons hcurrent hrest =>
    cases h with
    | here ho _ _ keeps rest =>
      cases ho
      refine .cons (fun x a _ ha => keeps x a ?_ (hcurrent x a nofun ha))
        (Noted.keeps_trans hrest rest)
      rintro ⟨⟩
      rw [hfresh] at ha
      cases ha
    | outside hn =>
      have hnone := hn name rfl
      rw [Scope.signature?_eq_some.2 hnew] at hnone
      cases hnone

end SymbolTable

end Imperative
