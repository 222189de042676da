import Imperative.Scope.Table
import Mathlib.Data.List.Forall2

/-!
How a table of symbols changes in the course of a check.

Names are added to the innermost scope alone. In all scopes a function may come to be marked as
having returned, and nothing else changes.
-/

namespace Imperative

/-- The second symbol is the first one, but a return may have been noted since. -/
inductive Symbol.Settles : Symbol → Symbol → Prop
  | refl (a : Symbol) : Settles a a
  | returned (f : Signature) : Settles (.fn f) (.fn { f with hasReturned := true })

namespace Symbol.Settles

lemma trans {a b c : Symbol} (h : a.Settles b) (h' : b.Settles c) : a.Settles c := by
  cases h with
  | refl => exact h'
  | returned f =>
    cases h' with
    | refl => exact .returned f
    | returned => exact .returned f

lemma var_left {type : Ty} {b : Symbol} (h : (Symbol.var type).Settles b) : b = .var type := by
  cases h; rfl

lemma var_right {a : Symbol} {type : Ty} (h : a.Settles (.var type)) : a = .var type := by
  cases h; rfl

lemma fn_left {f : Signature} {b : Symbol} (h : (Symbol.fn f).Settles b) :
    ∃ g, b = .fn g ∧ g.returnType = f.returnType ∧ g.params = f.params := by
  cases h with
  | refl => exact ⟨f, rfl, rfl, rfl⟩
  | returned => exact ⟨_, rfl, rfl, rfl⟩

lemma fn_right {a : Symbol} {g : Signature} (h : a.Settles (.fn g)) :
    ∃ f, a = .fn f ∧ g.returnType = f.returnType ∧ g.params = f.params := by
  cases h with
  | refl => exact ⟨g, rfl, rfl, rfl⟩
  | returned f => exact ⟨f, rfl, rfl, rfl⟩

end Symbol.Settles

/-- The second scope is the first one with some of the names of `l` added. -/
structure Scope.Extends (l : List (String × Symbol)) (s s' : Scope) : Prop where
  label : s'.label = s.label
  keep : ∀ x a, s.get? x = some a → ∃ b, s'.get? x = some b ∧ a.Settles b
  source : ∀ x b, s'.get? x = some b →
    (∃ a, s.get? x = some a ∧ a.Settles b) ∨ ∃ a, (x, a) ∈ l ∧ a.Settles b

namespace Scope.Extends

variable {l l' : List (String × Symbol)} {s s' s'' : Scope}

lemma refl (l : List (String × Symbol)) (s : Scope) : s.Extends l s :=
  ⟨rfl, fun _ a h => ⟨a, h, .refl a⟩, fun _ b h => .inl ⟨b, h, .refl b⟩⟩

lemma mono (hl : l ⊆ l') (h : s.Extends l s') : s.Extends l' s' := by
  refine ⟨h.label, h.keep, fun x b hb => ?_⟩
  rcases h.source x b hb with hold | ⟨a, ha, hab⟩
  · exact .inl hold
  · exact .inr ⟨a, hl ha, hab⟩

lemma trans (h : s.Extends l s') (h' : s'.Extends l s'') : s.Extends l s'' := by
  refine ⟨h'.label.trans h.label, fun x a ha => ?_, fun x c hc => ?_⟩
  · obtain ⟨b, hb, hab⟩ := h.keep x a ha
    obtain ⟨c, hc, hbc⟩ := h'.keep x b hb
    exact ⟨c, hc, hab.trans hbc⟩
  · rcases h'.source x c hc with ⟨b, hb, hbc⟩ | hnew
    · rcases h.source x b hb with ⟨a, ha, hab⟩ | ⟨a, ha, hab⟩
      · exact .inl ⟨a, ha, hab.trans hbc⟩
      · exact .inr ⟨a, ha, hab.trans hbc⟩
    · exact .inr hnew

lemma insert {name : String} {symbol : Symbol} (h : s.contains name = false) :
    s.Extends [(name, symbol)] (s.insert name symbol) := by
  have hnone : s.get? name = none := by simpa [contains, Bindings.contains, get?] using h
  refine ⟨rfl, fun x a ha => ?_, fun x b hb => ?_⟩
  · have hne : name ≠ x := by rintro rfl; simp [hnone] at ha
    exact ⟨a, by simp [get?_insert, hne, ha], .refl a⟩
  · rw [get?_insert] at hb
    split at hb
    · next hx => cases hb; exact .inr ⟨symbol, by simp [hx], .refl symbol⟩
    · exact .inl ⟨b, hb, .refl b⟩

lemma markReturned (s : Scope) (name : String) : s.Extends [] (s.markReturned name) := by
  unfold Scope.markReturned
  split
  · next f hf =>
    have hget : s.get? name = some (.fn f) := by
      unfold signature? at hf
      split at hf
      · next hg => cases hf; exact hg
      · cases hf
    refine ⟨rfl, fun x a ha => ?_, fun x b hb => ?_⟩
    · by_cases hx : name = x
      · subst hx
        rw [hget] at ha; cases ha
        exact ⟨_, by simp [get?_insert], .returned f⟩
      · exact ⟨a, by simp [get?_insert, hx, ha], .refl a⟩
    · rw [get?_insert] at hb
      split at hb
      · next hx => subst hx; cases hb; exact .inl ⟨_, hget, .returned f⟩
      · exact .inl ⟨b, hb, .refl b⟩
  · exact .refl [] s

end Scope.Extends

lemma forall₂_trans {α β γ : Type} {P : α → β → Prop} {Q : β → γ → Prop} {R : α → γ → Prop}
    (hR : ∀ a b c, P a b → Q b c → R a c) {as : List α} {bs : List β} {cs : List γ}
    (h : List.Forall₂ P as bs) (h' : List.Forall₂ Q bs cs) : List.Forall₂ R as cs := by
  induction h generalizing cs with
  | nil => cases h'; exact .nil
  | cons hp _ ih => cases h' with | cons hq hqs => exact .cons (hR _ _ _ hp hq) (ih hqs)

lemma forall₂_and {α β : Type} {P Q : α → β → Prop} {as : List α} {bs : List β}
    (h : List.Forall₂ P as bs) (h' : List.Forall₂ Q as bs) :
    List.Forall₂ (fun a b => P a b ∧ Q a b) as bs := by
  induction h with
  | nil => exact .nil
  | cons hp _ ih => cases h' with | cons hq hqs => exact .cons ⟨hp, hq⟩ (ih hqs)

lemma forall₂_mem_right {α β : Type} {P : α → β → Prop} {as : List α} {bs : List β}
    (h : List.Forall₂ P as bs) {b : β} (hb : b ∈ bs) : ∃ a ∈ as, P a b := by
  induction h with
  | nil => cases hb
  | @cons a _ _ _ hab _ ih =>
    rcases List.mem_cons.1 hb with rfl | hb
    · exact ⟨a, .head _, hab⟩
    · obtain ⟨a, ha, hab⟩ := ih hb
      exact ⟨a, .tail _ ha, hab⟩

/-- The second table is the first one with some of the names of `l` in its innermost scope. -/
inductive SymbolTable.Extends (l : List (String × Symbol)) : SymbolTable → SymbolTable → Prop
  | base {b b' : Scope} (current : b.Extends l b') : Extends l ⟨[], b⟩ ⟨[], b'⟩
  | inner {s s' b b' : Scope} {r r' : List Scope} (current : s.Extends l s')
      (outer : List.Forall₂ (Scope.Extends []) r r') (base : b.Extends [] b') :
      Extends l ⟨s :: r, b⟩ ⟨s' :: r', b'⟩

namespace SymbolTable

variable {l l' : List (String × Symbol)} {t t' t'' : SymbolTable}

namespace Extends

lemma of_inner {r r' : List Scope} {b b' : Scope} (h : List.Forall₂ (Scope.Extends []) r r')
    (hb : b.Extends [] b') : Extends [] ⟨r, b⟩ ⟨r', b'⟩ := by
  cases h with
  | nil => exact .base hb
  | cons hs hr => exact .inner hs hr hb

lemma outer_refl (r : List Scope) : List.Forall₂ (Scope.Extends []) r r :=
  List.forall₂_same.2 fun s _ => .refl [] s

lemma refl (l : List (String × Symbol)) (t : SymbolTable) : t.Extends l t := by
  rcases t with ⟨_ | ⟨s, r⟩, b⟩
  · exact .base (.refl l b)
  · exact .inner (.refl l s) (outer_refl r) (.refl [] b)

lemma mono (hl : l ⊆ l') (h : t.Extends l t') : t.Extends l' t' := by
  cases h with
  | base h => exact .base (h.mono hl)
  | inner h hr hb => exact .inner (h.mono hl) hr hb

lemma trans (h : t.Extends l t') (h' : t'.Extends l t'') : t.Extends l t'' := by
  cases h with
  | base h => cases h' with | base h' => exact .base (h.trans h')
  | inner h hr hb =>
    cases h' with
    | inner h' hr' hb' =>
      refine .inner (h.trans h') ?_ (hb.trans hb')
      exact forall₂_trans (fun _ _ _ => .trans) hr hr'

/-- One extension after another adds the names of both. -/
lemma append (h : t.Extends l t') (h' : t'.Extends l' t'') : t.Extends (l ++ l') t'' :=
  (h.mono (List.subset_append_left l l')).trans (h'.mono (List.subset_append_right l l'))

lemma pop {label : ScopeLabel} (h : (t.push label).Extends l t') : t.Extends [] t'.pop := by
  rcases t with ⟨r, b⟩
  cases h with
  | inner _ hr hb => exact of_inner hr hb

lemma current (h : t.Extends l t') : t.current.Extends l t'.current := by
  cases h with
  | base h => exact h
  | inner h _ _ => exact h

lemma base_extends (h : t.Extends l t') : t.base.Extends l t'.base := by
  cases h with
  | base h => exact h
  | inner _ _ hb => exact hb.mono (List.nil_subset l)

lemma inner_extends (h : t.Extends l t') : List.Forall₂ (Scope.Extends l) t.inner t'.inner := by
  cases h with
  | base => exact .nil
  | inner h hr _ => exact .cons h (hr.imp fun _ _ h => h.mono (List.nil_subset l))

lemma scopes (h : t.Extends l t') : List.Forall₂ (Scope.Extends l) t.scopes t'.scopes := by
  cases h with
  | base h => exact .cons h .nil
  | inner h hr hb =>
    exact .cons h (List.rel_append (hr.imp fun _ _ h => h.mono (List.nil_subset l))
      (.cons (hb.mono (List.nil_subset l)) .nil))

lemma loopFirst_eq {r r' : List Scope} (h : List.Forall₂ (Scope.Extends l) r r') :
    loopFirst r' = loopFirst r := by
  induction h with
  | nil => rfl
  | cons hs _ ih => simp only [loopFirst, hs.label, ih]

lemma inLoop_eq (h : t.Extends l t') : t'.inLoop = t.inLoop := loopFirst_eq h.scopes

lemma function?_eq {s s' : Scope} (h : s.Extends l s') : s'.function? = s.function? := by
  simp only [Scope.function?, h.label]

lemma findFunction_eq {r r' : List Scope} (h : List.Forall₂ (Scope.Extends l) r r') :
    r'.findSome? Scope.function? = r.findSome? Scope.function? := by
  induction h with
  | nil => rfl
  | cons hs _ ih => simp only [List.findSome?_cons, function?_eq hs, ih]

lemma enclosingFunction?_eq (h : t.Extends l t') :
    t'.enclosingFunction? = t.enclosingFunction? := findFunction_eq h.scopes

end Extends

section Declaration

variable {name : String} {symbol : Symbol} {e : SymbolError}

/-- A name is added to the innermost scope, if neither that nor a global function is in its way. -/
lemma declare_ok (h : t.declare name symbol = .ok t') :
    t.shadowsFunction name symbol = false ∧ t.current.contains name = false ∧
      t' = t.setCurrent (t.current.insert name symbol) := by
  unfold declare at h
  split at h
  · cases h
  · next hs =>
    split at h
    · cases h
    · next hc =>
      cases h
      exact ⟨eq_false_of_ne_true hs, eq_false_of_ne_true hc, rfl⟩

/-- The two reasons for which a name is refused. -/
lemma declare_error (h : t.declare name symbol = .error e) :
    (t.shadowsFunction name symbol = true ∧ e = .functionNameShadowed name) ∨
      (t.current.contains name = true ∧ e = .duplicateDeclaration name) := by
  unfold declare at h
  split at h
  · next hs =>
    cases h
    exact .inl ⟨hs, rfl⟩
  · split at h
    · next hc =>
      cases h
      exact .inr ⟨hc, rfl⟩
    · cases h

lemma current_setCurrent (t : SymbolTable) (s : Scope) : (t.setCurrent s).current = s := by
  rcases t with ⟨_ | ⟨s, r⟩, b⟩ <;> rfl

lemma scopes_setCurrent (t : SymbolTable) (s : Scope) :
    (t.setCurrent s).scopes = s :: t.scopes.tail := by
  rcases t with ⟨_ | ⟨s, r⟩, b⟩ <;> rfl

lemma declare_extends (h : t.declare name symbol = .ok t') : t.Extends [(name, symbol)] t' := by
  obtain ⟨-, hc, rfl⟩ := declare_ok h
  rcases t with ⟨_ | ⟨s, r⟩, b⟩
  · exact .base (.insert hc)
  · exact .inner (.insert hc) (Extends.outer_refl r) (.refl [] b)

lemma declare_current (h : t.declare name symbol = .ok t') :
    t'.current.get? name = some symbol := by
  obtain ⟨-, -, rfl⟩ := declare_ok h
  rw [current_setCurrent, Scope.get?_insert, if_pos rfl]

lemma declare_fresh (h : t.declare name symbol = .ok t') : t.current.get? name = none := by
  obtain ⟨-, hc, -⟩ := declare_ok h
  simpa [Scope.contains, Bindings.contains, Scope.get?] using hc

end Declaration

lemma markFirst_extends (name : String) (r : List Scope) :
    List.Forall₂ (Scope.Extends []) r (markFirst name r) := by
  induction r with
  | nil => exact .nil
  | cons s r ih =>
    unfold markFirst
    split
    · exact .cons (.markReturned s name) (Extends.outer_refl r)
    · exact .cons (.refl [] s) ih

lemma markReturned_extends (t : SymbolTable) (name : String) :
    t.Extends [] (t.markReturned name) := by
  unfold markReturned
  split
  · exact .of_inner (markFirst_extends name t.inner) (.refl [] t.base)
  · exact .of_inner (Extends.outer_refl t.inner) (.markReturned t.base name)

end SymbolTable

end Imperative
