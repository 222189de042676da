import Imperative.Proofs.Scope.Settling
import Mathlib.Data.List.Perm.Basic

/-!
A table with further scopes inside all of its own.

From inside, the scopes of the table itself are only read, except that returns are noted in them.
The order in which returns are noted does not matter.
-/

namespace Imperative

namespace Bindings

variable {α : Type} {x y : String} {a b : α}

/-- A name that is bound keeps its place, so it can be bound again before or after another one. -/
lemma put_comm {es : List (String × α)} (hx : (find x es).isSome) (hne : x ≠ y) :
    put x a (put y b es) = put y b (put x a es) := by
  induction es with
  | nil => cases hx
  | cons e rest ih =>
    by_cases hex : e.1 = x
    · have hey : e.1 ≠ y := fun h => hne (hex.symm.trans h)
      simp [put, hex, hne]
    · rw [find, if_neg hex] at hx
      by_cases hey : e.1 = y
      · simp [put, hey, hne.symm]
      · simp [put, hex, hey, ih hx]

lemma insert_comm {bs : Bindings α} (hx : (bs.get? x).isSome) (hne : x ≠ y) :
    (bs.insert y b).insert x a = (bs.insert x a).insert y b :=
  congrArg Bindings.mk (put_comm hx hne)

end Bindings

namespace Scope

variable {s : Scope} {f g : String}

lemma signature?_markReturned_of_ne (s : Scope) (hne : f ≠ g) :
    (s.markReturned f).signature? g = s.signature? g := by
  unfold markReturned
  split
  · unfold signature?
    rw [get?_insert, if_neg hne]
  · rfl

lemma isSome_signature?_markReturned (s : Scope) (f g : String) :
    ((s.markReturned f).signature? g).isSome = (s.signature? g).isSome := by
  by_cases hne : f = g
  · subst hne
    cases hs : s.signature? f with
    | none => simp [markReturned, hs]
    | some => simp [signature?_markReturned hs]
  · rw [signature?_markReturned_of_ne s hne]

lemma markReturned_of_none (h : s.signature? f = none) : s.markReturned f = s := by
  simp only [markReturned, h]

lemma markReturned_of_some {σ : Signature} (h : s.signature? f = some σ) :
    s.markReturned f = s.insert f (.fn { σ with hasReturned := true }) := by
  simp only [markReturned, h]

lemma markReturned_comm (s : Scope) (f g : String) :
    (s.markReturned f).markReturned g = (s.markReturned g).markReturned f := by
  by_cases hne : f = g
  · rw [hne]
  · have hf := signature?_markReturned_of_ne s (Ne.symm hne)
    have hg := signature?_markReturned_of_ne s hne
    cases hsf : s.signature? f with
    | none =>
      rw [hsf] at hf
      rw [markReturned_of_none hsf, markReturned_of_none hf]
    | some σ =>
      rw [hsf] at hf
      cases hsg : s.signature? g with
      | none =>
        rw [hsg] at hg
        rw [markReturned_of_none hsg, markReturned_of_none hg]
      | some τ =>
        rw [hsg] at hg
        have hbound : (s.symbols.get? g).isSome := by
          have hget := signature?_eq_some.1 hsg
          unfold get? at hget
          rw [hget]
          rfl
        rw [markReturned_of_some hf, markReturned_of_some hg, markReturned_of_some hsf,
          markReturned_of_some hsg]
        simp only [insert, Bindings.insert_comm hbound (Ne.symm hne)]

end Scope

namespace SymbolTable

variable {t u : SymbolTable} {r : List Scope} {s : Scope} {f g : String}

/-- The table with the scopes `r` inside of its own, the innermost first. -/
def around (t : SymbolTable) (r : List Scope) : SymbolTable := { t with inner := r ++ t.inner }

@[simp] lemma around_nil (t : SymbolTable) : t.around [] = t := rfl

@[simp] lemma push_around (t : SymbolTable) (r : List Scope) (label : ScopeLabel) :
    (t.around r).push label = t.around (.opened label :: r) := rfl

@[simp] lemma pop_around (t : SymbolTable) (s : Scope) (r : List Scope) :
    (t.around (s :: r)).pop = t.around r := rfl

lemma depth_around (t : SymbolTable) (r : List Scope) :
    (t.around r).depth = r.length + t.depth := by
  simp only [depth, around, List.length_append, Nat.add_assoc]

/-- A name is declared in the innermost scope, whatever is outside. -/
lemma declare_around (t : SymbolTable) (s : Scope) (r : List Scope) (x : String) (a : Symbol) :
    (t.around (s :: r)).declare x a =
      if t.shadowsFunction x a then .error (.functionNameShadowed x)
      else if s.contains x then .error (.duplicateDeclaration x)
      else .ok (t.around (s.insert x a :: r)) := rfl

lemma Extends.around (h : t.Extends [] u) (r : List Scope) :
    (t.around r).Extends [] (u.around r) :=
  .of_inner (List.rel_append (Extends.outer_refl r) h.inner_extends) h.base_extends

lemma length_markFirst (f : String) (r : List Scope) : (markFirst f r).length = r.length :=
  (markFirst_extends f r).length_eq.symm

lemma markFirst_append (f : String) (r q : List Scope) :
    markFirst f (r ++ q) =
      if r.any (fun s => (s.signature? f).isSome) then markFirst f r ++ q
      else r ++ markFirst f q := by
  induction r with
  | nil => rfl
  | cons s r ih =>
    simp only [List.cons_append, markFirst, List.any_cons]
    by_cases hs : (s.signature? f).isSome
    · simp [hs]
    · simp only [hs, ih, Bool.false_eq_true, if_false, Bool.false_or]
      split <;> rfl

/-- A return is noted inside, if there is a function of the name, and else outside. -/
lemma markReturned_around (t : SymbolTable) (r : List Scope) (f : String) :
    (t.around r).markReturned f =
      if r.any (fun s => (s.signature? f).isSome) then t.around (markFirst f r)
      else (t.markReturned f).around r := by
  unfold markReturned around
  simp only [List.any_append, markFirst_append]
  by_cases hr : r.any (fun s => (s.signature? f).isSome)
  · simp [hr]
  · simp only [hr, Bool.false_or, Bool.false_eq_true, if_false]
    split <;> rfl

lemma markFirst_comm (f g : String) (r : List Scope) :
    markFirst f (markFirst g r) = markFirst g (markFirst f r) := by
  induction r with
  | nil => rfl
  | cons s r ih =>
    by_cases hf : (s.signature? f).isSome <;> by_cases hg : (s.signature? g).isSome
    · simp [markFirst, hf, hg, Scope.isSome_signature?_markReturned, s.markReturned_comm g f]
    · simp [markFirst, hf, hg, Scope.isSome_signature?_markReturned]
    · simp [markFirst, hf, hg, Scope.isSome_signature?_markReturned]
    · simp [markFirst, hf, hg, ih]

lemma eq_of_scopes_eq (h : t.scopes = u.scopes) : t = u := by
  obtain ⟨hinner, hbase⟩ := List.append_inj' h rfl
  cases t
  cases u
  cases hinner
  cases hbase
  rfl

lemma markReturned_comm (t : SymbolTable) (f g : String) :
    (t.markReturned f).markReturned g = (t.markReturned g).markReturned f := by
  apply eq_of_scopes_eq
  simp only [scopes_markReturned, markFirst_comm g f]

lemma markReturned_of_none (h : t.signature? f = none) : t.markReturned f = t := by
  have hnone := List.findSome?_eq_none_iff.1 h
  have hinner : t.inner.any (fun s => (s.signature? f).isSome) = false := by
    rw [List.any_eq_false]
    intro s hs
    rw [hnone s (List.mem_append_left _ hs)]
    exact Bool.false_ne_true
  have hbase := hnone t.base (List.mem_append_right _ (.head _))
  unfold markReturned
  rw [hinner, Scope.markReturned_of_none hbase]
  rfl

/-- Notes returns of functions, one after the other. -/
def noteAll (t : SymbolTable) (names : List String) : SymbolTable := names.foldl markReturned t

lemma noteAll_append (t : SymbolTable) (fs gs : List String) :
    t.noteAll (fs ++ gs) = (t.noteAll fs).noteAll gs := List.foldl_append

/-- **Returns can be noted in any order.** -/
lemma noteAll_comm (t : SymbolTable) (fs gs : List String) :
    (t.noteAll fs).noteAll gs = (t.noteAll gs).noteAll fs := by
  rw [← noteAll_append, ← noteAll_append]
  have : RightCommutative markReturned := ⟨markReturned_comm⟩
  exact List.perm_append_comm.foldl_eq t

lemma noteAll_extends (t : SymbolTable) (names : List String) : t.Extends [] (t.noteAll names) := by
  induction names generalizing t with
  | nil => exact .refl [] t
  | cons f names ih => exact (markReturned_extends t f).trans (ih _)

end SymbolTable

end Imperative
