import Imperative.Check.Checker
import Imperative.Proofs.Scope.Around
import Mathlib.Data.List.Infix

/-!
Tables of symbols after any history of operations.

A variable never takes the name of a global function. What is declared inside of a scope is gone
when the scope is given up, and all that lasts are the returns noted outside.
-/

namespace Imperative

namespace SymbolTable

/-- What is done to a table of symbols. -/
inductive Op
  | push (label : ScopeLabel)
  | pop
  | declare (name : String) (symbol : Symbol)
  | markReturned (name : String)

/-- The table after an operation. A name that is refused is not added. -/
def after (t : SymbolTable) : Op → SymbolTable
  | .push label => t.push label
  | .pop => t.pop
  | .declare name symbol =>
    match t.declare name symbol with
    | .ok u => u
    | .error _ => t
  | .markReturned name => t.markReturned name

def run (t : SymbolTable) (ops : List Op) : SymbolTable := ops.foldl after t

variable {t u : SymbolTable} {ops : List Op}

lemma after_of_ok {x : String} {a : Symbol} (hu : t.declare x a = .ok u) :
    t.after (.declare x a) = u := by
  simp only [after, hu]

lemma after_of_error {x : String} {a : Symbol} {e : SymbolError} (he : t.declare x a = .error e) :
    t.after (.declare x a) = t := by
  simp only [after, he]

/-- What a check does about a declaration is the operation. -/
lemma symbols_declare (t : SymbolTable) (x : String) (a : Symbol) (line : Nat) :
    (Check.declare x a line t).symbols = t.after (.declare x a) := by
  cases hu : t.declare x a with
  | ok u => rw [after_of_ok hu, Check.declare, hu]
  | error e => rw [after_of_error hu, Check.declare, hu]

lemma run_append (t : SymbolTable) (ops ops' : List Op) :
    t.run (ops ++ ops') = (t.run ops).run ops' := List.foldl_append

/-- Operations lead to the table from one without names. -/
def Reached (t : SymbolTable) : Prop := ∃ ops, initial.run ops = t

/-- The bottom scope is the global one, and what it has as a function is no variable in any of the
scopes above. -/
structure Unmasked (t : SymbolTable) : Prop where
  label : t.base.label = .global
  inner : ∀ s ∈ t.inner, ∀ x type, s.get? x = some (.var type) → t.base.signature? x = none

namespace Unmasked

lemma initial : Unmasked initial := ⟨rfl, List.forall_mem_nil _⟩

lemma settle (h : t.Unmasked) (he : t.Extends [] u) : u.Unmasked := by
  refine ⟨he.base_extends.label.trans h.label, fun s' hs' x type hx => ?_⟩
  obtain ⟨s, hs, hscope⟩ := forall₂_mem_right he.inner_extends hs'
  have hbase := he.base_extends.signature? (f := x) (by simp)
  rcases hscope.source x _ hx with ⟨a, ha, hab⟩ | ⟨a, ha, -⟩
  · rw [h.inner s hs x type (hab.var_right ▸ ha)] at hbase
    exact rel_none_left hbase
  · cases ha

/-- A function gets into the global scope only while there is no other scope. -/
lemma declare (h : t.Unmasked) {x : String} {a : Symbol} (hu : t.declare x a = .ok u) :
    u.Unmasked := by
  obtain ⟨hshadows, -, rfl⟩ := declare_ok hu
  rcases t with ⟨_ | ⟨s, r⟩, b⟩
  · exact ⟨h.label, List.forall_mem_nil _⟩
  · refine ⟨h.label, List.forall_mem_cons.2 ⟨fun y type hy => ?_, ?_⟩⟩
    · rw [SymbolTable.current, List.headD_cons, Scope.get?_insert] at hy
      split at hy
      · next hxy =>
        cases hy
        subst hxy
        show b.signature? x = none
        simpa [shadowsFunction] using hshadows
      · exact h.inner s (.head _) y type hy
    · exact fun s hs => h.inner s (.tail _ hs)

lemma after (h : t.Unmasked) (op : Op) : (t.after op).Unmasked := by
  cases op with
  | push label =>
    refine ⟨h.label, List.forall_mem_cons.2 ⟨fun x type hx => ?_, h.inner⟩⟩
    cases hx
  | pop => exact ⟨h.label, fun s hs => h.inner s (List.mem_of_mem_tail hs)⟩
  | declare x a =>
    cases hu : t.declare x a with
    | ok u => exact after_of_ok hu ▸ h.declare hu
    | error e => exact (after_of_error hu).symm ▸ h
  | markReturned f => exact h.settle (markReturned_extends t f)

lemma run (h : t.Unmasked) (ops : List Op) : (t.run ops).Unmasked := by
  induction ops generalizing t with
  | nil => exact h
  | cons op ops ih => exact ih (h.after op)

/-- What the global scope has as a function is a function in all scopes that have the name. -/
lemma ne_var (h : t.Unmasked) {x : String} {g : Signature} (hx : t.base.get? x = some (.fn g)) :
    ∀ s ∈ t.scopes, ∀ type, s.get? x ≠ some (.var type) := by
  refine List.forall_mem_append.2 ⟨fun s hs type hvar => ?_, List.forall_mem_singleton.2 ?_⟩
  · have hnone := h.inner s hs x type hvar
    rw [Scope.signature?_eq_some.2 hx] at hnone
    cases hnone
  · intro type hvar
    rw [hx] at hvar
    cases hvar

end Unmasked

/-- **Global functions are not masked**: after any operations the bottom scope is the global one,
and a name that it has as a function is no variable in any scope and means a function everywhere. -/
theorem global_functions_unmasked (h : t.Reached) :
    0 < t.depth ∧ t.scopes.getLast? = some t.base ∧ t.base.label = .global ∧
    ∀ x g, t.base.get? x = some (.fn g) →
      (∀ s ∈ t.scopes, ∀ type, s.get? x ≠ some (.var type)) ∧
      ∃ g', t.resolve x = .ok (.fn g') := by
  obtain ⟨ops, rfl⟩ := h
  have h := Unmasked.initial.run ops
  generalize initial.run ops = t at h ⊢
  refine ⟨Nat.succ_pos _, List.getLast?_concat, h.label, fun x g hx => ⟨h.ne_var hx, ?_⟩⟩
  have hfound : (t.resolve? x).isSome := List.findSome?_isSome_iff.2
    ⟨t.base, List.mem_append_right _ (.head _), Option.isSome_of_eq_some hx⟩
  obtain ⟨a, ha⟩ := Option.isSome_iff_exists.1 hfound
  obtain ⟨s, hs, hget⟩ := List.exists_of_findSome?_eq_some ha
  cases a with
  | var type => exact absurd hget (h.ne_var hx s hs type)
  | fn g' => exact ⟨g', by rw [resolve, ha]⟩

/-- A table that has had a variable `g` in a block, and then a global function of that name. -/
def rebound : SymbolTable :=
  initial.run [.push .block, .declare "g" (.var .int), .pop, .pop,
    .declare "g" (.fn ⟨.int, [], false⟩), .push (.function "g"), .declare "g" (.var .float),
    .declare "g" (.fn ⟨.string, [.int], false⟩), .push .loop, .markReturned "g"]

theorem global_functions_unmasked_rebound :
    rebound.depth = 3 ∧ rebound.base.get? "g" = some (.fn ⟨.int, [], false⟩) ∧
    (∀ s ∈ rebound.scopes, ∀ type, s.get? "g" ≠ some (.var type)) ∧
    rebound.resolve "g" = .ok (.fn ⟨.string, [.int], true⟩) := by
  have hg : rebound.base.get? "g" = some (.fn ⟨.int, [], false⟩) := by decide +kernel
  obtain ⟨-, -, -, hfunctions⟩ := global_functions_unmasked (t := rebound) ⟨_, rfl⟩
  obtain ⟨hvar, -⟩ := hfunctions "g" _ hg
  exact ⟨by decide +kernel, hg, hvar, by decide +kernel⟩

/-- Operations after which the current scope is the one that was opened for them, which has not
been given up in between. -/
structure Balanced (t : SymbolTable) (label : ScopeLabel) (ops : List Op) : Prop where
  inside : ∀ done, done <+: ops → t.depth < ((t.push label).run done).depth
  closed : ((t.push label).run ops).depth = t.depth + 1

/-- The second table is the first one with scopes inside of it, but for returns noted since. -/
def Holds (t u : SymbolTable) : Prop := ∃ r v, r ≠ [] ∧ t.Extends [] v ∧ u = v.around r

namespace Holds

lemma push (t : SymbolTable) (label : ScopeLabel) : t.Holds (t.push label) :=
  ⟨[.opened label], t, List.cons_ne_nil _ _, .refl [] t, rfl⟩

/-- An operation within a scope that is still there after it. -/
lemma after (h : t.Holds u) {op : Op} (hop : t.depth < (u.after op).depth) :
    t.Holds (u.after op) := by
  obtain ⟨r, v, hr, hv, rfl⟩ := h
  obtain ⟨s, r, rfl⟩ := List.exists_cons_of_ne_nil hr
  cases op with
  | push label => exact ⟨.opened label :: s :: r, v, List.cons_ne_nil _ _, hv, rfl⟩
  | pop =>
    refine ⟨r, v, ?_, hv, rfl⟩
    rintro rfl
    exact absurd hv.depth_eq (Nat.ne_of_gt hop)
  | declare x a =>
    cases hu : (v.around (s :: r)).declare x a with
    | error e => exact ⟨s :: r, v, hr, hv, after_of_error hu⟩
    | ok u =>
      obtain ⟨-, -, rfl⟩ := declare_ok hu
      exact ⟨s.insert x a :: r, v, List.cons_ne_nil _ _, hv, after_of_ok hu⟩
  | markReturned f =>
    show t.Holds ((v.around (s :: r)).markReturned f)
    rw [markReturned_around]
    split
    · refine ⟨markFirst f (s :: r), v, fun hnil => ?_, hv, rfl⟩
      have hlen := length_markFirst f (s :: r)
      rw [hnil] at hlen
      cases hlen
    · exact ⟨s :: r, v.markReturned f, hr, hv.trans (markReturned_extends v f), rfl⟩

lemma run {label : ScopeLabel}
    (hops : ∀ done, done <+: ops → t.depth < ((t.push label).run done).depth) :
    t.Holds ((t.push label).run ops) := by
  induction ops using List.reverseRecOn with
  | nil => exact push t label
  | append_singleton ops op ih =>
    have hlast := hops _ (List.prefix_refl _)
    rw [run_append] at hlast ⊢
    exact (ih fun done hdone => hops done (hdone.trans (List.prefix_append ops [op]))).after hlast

end Holds

/-- What happens inside of a scope comes to notes of returns outside. -/
lemma Balanced.extends {label : ScopeLabel} (h : t.Balanced label ops) :
    t.Extends [] ((t.push label).run ops).pop := by
  obtain ⟨r, v, hr, hv, hrun⟩ := Holds.run h.inside
  have hclosed := h.closed
  rw [hrun, depth_around, hv.depth_eq, Nat.add_comm] at hclosed
  obtain ⟨s, rfl⟩ := List.length_eq_one_iff.1 (Nat.add_left_cancel hclosed)
  rw [hrun, pop_around]
  exact hv

/-- Two tables describe the same place: names mean the same in them, but for returns noted since,
and they agree about the scopes around the place. -/
structure SamePlace (t u : SymbolTable) : Prop where
  resolve? : ∀ x, Option.Rel Symbol.Settles (t.resolve? x) (u.resolve? x)
  depth : u.depth = t.depth
  inLoop : u.inLoop = t.inLoop
  enclosingFunction? : u.enclosingFunction? = t.enclosingFunction?

lemma Extends.samePlace (h : t.Extends [] u) : t.SamePlace u :=
  ⟨h.resolve?, h.depth_eq, h.inLoop_eq, h.enclosingFunction?_eq⟩

lemma declare_resolve {x : String} {a : Symbol} (hu : t.declare x a = .ok u) :
    u.resolve x = .ok a ∧ (∀ y, y ≠ x → u.resolve y = t.resolve y) ∧
      u.scopes.tail = t.scopes.tail := by
  obtain ⟨-, -, rfl⟩ := declare_ok hu
  refine ⟨?_, fun y hy => ?_, ?_⟩
  · rw [resolve, resolve?_setCurrent, if_pos rfl]
  · rw [resolve, resolve?_setCurrent, if_neg (Ne.symm hy), resolve]
  · rw [scopes_setCurrent, List.tail_cons]

/-- **Scoping is lexical.** A name that is refused leaves the table as it was. A name that is
declared means its symbol from then on, and no other name and no other scope is affected. Whatever
is done inside of a scope, after it names mean what they meant before, but for returns noted. -/
theorem scoping_is_lexical (t : SymbolTable) :
    (∀ x a e, t.declare x a = .error e →
      t.after (.declare x a) = t ∧ ∀ line, (Check.declare x a line t).symbols = t) ∧
    (∀ x a u, t.declare x a = .ok u →
      t.after (.declare x a) = u ∧ (∀ line, (Check.declare x a line t).symbols = u) ∧
      u.resolve x = .ok a ∧ (∀ y, y ≠ x → u.resolve y = t.resolve y) ∧
      u.scopes.tail = t.scopes.tail) ∧
    ∀ label ops, t.Balanced label ops → t.SamePlace ((t.push label).run ops).pop := by
  refine ⟨fun x a e he => ?_, fun x a u hu => ?_, fun _ _ h => h.extends.samePlace⟩
  · have hafter := after_of_error he
    exact ⟨hafter, fun line => (symbols_declare t x a line).trans hafter⟩
  · have hafter := after_of_ok hu
    exact ⟨hafter, fun line => (symbols_declare t x a line).trans hafter, declare_resolve hu⟩

/-- A table in the body of a function `f`, which has a variable `a`. -/
def entered : SymbolTable :=
  initial.run [.declare "f" (.fn ⟨.int, [], false⟩), .push (.function "f"),
    .declare "a" (.var .int)]

/-- Hides the variable and the function, notes returns of both functions of the name, and is
refused a name. -/
def reusing : List Op :=
  [.markReturned "f", .declare "a" (.fn ⟨.string, [], false⟩), .push (.function "a"),
    .declare "f" (.fn ⟨.float, [], false⟩), .markReturned "f", .pop, .declare "a" (.var .int)]

theorem scoping_is_lexical_reusing :
    entered.Balanced .loop reusing ∧
    entered.SamePlace ((entered.push .loop).run reusing).pop ∧
    ((entered.push .loop).run reusing).resolve "a" = .ok (.fn ⟨.string, [], false⟩) ∧
    ((entered.push .loop).run reusing).pop.resolve "a" = .ok (.var .int) ∧
    ((entered.push .loop).run reusing).pop.resolve "f" = .ok (.fn ⟨.int, [], true⟩) ∧
    entered.after (.declare "f" (.var .int)) = entered ∧
    (entered.after (.declare "b" (.var .float))).resolve "b" = .ok (.var .float) := by
  obtain ⟨hrefused, hdeclared, hinside⟩ := scoping_is_lexical entered
  have hbalanced : entered.Balanced .loop reusing := by
    refine ⟨fun done hdone => ?_, by decide +kernel⟩
    have hall : ∀ done ∈ reusing.inits,
        entered.depth < ((entered.push .loop).run done).depth := by decide +kernel
    exact hall done ((List.mem_inits _ _).2 hdone)
  have hf : entered.declare "f" (.var .int) = .error (.functionNameShadowed "f") := by
    decide +kernel
  have hb : entered.declare "b" (.var .float) = .ok
      (entered.setCurrent (entered.current.insert "b" (.var .float))) := by decide +kernel
  obtain ⟨hafter, -, hresolve, -⟩ := hdeclared _ _ _ hb
  exact ⟨hbalanced, hinside _ _ hbalanced, by decide +kernel, by decide +kernel, by decide +kernel,
    (hrefused _ _ _ hf).1, hafter ▸ hresolve⟩

end SymbolTable

end Imperative
