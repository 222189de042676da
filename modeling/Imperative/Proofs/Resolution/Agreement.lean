import Imperative.Proofs.Check.Passing
import Imperative.Proofs.Check.Source
import Imperative.Proofs.Machine.Growth
import Imperative.Proofs.Memory.Access

/-!
Where the names that are known to the check are bound in a run.

The check knows a name from its declaration on, in all scopes inside. A run may leave out a
declaration that is a branch of a condition, reads only the frames of one function and the global
one, and calls the last definition of a name that it has come by. Names for which this makes a
difference are loose. All other names are bound where they are known.
-/

namespace Imperative

variable {p : Program}

/-- A branch of a condition declares the name as the symbol. -/
def Conditional (p : Program) (name : String) (a : Symbol) : Prop :=
  ∃ t test yes no line s, Seen p t (.stmt (.cond test yes no line)) ∧ (s = yes ∨ no = some s) ∧
    (name, a) ∈ s.adds

/-- The variable that a task reads or assigns to. -/
def Task.variable? : Task → Option String
  | expr (.var name _) | stmt (.assign name _ _) => some name
  | _ => none

/-- To the check, the name is one of a variable. -/
lemma Seen.variable {t : SymbolTable} {k : Task} {name : String} (hp : Passes p) (h : Seen p t k)
    (hk : k.variable? = some name) : ∃ type, t.resolve? name = some (.var type) := by
  match k with
  | .expr (.var ..) =>
    cases hk
    exact (h.passes hp).var
  | .stmt (.assign ..) =>
    cases hk
    obtain ⟨type, hr, -⟩ := (h.passes hp).assign
    exact ⟨type, hr⟩

/-- A call is checked against a definition of the name, and has its return type. -/
lemma Seen.definition {t : SymbolTable} {name : String} {args : List Expr} {line : Nat}
    (hp : Passes p) (hs : Seen p t (.expr (.call name args line))) :
    ∃ u h body, Seen p u (.stmt (.fn h body)) ∧ h.name = name ∧
      Expr.type t (.call name args line) = h.returnType ∧
      List.Forall₂ (fun type e => type = Expr.type t e ∨ Expr.type t e = .unknown)
        (h.params.map Param.type) args := by
  obtain ⟨g, hg, hargs⟩ := (hs.passes hp).call
  obtain ⟨u, h, body, hd, hname, hreturn, hparams⟩ :=
    (hs.proper.sourced.resolve? hg).definition
  refine ⟨u, h, body, hd, hname, ?_, ?_⟩
  · rw [← hreturn]
    unfold Expr.type
    rw [hg]
  · rw [hparams, List.forall₂_map_right_iff] at hargs
    exact hargs

/-- Somewhere the name is used as a variable and is not one of the function at hand or of the global
scope. -/
def Hidden (p : Program) (name : String) : Prop :=
  ∃ t k, Seen p t k ∧ k.variable? = some name ∧ ∀ type, t.visible? name ≠ some (.var type)

/-- The name is a parameter that has no counterpart in another definition of the same function
name. -/
def Spare (p : Program) (name : String) : Prop :=
  ∃ t u h h' body body', Seen p t (.stmt (.fn h body)) ∧ Seen p u (.stmt (.fn h' body')) ∧
    h'.name = h.name ∧ name ∈ (h.params.drop h'.params.length).map Param.name

/-- A variable of the name need not be bound where it is known. -/
def Loose (p : Program) (name : String) : Prop :=
  (∃ type, Conditional p name (.var type)) ∨ Hidden p name ∨ Spare p name

/-- The frame belongs to the scope and binds its variables, loose ones apart. -/
structure Frame.Binds (p : Program) (f : Frame) (s : Scope) : Prop where
  mirrors : f.Mirrors s
  binds : ∀ x type, s.get? x = some (.var type) → Loose p x ∨ f.contains x = true

namespace Frame.Binds

variable {f f' : Frame} {s s' : Scope} {l : List (String × Symbol)}

lemma opened {label : ScopeLabel} (name : String) (hl : ∀ f, label ≠ .function f) :
    (Frame.block name).Binds p (.opened label) := by
  refine ⟨?_, fun x type hx => nomatch hx⟩
  unfold Frame.Mirrors
  rw [SymbolTable.function?_opened hl]
  exact ⟨fun h => (nomatch h), fun h => (nomatch h)⟩

lemma mirrors_iff (hs : s.Extends l s') : f.Mirrors s' ↔ f.Mirrors s := by
  unfold Frame.Mirrors
  rw [SymbolTable.Extends.function?_eq hs]

lemma extend (h : f.Binds p s) (hs : s.Extends l s')
    (hl : ∀ x type, (x, .var type) ∈ l → Loose p x) : f.Binds p s' := by
  refine ⟨(mirrors_iff hs).2 h.mirrors, fun x type hx => ?_⟩
  rcases hs.source x _ hx with ⟨a, ha, hab⟩ | ⟨a, ha, hab⟩
  · obtain rfl := hab.var_right
    exact h.binds x type ha
  · obtain rfl := hab.var_right
    exact .inl (hl x type ha)

lemma back (h : f.Binds p s') (hs : s.Extends l s') : f.Binds p s := by
  refine ⟨(mirrors_iff hs).1 h.mirrors, fun x type hx => ?_⟩
  obtain ⟨b, hb, hab⟩ := hs.keep x _ hx
  obtain rfl := hab.var_left
  exact h.binds x type hb

lemma declare {name : String} {type : Ty} {v : Value} (h : f.Binds p s) :
    (f.declare name v).Binds p (s.insert name (.var type)) := by
  refine ⟨h.mirrors, fun x σ hx => ?_⟩
  rw [Scope.get?_insert] at hx
  split at hx
  · next hname => exact .inr (f.contains_declare (.inl hname))
  · exact (h.binds x σ hx).imp_right fun hc => f.contains_declare (.inr hc)

lemma writes {name : String} {old w : Value} (h : f.Binds p s)
    (hw : Frame.Writes name old w f f') : f'.Binds p s := by
  rcases hw with rfl | ⟨-, rfl⟩
  · exact h
  · exact ⟨h.mirrors, fun x type hx => (h.binds x type hx).imp_right fun hc =>
      f.contains_declare (.inr hc)⟩

/-- The frame of a call binds the parameters that there are arguments for. -/
lemma callFrame {h : FnHeader} {vs : List Value}
    (hvs : ∀ x ∈ (h.params.drop vs.length).map Param.name, Loose p x)
    (hs : Scope.Extends (h.params.map fun q => (q.name, .var q.type))
      (.opened (.function h.name)) s) : (callFrame h vs).Binds p s := by
  refine ⟨?_, fun x type hx => ?_⟩
  · unfold Frame.Mirrors
    rw [SymbolTable.Extends.function?_eq hs, kind_callFrame]
    exact ⟨fun _ => rfl, fun _ => rfl⟩
  · rcases hs.source x _ hx with ⟨_, ha, -⟩ | ⟨a, ha, hab⟩
    · cases ha
    · obtain ⟨q, hq, heq⟩ := List.mem_map.1 ha
      cases heq
      rw [← List.take_append_drop vs.length h.params] at hq
      rcases List.mem_append.1 hq with hq | hq
      · exact .inr (callFrame_contains hq)
      · exact .inl (hvs _ (List.mem_map_of_mem hq))

end Frame.Binds

/-- The global variables and the functions that the table knows are bound and defined, loose ones
apart. -/
structure Bound (p : Program) (t : SymbolTable) (m : Machine) : Prop where
  vars : ∀ x type, t.base.get? x = some (.var type) →
    Loose p x ∨ m.memory.base.contains x = true
  fns : ∀ s ∈ t.scopes, ∀ f g, s.get? f = some (.fn g) →
    (∃ g', Conditional p f (.fn g')) ∨ m.functions.contains f = true

namespace Bound

open SymbolTable

variable {t u : SymbolTable} {m m' : Machine} {l : List (String × Symbol)}

lemma grows (h : Bound p t m) (hm : m.Grows m') : Bound p t m' :=
  ⟨fun x type hx => (h.vars x type hx).imp_right (hm.globals x),
    fun s hs f g hf => (h.fns s hs f g hf).imp_right (hm.functions f)⟩

lemma initial (m : Machine) : Bound p .initial m := by
  refine ⟨fun x type hx => (nomatch hx), fun s hs f g hf => ?_⟩
  obtain rfl : s = .opened .global := by
    simpa [SymbolTable.scopes, SymbolTable.initial] using hs
  cases hf

lemma extend (h : Bound p t m) (he : t.Extends l u)
    (hv : ∀ x type, (x, .var type) ∈ l → t.inner = [] →
      Loose p x ∨ m.memory.base.contains x = true)
    (hf : ∀ f g, (f, .fn g) ∈ l →
      (∃ g', Conditional p f (.fn g')) ∨ m.functions.contains f = true) : Bound p u m := by
  refine ⟨fun x type hx => ?_, fun s hs f g hg => ?_⟩
  · cases he with
    | base hb =>
      rcases hb.source x _ hx with ⟨a, ha, hab⟩ | ⟨a, ha, hab⟩
      · obtain rfl := hab.var_right; exact h.vars x type ha
      · obtain rfl := hab.var_right; exact hv x type ha rfl
    | inner _ _ hb =>
      rcases hb.source x _ hx with ⟨a, ha, hab⟩ | ⟨a, ha, -⟩
      · obtain rfl := hab.var_right; exact h.vars x type ha
      · cases ha
  · obtain ⟨i, hi, rfl⟩ := List.getElem_of_mem hs
    have hscope := he.scopes.get (he.scopes.length_eq ▸ hi) hi
    rcases hscope.source f _ hg with ⟨a, ha, hab⟩ | ⟨a, ha, hab⟩
    · obtain ⟨g', rfl, -⟩ := hab.fn_right
      exact h.fns _ (List.getElem_mem _) f g' ha
    · obtain ⟨g', rfl, -⟩ := hab.fn_right
      exact hf f g' ha

lemma back (h : Bound p u m) (he : t.Extends l u) : Bound p t m := by
  refine ⟨fun x type hx => ?_, fun s hs f g hg => ?_⟩
  · obtain ⟨_, hb⟩ := Grows.of_extends he
    obtain ⟨b, hb, hab⟩ := hb.keep x _ hx
    obtain rfl := hab.var_left
    exact h.vars x type hb
  · obtain ⟨i, hi, rfl⟩ := List.getElem_of_mem hs
    have hscope := he.scopes.get hi (he.scopes.length_eq ▸ hi)
    obtain ⟨b, hb, hab⟩ := hscope.keep f _ hg
    obtain ⟨g', rfl, -⟩ := hab.fn_left
    exact h.fns _ (List.getElem_mem _) f g' hb

lemma push {label : ScopeLabel} (h : Bound p t m) : Bound p (t.push label) m := by
  refine ⟨h.vars, fun s hs f g hg => ?_⟩
  rcases List.mem_cons.1 hs with rfl | hs
  · cases hg
  · exact h.fns s hs f g hg

lemma pop (h : Bound p t m) : Bound p t.pop m := by
  refine ⟨h.vars, fun s hs f g hg => h.fns s ?_ f g hg⟩
  rcases t with ⟨_ | ⟨s', r⟩, b⟩
  · exact hs
  · exact List.mem_cons_of_mem _ hs

end Bound

end Imperative
