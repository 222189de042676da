import Imperative.Proofs.Check.Nodes
import Imperative.Proofs.Resolution.Variables

/-!
Values of a run that have the types which the check tells.

A frame holds only variables of its scope, each with a value of the declared type. This is kept as
long as names that the check and a run may take for different things have one type throughout.
-/

namespace Imperative

variable {p : Program}

/-- The check and a run may take a variable of the name for different ones. -/
def Mixed (p : Program) (name : String) : Prop :=
  (∃ type, Conditional p name (.var type)) ∨
    ∃ t k, Seen p t k ∧ k.variable? = some name ∧ t.visible? name ≠ t.resolve? name

/-- Where the check and a run may take a name for different things, all of them have one type. -/
structure Uniform (p : Program) : Prop where
  names : ∀ x, Mixed p x → ∀ σ τ, Declares p x σ → Declares p x τ → σ = τ
  /-- A loose name may become a global variable by an assignment. -/
  assigned : ∀ x, Loose p x → ∀ t e line, Seen p t (.stmt (.assign x e line)) →
    Declares p x (e.type t)
  functions : ∀ t u h h' body body', Seen p t (.stmt (.fn h body)) →
    Seen p u (.stmt (.fn h' body')) → h.name = h'.name →
    h.returnType = h'.returnType ∧ h.params.map Param.type = h'.params.map Param.type

lemma Value.type_ofLiteral {l : Literal} {v : Value} (h : Value.ofLiteral l = .ok v) :
    v.type = l.kind.type := by
  unfold ofLiteral at h
  split at h
  · next w hw =>
    cases h
    unfold read? at hw
    split at hw
    · next hk => obtain ⟨_, _, rfl⟩ := Option.map_eq_some_iff.1 hw; rw [hk]; rfl
    · next hk => obtain ⟨_, _, rfl⟩ := Option.map_eq_some_iff.1 hw; rw [hk]; rfl
    · next hk => obtain ⟨_, _, rfl⟩ := Option.map_eq_some_iff.1 hw; rw [hk]; rfl
  · cases h

/-- Storing gives a value of the type that it is stored as. -/
lemma Value.type_coerce {v : Value} {type : Ty} (h : Task.Storable type v.type)
    (hk : type ≠ .unknown) : (v.coerce type).type = type := by
  rcases h with rfl | h | h | ⟨rfl, h⟩ | ⟨rfl, h⟩
  · cases v <;> rfl
  · exact absurd h hk
  · exact absurd h v.type_ne_unknown
  · cases v <;> cases h
    rfl
  · cases v <;> cases h
    rfl

namespace NoUnknown

variable {t : SymbolTable}

lemma init (hn : NoUnknown p) {type : Ty} {is : List Init} (h : Seen p t (.inits type is)) :
    type ≠ .unknown := by
  obtain ⟨before, line, hw⟩ := h.within
  rintro rfl
  exact hn _ hw (.head _)

lemma returns (hn : NoUnknown p) {h : FnHeader} {body : List Stmt}
    (hs : Seen p t (.stmt (.fn h body))) : h.returnType ≠ .unknown := by
  intro hr
  refine hn _ hs.within ?_
  simp [Node.annotations, hr]

end NoUnknown

/-- What is declared is declared at some node. -/
lemma Source.node {x : String} {type : Ty} (h : Declares p x type) :
    (x, type) ∈ (Node.program p).walk.flatMap Node.declarations := by
  cases h with
  | @var t type i is h =>
    obtain ⟨before, line, hw⟩ := h.within
    exact List.mem_flatMap.2 ⟨_, hw, List.mem_map.2 ⟨i, List.mem_append_right _ (.head _), rfl⟩⟩
  | @param t h body q hs hq =>
    exact List.mem_flatMap.2 ⟨_, hs.within, List.mem_map.2 ⟨q, hq, rfl⟩⟩
  | fn _ ha => cases ha

namespace Uniform

/-- All names may have one type throughout, not only those that are taken for different things. -/
lemma of_nodes
    (hv : ∀ q ∈ (Node.program p).walk.flatMap Node.declarations,
      ∀ q' ∈ (Node.program p).walk.flatMap Node.declarations, q.1 = q'.1 → q.2 = q'.2)
    (hf : ∀ h ∈ (Node.program p).walk.flatMap Node.headers,
      ∀ h' ∈ (Node.program p).walk.flatMap Node.headers, h.name = h'.name →
      h.returnType = h'.returnType ∧ h.params.map Param.type = h'.params.map Param.type)
    (ha : ∀ t x e line, Seen p t (.stmt (.assign x e line)) → Declares p x (e.type t)) :
    Uniform p where
  names _ _ _ _ hσ hτ := hv _ hσ.node _ hτ.node rfl
  assigned x _ t e line hs := ha t x e line hs
  functions _ _ _ _ _ _ hs hs' hname :=
    hf _ (List.mem_flatMap.2 ⟨_, hs.within, .head _⟩) _
      (List.mem_flatMap.2 ⟨_, hs'.within, .head _⟩) hname

/-- A name that is loose is mixed, as all definitions of a function have the same parameters. -/
lemma mixed_of_loose (hu : Uniform p) (hp : Passes p) {x : String} (h : Loose p x) : Mixed p x := by
  rcases h with h | ⟨t, k, hs, hk, hv⟩ | ⟨t, u, h, h', body, body', hs, hs', hname, hx⟩
  · exact .inl h
  · obtain ⟨type, hr⟩ := hs.variable hp hk
    exact .inr ⟨t, k, hs, hk, fun heq => hv type (heq.trans hr)⟩
  · have hlen := congrArg List.length (hu.functions _ _ _ _ _ _ hs hs' hname.symm).2
    rw [List.length_map, List.length_map] at hlen
    rw [← hlen, List.drop_length] at hx
    cases hx

end Uniform

/-- The frame holds variables of the scope, each with a value of its type. -/
def Frame.Fits (p : Program) (f : Frame) (s : Scope) : Prop :=
  ∀ x v, f.get? x = some v → s.get? x = some (.var v.type) ∧ Declares p x v.type

namespace Frame.Fits

variable {f f' : Frame} {s s' : Scope} {l : List (String × Symbol)}

lemma opened (name : String) (label : ScopeLabel) :
    (Frame.block name).Fits p (.opened label) :=
  fun _ _ h => nomatch h

lemma extend (h : f.Fits p s) (hs : s.Extends l s') : f.Fits p s' := by
  intro x v hx
  obtain ⟨hget, hd⟩ := h x v hx
  obtain ⟨b, hb, hab⟩ := hs.keep x _ hget
  obtain rfl := hab.var_left
  exact ⟨hb, hd⟩

lemma back (h : f.Fits p s') (hs : s.Extends [] s') : f.Fits p s := by
  intro x v hx
  obtain ⟨hget, hd⟩ := h x v hx
  rcases hs.source x _ hget with ⟨a, ha, hab⟩ | ⟨_, hmem, -⟩
  · obtain rfl := hab.var_right
    exact ⟨ha, hd⟩
  · cases hmem

lemma declare {name : String} {type : Ty} {v : Value} (h : f.Fits p s) (hv : v.type = type)
    (hd : Declares p name type) : (f.declare name v).Fits p (s.insert name (.var type)) := by
  intro x w hx
  rw [Frame.get?_declare] at hx
  rw [Scope.get?_insert]
  split at hx
  · next hname =>
    cases hx
    subst hv hname
    exact ⟨if_pos rfl, hd⟩
  · next hname =>
    rw [if_neg hname]
    exact h x w hx

lemma writes {name : String} {old w : Value} (h : f.Fits p s) (hw : Frame.Writes name old w f f')
    (ht : w.type = old.type) : f'.Fits p s := by
  rcases hw with rfl | ⟨hold, rfl⟩
  · exact h
  · intro x v hx
    rw [Frame.get?_declare] at hx
    split at hx
    · next hname =>
      cases hx
      subst hname
      rw [ht]
      exact h _ old hold
    · exact h x v hx

end Frame.Fits

/-- All frames fit their scopes, and the global one fits the global scope at the end of the check;
a loose name may have got into it by an assignment. -/
structure Typed (p : Program) (cs : List SymbolTable) (t : SymbolTable) (m : Machine) : Prop where
  tracks : m.memory.Tracks (Frame.Fits p) cs t
  base : ∀ x v, m.memory.base.get? x = some v →
    Declares p x v.type ∧ ((globals p).get? x = some (.var v.type) ∨ Loose p x)

namespace Typed

open SymbolTable

variable {cs : List SymbolTable} {t u v : SymbolTable} {m : Machine} {name : String}

lemma initial (file : String) (sink : Sink) : Typed p [] .initial (.initial file sink) :=
  ⟨.initial, fun _ _ h => nomatch h⟩

lemma settle (he : t.Extends [] u) : Typed p cs t m ↔ Typed p cs u m :=
  ⟨fun h => ⟨h.tracks.extend he fun _ _ _ hs hf => hf.extend hs, h.base⟩,
    fun h => ⟨h.tracks.back he fun _ _ _ hs hf => hf.back hs, h.base⟩⟩

/-- The frames of the function at hand bind the variables of their scopes, and fit them. -/
lemma lookup (h : Typed p cs t m) (hb : Agrees p cs t m) (name : String) :
    ∃ fs, List.Forall₂ (fun (f : Frame) s => f.Binds p s ∧ f.Fits p s) fs t.own ∧
      m.memory.lookup name = (fs ++ [m.memory.base]).findSome? fun f => f.get? name :=
  (hb.tracks.and h.tracks).lookup (fun _ _ h => h.1.mirrors) name

/-- Every value of a variable has a type that the variable has been declared with. -/
lemma lookup_declares {value : Value} (h : Typed p cs t m) (hb : Agrees p cs t m)
    (hl : m.memory.lookup name = some value) : Declares p name value.type := by
  obtain ⟨fs, hfs, heq⟩ := h.lookup hb name
  rw [heq] at hl
  generalize t.own = ss at hfs
  clear heq
  induction hfs with
  | nil =>
    obtain ⟨f, hf, hget⟩ := List.exists_of_findSome?_eq_some hl
    obtain rfl := List.mem_singleton.1 hf
    exact (h.base name value hget).1
  | @cons f s fs ss hf _ ih =>
    rw [List.cons_append, List.findSome?_cons] at hl
    cases hget : f.get? name with
    | some w => rw [hget] at hl; cases hl; exact (hf.2 name value hget).2
    | none => rw [hget] at hl; exact ih hl

/-- **A variable that is visible and not loose has a value of its type.** -/
theorem lookup_type {value : Value} {type : Ty} {k : Task} (h : Typed p cs t m)
    (hb : Agrees p cs t m) (hs : Seen p t k) (hx : t.visible? name = some (.var type))
    (hn : ¬ Loose p name) (hl : m.memory.lookup name = some value) : value.type = type := by
  obtain ⟨fs, hfs, heq⟩ := h.lookup hb name
  rw [heq] at hl
  unfold visible? at hx
  generalize t.own = ss at hfs hx
  clear heq
  induction hfs with
  | nil =>
    obtain ⟨f, hf, hget⟩ := List.exists_of_findSome?_eq_some hl
    obtain rfl := List.mem_singleton.1 hf
    obtain ⟨s, hs', hget'⟩ := List.exists_of_findSome?_eq_some hx
    obtain rfl := List.mem_singleton.1 hs'
    obtain ⟨_, hext⟩ := hs.globals_extends
    obtain ⟨b, hb, hab⟩ := hext.keep name _ hget'
    obtain rfl := hab.var_left
    have hglobal := (h.base name value hget).2.resolve_right hn
    rw [hb] at hglobal
    cases hglobal
    rfl
  | @cons f s fs ss hf _ ih =>
    rw [List.cons_append, List.findSome?_cons] at hl hx
    cases hget : f.get? name with
    | some w =>
      rw [hget] at hl
      cases hl
      rw [(hf.2 name value hget).1] at hx
      cases hx
      rfl
    | none =>
      rw [hget] at hl
      cases hs : s.get? name with
      | none => rw [hs] at hx; exact ih hl hx
      | some a =>
        rw [hs] at hx
        cases hx
        have hc := (hf.1.binds name type hs).resolve_left hn
        rw [Frame.contains_eq, hget] at hc
        cases hc

/-- **A variable has the type that the check tells.** -/
theorem variable_type {value : Value} {type : Ty} {k : Task} (hp : Passes p) (hu : Uniform p)
    (h : Typed p cs t m) (hb : Agrees p cs t m) (hs : Seen p t k) (hk : k.variable? = some name)
    (hr : t.resolve? name = some (.var type)) (hl : m.memory.lookup name = some value) :
    value.type = type := by
  by_cases hm : Mixed p name
  · exact hu.names name hm _ _ (h.lookup_declares hb hl) (hs.proper.sourced.resolve? hr)
  · have hv : t.visible? name = t.resolve? name := by
      by_contra hne
      exact hm (.inr ⟨t, k, hs, hk, hne⟩)
    exact h.lookup_type hb hs (hv.trans hr) (fun hn => hm (hu.mixed_of_loose hp hn)) hl

end Typed

end Imperative
