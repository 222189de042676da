import Imperative.Proofs.Check.Noting
import Imperative.Proofs.Check.Passing
import Imperative.Proofs.Typing.Judgment

/-!
A table of symbols and a context that say the same of a place.
-/

namespace Imperative

open Stmt

def Symbol.entry : Symbol → Entry
  | var type => .var type
  | fn signature => .fn signature.params signature.returnType

lemma Symbol.Settles.entry {a b : Symbol} (h : a.Settles b) : b.entry = a.entry := by
  cases h <;> rfl

/-- The scope and the list hold the same names, and these mean the same. -/
def Scope.Shows (s : Scope) (names : Names) : Prop :=
  ∀ name, (s.get? name).map Symbol.entry = names.lookup name

namespace Scope.Shows

variable {s s' : Scope} {names : Names}

lemma opened (label : ScopeLabel) : (Scope.opened label).Shows [] := fun _ => rfl

lemma settle (h : s.Shows names) (he : s.Extends [] s') : s'.Shows names := by
  intro name
  rw [← h name]
  cases hs : s.get? name with
  | some a =>
    obtain ⟨b, hb, hab⟩ := he.keep name a hs
    rw [hb]
    exact congrArg some hab.entry
  | none =>
    cases hs' : s'.get? name with
    | none => rfl
    | some b =>
      rcases he.source name b hs' with ⟨a, ha, -⟩ | ⟨a, ha, -⟩
      · rw [hs] at ha
        cases ha
      · cases ha

lemma insert (h : s.Shows names) (name : String) (a : Symbol) :
    (s.insert name a).Shows ((name, a.entry) :: names) := by
  intro x
  rw [Scope.get?_insert, List.lookup_cons]
  by_cases hx : name = x
  · subst hx
    simp
  · rw [if_neg hx, h x, (beq_eq_false_iff_ne.2 (Ne.symm hx))]

/-- Of chains of scopes, the innermost that holds a name decides. -/
lemma findSome? {r : List Scope} {rest : List Names} (h : List.Forall₂ Scope.Shows r rest)
    (name : String) : (r.findSome? fun s => s.get? name).map Symbol.entry =
      rest.findSome? fun names => names.lookup name := by
  induction h with
  | nil => rfl
  | @cons s names r rest hs _ ih =>
    rw [List.findSome?_cons, List.findSome?_cons, ← hs name]
    cases s.get? name with
    | none => exact ih
    | some a => rfl

end Scope.Shows

/-- The function around the place is that of the context, and no statement ahead takes its name. -/
def SymbolTable.ShowsReturn (t : SymbolTable) (ahead : List Stmt) : Option Ty → Prop
  | none => t.enclosingFunction? = none
  | some type => ∃ f, t.AtHand f type ∧ Clear f ahead

namespace SymbolTable.ShowsReturn

variable {t u : SymbolTable} {ahead : List Stmt} {o : Option Ty} {l : List (String × Symbol)}

/-- The function at hand stays, while none of its name is added. -/
lemma extend (h : t.ShowsReturn ahead o) (he : t.Extends l u)
    (hl : ∀ f g, Clear f ahead → (f, .fn g) ∉ l) : u.ShowsReturn ahead o := by
  cases o with
  | none => exact he.enclosingFunction?_eq.trans h
  | some type =>
    obtain ⟨f, hf, hc⟩ := h
    exact ⟨f, hf.extend he fun g => hl f g hc, hc⟩

lemma push {label : ScopeLabel} (h : t.ShowsReturn ahead o) (hl : ∀ f, label ≠ .function f) :
    (t.push label).ShowsReturn ahead o := by
  cases o with
  | none =>
    cases label with
    | function f => exact (hl f rfl).elim
    | global | loop | block => exact h
  | some type =>
    obtain ⟨f, hf, hc⟩ := h
    exact ⟨f, hf.push hl, hc⟩

end SymbolTable.ShowsReturn

/-- The table says what the context says, where the statements lie ahead. -/
structure Models (t : SymbolTable) (Γ : Context) (ahead : List Stmt) : Prop where
  inner : List.Forall₂ Scope.Shows t.inner Γ.inner
  base : t.base.Shows Γ.globals
  inLoop : t.inLoop = Γ.inLoop
  returns : t.ShowsReturn ahead Γ.returnType

namespace Models

open SymbolTable

variable {t u : SymbolTable} {Γ Γ' : Context} {ahead ahead' : List Stmt} {name : String}
  {a : Symbol}

lemma initial (ahead : List Stmt) : Models .initial .initial ahead :=
  ⟨.nil, Scope.Shows.opened .global, rfl, rfl⟩

lemma resolve? (h : Models t Γ ahead) (name : String) :
    (t.resolve? name).map Symbol.entry = Γ.lookup name := by
  have hscopes : List.Forall₂ Scope.Shows t.scopes (Γ.inner ++ [Γ.globals]) :=
    List.rel_append h.inner (.cons h.base .nil)
  exact Scope.Shows.findSome? hscopes name

lemma resolve?_var (h : Models t Γ ahead) {type : Ty} :
    t.resolve? name = some (.var type) ↔ Γ.lookup name = some (.var type) := by
  rw [← h.resolve? name]
  cases t.resolve? name with
  | none => simp
  | some a => cases a <;> simp [Symbol.entry]

lemma resolve?_fn (h : Models t Γ ahead) {g : Signature}
    (hg : t.resolve? name = some (.fn g)) : Γ.lookup name = some (.fn g.params g.returnType) := by
  rw [← h.resolve? name, hg]
  rfl

lemma resolve?_of_fn (h : Models t Γ ahead) {params : List Ty} {type : Ty}
    (hname : Γ.lookup name = some (.fn params type)) :
    ∃ g, t.resolve? name = some (.fn g) ∧ g.params = params ∧ g.returnType = type := by
  rw [← h.resolve? name] at hname
  obtain ⟨a, ha, hentry⟩ := Option.map_eq_some_iff.1 hname
  cases a with
  | var => cases hentry
  | fn g => cases hentry; exact ⟨g, ha, rfl, rfl⟩

lemma current (h : Models t Γ ahead) : t.current.Shows Γ.current := by
  obtain ⟨hinner, hbase, -, -⟩ := h
  rcases t with ⟨_ | ⟨s, r⟩, b⟩ <;> rcases Γ with ⟨_ | ⟨names, rest⟩, globals, _, _⟩ <;>
    cases hinner
  · exact hbase
  · next hs _ => exact hs

/-- A name may be declared in the table just if the context admits it. -/
lemma admits (h : Models t Γ ahead) :
    (∃ u, t.declare name a = .ok u) ↔ Γ.Admits name a.entry := by
  have hcurrent := h.current name
  have hbase := h.base name
  have hcontains : t.current.contains name = false ↔ Γ.current.lookup name = none := by
    rw [← hcurrent]
    simp [Scope.contains, Bindings.contains, Scope.get?]
  have hshadow : t.shadowsFunction name a = false ↔ ∀ type, a.entry = .var type →
      ∀ params returnType, Γ.globals.lookup name ≠ some (.fn params returnType) := by
    rw [← hbase]
    cases a with
    | fn g => simp [shadowsFunction, Symbol.entry]
    | var type =>
      simp only [shadowsFunction, Scope.signature?, Symbol.entry]
      cases t.base.get? name with
      | none => simp
      | some b => cases b <;> simp [Symbol.entry]
  unfold Context.Admits
  rw [← hcontains, ← hshadow]
  unfold SymbolTable.declare
  split
  · next hs => simp [hs]
  · next hs =>
    split
    · next hc => simp [hc]
    · next hc => simp [hs, hc]

lemma settle (h : Models t Γ ahead) (he : t.Extends [] u) : Models u Γ ahead := by
  refine ⟨?_, h.base.settle he.base_extends, he.inLoop_eq.trans h.inLoop, ?_⟩
  · have hback : List.Forall₂ (fun s' s => s.Extends [] s') u.inner t.inner := he.inner_extends.flip
    exact forall₂_trans (fun s' s names hss hs => hs.settle hss) hback h.inner
  · exact h.returns.extend he fun _ _ _ => List.not_mem_nil

lemma block (h : Models t Γ ahead) : Models (t.push .block) Γ.block ahead :=
  ⟨.cons (.opened .block) h.inner, h.base, h.inLoop, h.returns.push (by simp)⟩

lemma loop (h : Models t Γ ahead) : Models (t.push .loop) Γ.loop ahead :=
  ⟨.cons (.opened .loop) h.inner, h.base, rfl, h.returns.push (by simp)⟩

lemma declare (h : Models t Γ ahead) (hu : t.declare name a = .ok u)
    (hl : ∀ f g, Clear f ahead → (f, .fn g) ∉ [(name, a)]) :
    Models u (Γ.declare name a.entry) ahead := by
  have hext := declare_extends hu
  have hloop := hext.inLoop_eq.trans h.inLoop
  have hreturns := h.returns.extend hext hl
  obtain ⟨hinner, hbase, -, -⟩ := h
  obtain ⟨-, -, rfl⟩ := declare_ok hu
  rcases t with ⟨_ | ⟨s, r⟩, b⟩ <;> rcases Γ with ⟨_ | ⟨names, rest⟩, globals, _, _⟩ <;>
    cases hinner
  · exact ⟨.nil, hbase.insert name a, hloop, hreturns⟩
  · next hs hr => exact ⟨.cons (hs.insert name a) hr, hbase, hloop, hreturns⟩

/-- In the body of a function. -/
lemma function {header : FnHeader} {ahead' : List Stmt} (h : Models u Γ ahead)
    (hu : t.declare header.name (.fn (Check.signatureOf header)) = .ok u)
    (hc : Clear header.name ahead') :
    Models (u.push (.function header.name)) (Γ.function header.returnType) ahead' :=
  ⟨.cons (.opened _) h.inner, h.base, rfl, header.name, Check.push_atHand hu, hc⟩

end Models

end Imperative
