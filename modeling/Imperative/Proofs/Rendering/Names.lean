import Mathlib.Logic.Function.Basic
import Imperative.Machine.Evaluation
import Imperative.Scope.Table

/-!
Tables and frames with other names in them.

Where names stay apart, looking a name up, adding it and writing to it commute with renaming.
-/

namespace Imperative

variable {f : String → String} {α : Type}

namespace Bindings

def rename (f : String → String) (b : Bindings α) : Bindings α :=
  ⟨b.entries.map fun e => (f e.1, e.2)⟩

lemma get?_rename (hf : f.Injective) (b : Bindings α) (name : String) :
    (b.rename f).get? (f name) = b.get? name := by
  obtain ⟨es⟩ := b
  show find (f name) (es.map _) = find name es
  induction es with
  | nil => rfl
  | cons e es ih => simp only [List.map_cons, find, hf.eq_iff, ih]

lemma insert_rename (hf : f.Injective) (b : Bindings α) (name : String) (a : α) :
    (b.rename f).insert (f name) a = (b.insert name a).rename f := by
  obtain ⟨es⟩ := b
  refine congrArg Bindings.mk ?_
  show put (f name) a (es.map _) = (put name a es).map _
  induction es with
  | nil => rfl
  | cons e es ih =>
    by_cases h : e.1 = name
    · simp only [List.map_cons, put, hf.eq_iff, if_pos h]
    · simp only [List.map_cons, put, hf.eq_iff, if_neg h, ih]

lemma contains_rename (hf : f.Injective) (b : Bindings α) (name : String) :
    (b.rename f).contains (f name) = b.contains name := by
  unfold contains
  rw [get?_rename hf]

@[simp] lemma rename_id (b : Bindings α) : b.rename id = b := by
  obtain ⟨es⟩ := b
  exact congrArg Bindings.mk (List.map_id es)

end Bindings

/-! ### Scopes -/

def ScopeLabel.rename (f : String → String) : ScopeLabel → ScopeLabel
  | function name => function (f name)
  | label => label

def SymbolError.rename (f : String → String) : SymbolError → SymbolError
  | duplicateDeclaration name => duplicateDeclaration (f name)
  | functionNameShadowed name => functionNameShadowed (f name)
  | undeclaredName name => undeclaredName (f name)

namespace Scope

def rename (f : String → String) (s : Scope) : Scope := ⟨s.label.rename f, s.symbols.rename f⟩

lemma get?_rename (hf : f.Injective) (s : Scope) (name : String) :
    (s.rename f).get? (f name) = s.get? name := Bindings.get?_rename hf s.symbols name

lemma contains_rename (hf : f.Injective) (s : Scope) (name : String) :
    (s.rename f).contains (f name) = s.contains name := Bindings.contains_rename hf s.symbols name

lemma insert_rename (hf : f.Injective) (s : Scope) (name : String) (symbol : Symbol) :
    (s.rename f).insert (f name) symbol = (s.insert name symbol).rename f :=
  congrArg (Scope.mk _) (Bindings.insert_rename hf s.symbols name symbol)

lemma signature?_rename (hf : f.Injective) (s : Scope) (name : String) :
    (s.rename f).signature? (f name) = s.signature? name := by
  unfold signature?
  rw [get?_rename hf]

lemma markReturned_rename (hf : f.Injective) (s : Scope) (name : String) :
    (s.rename f).markReturned (f name) = (s.markReturned name).rename f := by
  unfold markReturned
  rw [signature?_rename hf]
  cases s.signature? name with
  | none => rfl
  | some signature => exact insert_rename hf s name _

lemma function?_rename (s : Scope) : (s.rename f).function? = s.function?.map f := by
  unfold function? rename ScopeLabel.rename
  cases s.label <;> rfl

end Scope

namespace SymbolTable

def rename (f : String → String) (t : SymbolTable) : SymbolTable :=
  ⟨t.inner.map (.rename f), t.base.rename f⟩

variable (t : SymbolTable)

lemma scopes_rename : (t.rename f).scopes = t.scopes.map (.rename f) := by
  simp only [scopes, rename, List.map_append, List.map_cons, List.map_nil]

lemma current_rename : (t.rename f).current = t.current.rename f := by
  rcases t with ⟨_ | ⟨s, rest⟩, base⟩ <;> rfl

lemma isGlobal_rename : (t.rename f).isGlobal = t.isGlobal := by
  rcases t with ⟨_ | ⟨s, rest⟩, base⟩ <;> rfl

lemma push_rename (label : ScopeLabel) :
    (t.rename f).push (label.rename f) = (t.push label).rename f := rfl

lemma pop_rename : (t.rename f).pop = t.pop.rename f := by
  rcases t with ⟨_ | ⟨s, rest⟩, base⟩ <;> rfl

lemma setCurrent_rename (s : Scope) :
    (t.rename f).setCurrent (s.rename f) = (t.setCurrent s).rename f := by
  rcases t with ⟨_ | ⟨s', rest⟩, base⟩ <;> rfl

lemma inLoop_rename : (t.rename f).inLoop = t.inLoop := by
  have first (ss : List Scope) : loopFirst (ss.map (.rename f)) = loopFirst ss := by
    induction ss with
    | nil => rfl
    | cons s ss ih =>
      rcases s with ⟨_ | _ | _ | _, symbols⟩
      · exact ih
      · rfl
      · rfl
      · exact ih
  unfold inLoop
  rw [scopes_rename, first]

lemma enclosingFunction?_rename :
    (t.rename f).enclosingFunction? = t.enclosingFunction?.map f := by
  unfold enclosingFunction?
  rw [scopes_rename]
  induction t.scopes with
  | nil => rfl
  | cons s ss ih =>
    rw [List.map_cons, List.findSome?_cons, List.findSome?_cons, Scope.function?_rename]
    cases s.function? with
    | none => exact ih
    | some name => rfl

section

variable {t} (hf : f.Injective)
include hf

lemma resolve?_rename (name : String) : (t.rename f).resolve? (f name) = t.resolve? name := by
  unfold resolve?
  rw [scopes_rename, List.findSome?_map]
  exact congrArg₂ _ (funext fun s => s.get?_rename hf name) rfl

lemma signature?_rename (name : String) :
    (t.rename f).signature? (f name) = t.signature? name := by
  unfold signature?
  rw [scopes_rename, List.findSome?_map]
  exact congrArg₂ _ (funext fun s => s.signature?_rename hf name) rfl

lemma shadowsFunction_rename (name : String) (symbol : Symbol) :
    (t.rename f).shadowsFunction (f name) symbol = t.shadowsFunction name symbol := by
  cases symbol with
  | var _ => exact congrArg Option.isSome (t.base.signature?_rename hf name)
  | fn _ => rfl

/-- What is refused under one set of names is refused under the other. -/
lemma declare_rename (name : String) (symbol : Symbol) :
    (t.rename f).declare (f name) symbol =
      match t.declare name symbol with
      | .ok t => .ok (t.rename f)
      | .error e => .error (e.rename f) := by
  unfold declare
  rw [shadowsFunction_rename hf, current_rename, Scope.contains_rename hf,
    Scope.insert_rename hf, setCurrent_rename]
  by_cases hs : t.shadowsFunction name symbol = true
  · simp only [if_pos hs]
    rfl
  · by_cases hc : t.current.contains name = true
    · simp only [if_neg hs, if_pos hc]
      rfl
    · simp only [if_neg hs, if_neg hc]

lemma markFirst_rename (name : String) (ss : List Scope) :
    markFirst (f name) (ss.map (.rename f)) = (markFirst name ss).map (.rename f) := by
  induction ss with
  | nil => rfl
  | cons s ss ih =>
    simp only [List.map_cons, markFirst, Scope.signature?_rename hf, ih]
    split
    · rw [List.map_cons, Scope.markReturned_rename hf]
    · rw [List.map_cons]

lemma markReturned_rename (name : String) :
    (t.rename f).markReturned (f name) = (t.markReturned name).rename f := by
  have hany : ((t.rename f).inner.any fun s => (s.signature? (f name)).isSome) =
      t.inner.any fun s => (s.signature? name).isSome := by
    simp only [rename, List.any_map, Function.comp_def, Scope.signature?_rename hf]
  unfold markReturned
  rw [hany]
  split
  · exact congrArg (SymbolTable.mk · _) (markFirst_rename hf name t.inner)
  · exact congrArg (SymbolTable.mk _) (Scope.markReturned_rename hf t.base name)

end

end SymbolTable

/-! ### Frames -/

namespace Frame

/-- The frame with other names of variables; one that a call opened has the name of a function. -/
def rename (f : String → String) (fr : Frame) : Frame :=
  { fr with name := if fr.kind = .call then f fr.name else fr.name, values := fr.values.rename f }

lemma get?_rename (hf : f.Injective) (fr : Frame) (name : String) :
    (fr.rename f).get? (f name) = fr.get? name := Bindings.get?_rename hf fr.values name

lemma contains_rename (hf : f.Injective) (fr : Frame) (name : String) :
    (fr.rename f).contains (f name) = fr.contains name := Bindings.contains_rename hf fr.values name

lemma declare_rename (hf : f.Injective) (fr : Frame) (name : String) (v : Value) :
    (fr.rename f).declare (f name) v = (fr.declare name v).rename f :=
  congrArg (Frame.mk _ _) (Bindings.insert_rename hf fr.values name v)

@[simp] lemma rename_id (fr : Frame) : fr.rename id = fr := by
  obtain ⟨name, kind, values⟩ := fr
  simp only [rename, id_eq, ite_self, Bindings.rename_id]

end Frame

namespace Memory

def rename (f : String → String) (m : Memory) : Memory :=
  ⟨m.inner.map (.rename f), m.base.rename f⟩

@[simp] lemma rename_id (m : Memory) : m.rename id = m := by
  obtain ⟨inner, base⟩ := m
  simp only [rename, funext Frame.rename_id, List.map_id', Frame.rename_id]

lemma pop_rename (m : Memory) : (m.rename f).pop = m.pop.rename f := by
  rcases m with ⟨_ | ⟨fr, rest⟩, base⟩ <;> rfl

variable {m : Memory} (hf : f.Injective)
include hf

lemma lookup_rename (name : String) : (m.rename f).lookup (f name) = m.lookup name := by
  obtain ⟨inner, base⟩ := m
  show lookupFrom (base.rename f) (f name) (inner.map _) = lookupFrom base name inner
  induction inner with
  | nil => exact base.get?_rename hf name
  | cons fr rest ih =>
    simp only [List.map_cons, lookupFrom, Frame.get?_rename hf, ih]
    rfl

lemma declare_rename (name : String) (v : Value) :
    (m.rename f).declare (f name) v = (m.declare name v).rename f := by
  rcases m with ⟨_ | ⟨fr, rest⟩, base⟩
  · exact congrArg (Memory.mk _) (base.declare_rename hf name v)
  · exact congrArg (fun fr' => Memory.mk (fr' :: _) _) (fr.declare_rename hf name v)

lemma declareGlobal_rename (name : String) (v : Value) :
    (m.rename f).declareGlobal (f name) v = (m.declareGlobal name v).rename f :=
  congrArg (Memory.mk _) (m.base.declare_rename hf name v)

lemma writeInner_rename (name : String) (v : Value) (frames : List Frame) :
    writeInner (f name) v (frames.map (.rename f)) =
      (writeInner name v frames).map (List.map (.rename f)) := by
  induction frames with
  | nil => rfl
  | cons fr rest ih =>
    have hkind : (fr.rename f).kind = fr.kind := rfl
    simp only [List.map_cons, writeInner, Frame.contains_rename hf, Frame.declare_rename hf, ih,
      hkind]
    split
    · rfl
    · split
      · rfl
      · simp only [Option.map_map, Function.comp_def, List.map_cons]

lemma assign?_rename (name : String) (v : Value) :
    (m.rename f).assign? (f name) v = (m.assign? name v).map (rename f) := by
  have hinner : writeInner (f name) v (m.rename f).inner =
      (writeInner name v m.inner).map (List.map (.rename f)) := writeInner_rename hf name v m.inner
  have hbase : (m.rename f).base.contains (f name) = m.base.contains name :=
    m.base.contains_rename hf name
  unfold assign?
  rw [hinner, hbase, declareGlobal_rename hf]
  cases writeInner name v m.inner with
  | some inner => rfl
  | none =>
    show (if m.base.contains name then _ else _) = Option.map (rename f) (if _ then _ else _)
    split <;> rfl

lemma assignOrDeclareGlobal_rename (name : String) (v : Value) :
    (m.rename f).assignOrDeclareGlobal (f name) v =
      (m.assignOrDeclareGlobal name v).rename f := by
  unfold assignOrDeclareGlobal
  rw [assign?_rename hf, declareGlobal_rename hf]
  cases m.assign? name v <;> rfl

lemma store_rename (name : String) (v : Value) :
    (m.rename f).store (f name) v = (m.store name v).rename f := by
  unfold store
  rw [lookup_rename hf]
  cases m.lookup name with
  | none => exact assignOrDeclareGlobal_rename hf name v
  | some old => exact assignOrDeclareGlobal_rename hf name _

end Memory

end Imperative
