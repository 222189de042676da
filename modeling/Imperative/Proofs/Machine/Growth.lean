import Imperative.Proofs.Machine.Discipline

/-!
What a run never loses: the names of global variables and the names of functions.
-/

namespace Imperative

/-- Every global variable and every function of the first machine has its name in the second. -/
structure Machine.Grows (m m' : Machine) : Prop where
  globals : ∀ name, m.memory.base.contains name = true → m'.memory.base.contains name = true
  functions : ∀ name, m.functions.contains name = true → m'.functions.contains name = true

namespace Machine.Grows

variable {m m' m'' : Machine}

lemma refl (m : Machine) : m.Grows m := ⟨fun _ h => h, fun _ h => h⟩

lemma trans (h : m.Grows m') (h' : m'.Grows m'') : m.Grows m'' :=
  ⟨fun x hx => h'.globals x (h.globals x hx), fun x hx => h'.functions x (h.functions x hx)⟩

lemma enter (m : Machine) (f : Frame) : m.Grows (m.enter f) := ⟨fun _ h => h, fun _ h => h⟩

lemma leave (m : Machine) : m.Grows m.leave := ⟨fun _ h => h, fun _ h => h⟩

lemma print (m : Machine) (s : Sink) : m.Grows { m with sink := s } :=
  ⟨fun _ h => h, fun _ h => h⟩

lemma insert_contains {α : Type} (b : Bindings α) (name other : String) (a : α)
    (h : b.contains other = true) : (b.insert name a).contains other = true := by
  unfold Bindings.contains at h ⊢
  rw [Bindings.get?_insert]
  split
  · rfl
  · exact h

lemma declareGlobal_contains (m : Memory) (name other : String) (v : Value)
    (h : m.base.contains other = true) : (m.declareGlobal name v).base.contains other = true :=
  insert_contains m.base.values name other v h

lemma declare (m : Machine) (name : String) (v : Value) :
    m.Grows { m with memory := m.memory.declare name v } := by
  refine ⟨fun x hx => ?_, fun _ h => h⟩
  unfold Memory.declare
  split
  · exact declareGlobal_contains m.memory name x v hx
  · exact hx

lemma assignOrDeclareGlobal (m : Memory) (name other : String) (v : Value)
    (h : m.base.contains other = true) :
    (m.assignOrDeclareGlobal name v).base.contains other = true := by
  unfold Memory.assignOrDeclareGlobal Memory.assign?
  split
  · exact h
  · split <;> exact declareGlobal_contains m name other v h

lemma store (m : Machine) (name : String) (v : Value) :
    m.Grows { m with memory := m.memory.store name v } := by
  refine ⟨fun x hx => ?_, fun _ h => h⟩
  unfold Memory.store
  split <;> exact assignOrDeclareGlobal m.memory name x _ hx

lemma define (m : Machine) (name : String) (d : FnDecl) :
    m.Grows { m with functions := m.functions.insert name d } :=
  ⟨fun _ h => h, fun x hx => insert_contains m.functions name x d hx⟩

end Machine.Grows

/-- Names may be added, whatever the extent. -/
def growth : Change where
  Rel _ := Machine.Grows
  refl _ := Machine.Grows.refl
  trans := Machine.Grows.trans
  mono_nothing h := h
  mono_values h := h
  call h vs _ m' hm := ((Machine.Grows.enter _ (callFrame h vs)).trans hm).trans (.leave m')
  scope name _ m' hm := ((Machine.Grows.enter _ (.block name)).trans hm).trans (.leave m')
  declare := Machine.Grows.declare
  store := Machine.Grows.store
  define := Machine.Grows.define
  print := Machine.Grows.print

/-- **Global variables and functions stay.** -/
theorem growsAt (n : Nat) : growth.discipline.KeptAt n := growth.discipline.keptAt n

end Imperative
