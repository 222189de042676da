import Imperative.Proofs.Frames

/-!
Changes of the frames that a computation cannot tell.

Reading and writing a name cannot tell whether an empty frame of a block has been put between the
frames, and declaring a name can only if the frame is the current one. The name of a frame is told
by nothing.
-/

namespace Imperative

variable {α β : Type} {x y : Extent} {g : List Frame → List Frame}

namespace Memory

/-- A computation of the extent does with names what it does without the change. -/
structure Unseen (x : Extent) (g : List Frame → List Frame) : Prop where
  lookup : ∀ base name fs, lookupFrom base name (g fs) = lookupFrom base name fs
  write : ∀ name v fs, writeInner name v (g fs) = (writeInner name v fs).map g
  declare : x = .names → ∀ (m : Memory) name v,
    (m.reframe g).declare name v = (m.declare name v).reframe g

/-- The same change beneath the innermost frame. -/
def beneath (g : List Frame → List Frame) : List Frame → List Frame
  | [] => []
  | f :: fs => f :: g fs

/-- Gives the innermost frame another name. -/
def retitle (name : String) : List Frame → List Frame
  | [] => []
  | f :: fs => { f with name := name } :: fs

@[simp] lemma tail_retitle (name : String) (fs : List Frame) : (retitle name fs).tail = fs.tail := by
  cases fs <;> rfl

namespace Unseen

lemma mono (h : Unseen x g) (hxy : y = .names → x = .names) : Unseen y g :=
  ⟨h.lookup, h.write, fun hy => h.declare (hxy hy)⟩

lemma beneath (h : Unseen x g) : Unseen y (beneath g) := by
  refine ⟨fun base name fs => ?_, fun name v fs => ?_, fun _ m name v => ?_⟩
  · cases fs with
    | nil => rfl
    | cons f fs => simp only [Memory.beneath, lookupFrom, h.lookup]
  · cases fs with
    | nil => rfl
    | cons f fs =>
      simp only [Memory.beneath, writeInner, h.write]
      split
      · rfl
      · split
        · rfl
        · rw [Option.map_map, Option.map_map]
          rfl
  · rcases m with ⟨_ | ⟨f, fs⟩, base⟩ <;> rfl

lemma block (name : String) : Unseen .values (Frame.block name :: ·) :=
  ⟨fun _ _ _ => rfl, fun _ _ _ => rfl, nofun⟩

lemma retitle (name : String) : Unseen x (retitle name) := by
  refine ⟨fun _ _ fs => ?_, fun other v fs => ?_, fun _ m _ _ => ?_⟩
  · cases fs <;> rfl
  · cases fs with
    | nil => rfl
    | cons f fs =>
      have hcontains : Frame.contains { f with name := name } other = f.contains other := rfl
      simp only [Memory.retitle, writeInner, hcontains]
      split
      · rfl
      · split
        · rfl
        · rw [Option.map_map]
          rfl
  · rcases m with ⟨_ | ⟨f, fs⟩, base⟩ <;> rfl

lemma store (h : Unseen x g) (m : Memory) (name : String) (v : Value) :
    (m.reframe g).store name v = (m.store name v).reframe g :=
  store_reframe g (h.lookup m.base name m.inner) fun w => h.write name w m.inner

end Unseen

end Memory

def Machine.reframe (g : List Frame → List Frame) (m : Machine) : Machine :=
  { m with memory := m.memory.reframe g }

def Outcome.reframe (g : List Frame → List Frame) : Outcome α → Outcome α
  | done a m => done a (m.reframe g)
  | failed e m => failed e (m.reframe g)
  | outOfFuel => outOfFuel

open Memory (Unseen beneath retitle)

/-- There still are the frames that there were. -/
lemma Machine.Within.inner_ne_nil {m m' : Machine} (h : m.Within x m')
    (hm : m.memory.inner ≠ []) : m'.memory.inner ≠ [] := by
  have htitles := h.inner.confined.titles fun _ _ h => h.title
  intro hnil
  rw [hnil] at htitles
  exact hm (List.map_eq_nil_iff.1 htitles.symm)

lemma Machine.leave_reframe {m : Machine} (h : m.memory.inner ≠ []) :
    (m.reframe (beneath g)).leave = m.leave.reframe g := by
  rcases m with ⟨⟨_ | ⟨f, fs⟩, base⟩, functions, sink, file⟩
  · exact absurd rfl h
  · rfl

/-- The change is beneath the frame that is left. -/
lemma Outcome.leave_reframe {o : Outcome α} (h : ∀ m, o.machine? = some m → m.memory.inner ≠ []) :
    (o.reframe (beneath g)).leave = o.leave.reframe g := by
  cases o with
  | done a m => exact congrArg (done a) (Machine.leave_reframe (h m rfl))
  | failed e m => exact congrArg (failed e) (Machine.leave_reframe (h m rfl))
  | outOfFuel => rfl

namespace Exec

/-- The computation does the same after the change, which is still there when it has ended. -/
def BlindTo (g : List Frame → List Frame) (c : Exec α) : Prop :=
  ∀ m, c.run (m.reframe g) = (c.run m).reframe g

namespace BlindTo

lemma pure (a : α) : (Pure.pure a : Exec α).BlindTo g := fun _ => rfl

lemma bind {c : Exec α} {next : α → Exec β} (hc : c.BlindTo g) (hn : ∀ a, (next a).BlindTo g) :
    (c >>= next).BlindTo g := by
  intro m
  rw [run_bind, run_bind, hc m]
  cases c.run m with
  | done a m' => exact hn a m'
  | failed | outOfFuel => rfl

lemma find {o : Machine → Option α} (h : ∀ m, o (m.reframe g) = o m) (fault : Fault)
    (line : Nat) : (Exec.find o fault line).BlindTo g := by
  intro m
  rw [run_find, run_find, h m]
  cases o m <;> rfl

lemma changeMemory {f : Memory → Memory} (h : ∀ m : Memory, f (m.reframe g) = (f m).reframe g) :
    (Exec.changeMemory f).BlindTo g :=
  fun m => congrArg (fun s => Outcome.done () { m with memory := s }) (h m.memory)

lemma print (text : String) (line : Nat) : (Exec.print text line).BlindTo g := by
  intro m
  have hwrite : (m.reframe g).sink.write (text ++ "\n") = m.sink.write (text ++ "\n") := rfl
  rw [run_print hwrite, run_print rfl]
  split <;> rfl

end BlindTo

/-- Changes that are unseen by the extent make no difference to the computation. -/
structure Unaware (x : Extent) (c : Exec α) : Prop where
  /-- So the frames that are entered are still there to be left. -/
  within : confinement.Keeps x c
  blind : ∀ g, Unseen x g → c.BlindTo g

lemma Unaware.inFrame {f : Frame} {c : Exec α} (hc : c.Unaware .names) (hg : Unseen x g) :
    (Exec.inFrame f c).BlindTo g := by
  intro m
  have hrun : c.run ((m.reframe g).enter f) = (c.run (m.enter f)).reframe (beneath g) :=
    hc.blind _ hg.beneath (m.enter f)
  rw [run_inFrame, run_inFrame, hrun]
  exact Outcome.leave_reframe fun m' h => ((hc.within _).machine h).inner_ne_nil nofun

end Exec

open Exec

/-- The discipline that no such change is told. -/
def unawareness : Discipline where
  Keeps x _ c := c.Unaware x
  mono_nothing h := ⟨confinement.discipline.mono_nothing h.within,
    fun _ hg => h.blind _ (hg.mono nofun)⟩
  mono_values h := ⟨confinement.discipline.mono_values h.within,
    fun _ hg => h.blind _ (hg.mono nofun)⟩
  pure a := ⟨confinement.discipline.pure a, fun _ _ => .pure a⟩
  bind hc hn := ⟨hc.within.bind fun a => (hn a).within,
    fun g hg => (hc.blind g hg).bind fun a => (hn a).blind g hg⟩
  outOfFuel := ⟨confinement.discipline.outOfFuel, fun _ _ _ => rfl⟩
  raise fault line := ⟨confinement.discipline.raise fault line, fun _ _ _ => rfl⟩
  read name line := ⟨confinement.discipline.read name line, fun _ hg =>
    .find (fun m => hg.lookup m.memory.base name m.memory.inner) _ line⟩
  callee name line := ⟨confinement.discipline.callee name line, fun _ _ =>
    .find (fun _ => rfl) _ line⟩
  call h vs _ hc := ⟨confinement.discipline.call h vs hc.within, fun _ hg => hc.inFrame hg⟩
  scope name _ hc := ⟨confinement.discipline.scope name hc.within, fun _ hg => hc.inFrame hg⟩
  declare name v := ⟨confinement.discipline.declare name v, fun _ hg =>
    .changeMemory fun m => hg.declare rfl m name v⟩
  store name v := ⟨confinement.discipline.store name v, fun _ hg =>
    .changeMemory fun m => hg.store m name v⟩
  define h body := ⟨confinement.discipline.define h body, fun _ _ _ => rfl⟩
  print text line := ⟨confinement.discipline.print text line, fun _ _ => .print text line⟩

namespace Exec.Unaware

variable {c : Exec α}

/-- **A frame of a block makes no difference** to a computation that declares nothing in it. -/
theorem inFrame_block (h : c.Unaware .values) (name : String) :
    Exec.inFrame (.block name) c = c := by
  funext m
  have hrun : c.run (m.enter (.block name)) = (c.run m).reframe (Frame.block name :: ·) :=
    h.blind _ (.block name) m
  show (Exec.inFrame (.block name) c).run m = c.run m
  rw [run_inFrame, hrun]
  cases c.run m <;> rfl

/-- The name of the frame that a computation runs in makes no difference to it. -/
theorem inFrame_retitle (h : c.Unaware .names) (name name' : String) :
    Exec.inFrame (.block name') c = Exec.inFrame (.block name) c := by
  funext m
  have hrun : c.run (m.enter (.block name')) =
      (c.run (m.enter (.block name))).reframe (retitle name') :=
    h.blind _ (.retitle name') (m.enter (.block name))
  show (Exec.inFrame (.block name') c).run m = (Exec.inFrame (.block name) c).run m
  rw [run_inFrame, run_inFrame, hrun]
  cases c.run (m.enter (.block name)) with
  | done a m' | failed e m' =>
    simp [Outcome.reframe, Outcome.leave, Machine.reframe, Machine.leave, Memory.reframe,
      Memory.pop]
  | outOfFuel => rfl

end Exec.Unaware

end Imperative
