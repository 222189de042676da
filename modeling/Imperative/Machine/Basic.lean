import Imperative.Machine.Sink
import Imperative.Memory.Stack
import Imperative.Program.Tree

/-!
The state of a run, and computations on it that can fail or run out of fuel.

A failure keeps the state that it left behind, so that what was printed before it is not lost.
-/

namespace Imperative

structure Machine where
  memory : Memory
  /-- The functions defined so far, wherever their definitions stand. -/
  functions : Bindings FnDecl
  sink : Sink
  file : String

def Machine.initial (file : String) (sink : Sink) : Machine := ⟨.initial, .empty, sink, file⟩

/-- How a statement ended. A break or a continue goes to the nearest loop and a return to the
nearest call; all else ends normally. -/
inductive Signal
  | normal
  | brk
  | cont
  | ret (value : Value)
  deriving Repr

namespace Signal

def isNormal : Signal → Bool
  | normal => true
  | _ => false

def text : Signal → String
  | normal => "normal completion"
  | brk => "break"
  | cont => "continue"
  | ret _ => "return"

end Signal

/-- What a computation comes to. -/
inductive Outcome (α : Type)
  | done (result : α) (machine : Machine)
  | failed (error : RuntimeError) (machine : Machine)
  | outOfFuel

/-- A computation that may change the machine. -/
def Exec (α : Type) : Type := Machine → Outcome α

namespace Exec

variable {α β : Type}

def run (x : Exec α) (m : Machine) : Outcome α := x m

@[always_inline, inline] def ret (a : α) : Exec α := fun m => .done a m

@[always_inline, inline] def andThen (x : Exec α) (next : α → Exec β) : Exec β := fun m =>
  match x m with
  | .done a m => next a m
  | .failed e m => .failed e m
  | .outOfFuel => .outOfFuel

@[always_inline] instance : Monad Exec where
  pure := ret
  bind := andThen

@[simp] theorem run_pure (a : α) (m : Machine) : (pure a : Exec α).run m = .done a m := rfl

theorem run_bind (x : Exec α) (next : α → Exec β) (m : Machine) :
    (x >>= next).run m = match x.run m with
      | .done a m => (next a).run m
      | .failed e m => .failed e m
      | .outOfFuel => .outOfFuel := rfl

theorem id_map_run (x : Exec α) (m : Machine) : (id <$> x).run m = x.run m := by
  show (x >>= pure).run m = x.run m
  rw [run_bind]
  split <;> simp_all

theorem bind_assoc_run {γ : Type} (x : Exec α) (f : α → Exec β) (g : β → Exec γ) (m : Machine) :
    (x >>= f >>= g).run m = (x >>= fun a => f a >>= g).run m := by
  simp only [run_bind]
  cases x.run m <;> rfl

instance : LawfulMonad Exec :=
  LawfulMonad.mk' Exec (fun x => funext (id_map_run x)) (fun _ _ => rfl)
    fun x f g => funext (bind_assoc_run x f g)

@[always_inline, inline] def outOfFuel : Exec α := fun _ => .outOfFuel

@[always_inline, inline] def machine : Exec Machine := fun m => .done m m

@[always_inline, inline] def change (f : Machine → Machine) : Exec Unit := fun m => .done () (f m)

@[always_inline, inline] def changeMemory (f : Memory → Memory) : Exec Unit := fun m =>
  .done () { m with memory := f m.memory }

/-- Stops with a fault at a line. -/
def raise (fault : Fault) (line : Nat) : Exec α := fun m => .failed ⟨fault, ⟨line, m.file⟩⟩ m

/-- A result, or the fault at a line. -/
def orRaise (line : Nat) : Except Fault α → Exec α
  | .ok a => ret a
  | .error fault => raise fault line

/-- Computes inside a frame, which is given up at the end, be it a failure. -/
@[always_inline, inline] def inFrame (f : Frame) (x : Exec α) : Exec α := fun m =>
  match x { m with memory := m.memory.push f } with
  | .done a m => .done a { m with memory := m.memory.pop }
  | .failed e m => .failed e { m with memory := m.memory.pop }
  | .outOfFuel => .outOfFuel

/-- Prints a text and the end of a line. -/
def print (text : String) (line : Nat) : Exec Unit := fun m =>
  match m.sink.write (text ++ "\n") with
  | (sink, true) => .done () { m with sink := sink }
  | (sink, false) => raise (.output sink.refusal) line { m with sink := sink }

end Exec

end Imperative
