import Imperative.Bindings
import Imperative.Value.Basic

/-!
Frames: the variables of one scope of a run.
-/

namespace Imperative

inductive FrameKind
  | global
  /-- Opened by a call. A name that is missing here is looked for in the global frame alone. -/
  | call
  /-- Opened by a block or by one round of a loop. -/
  | block
  deriving DecidableEq, Repr

structure Frame where
  name : String
  kind : FrameKind
  values : Bindings Value
  deriving Repr

namespace Frame

def opened (name : String) (kind : FrameKind) : Frame := ⟨name, kind, .empty⟩

def global : Frame := opened "global" .global

def call (function : String) : Frame := opened function .call

def block (name : String) : Frame := opened name .block

def get? (f : Frame) (name : String) : Option Value := f.values.get? name

def contains (f : Frame) (name : String) : Bool := f.values.contains name

def declare (f : Frame) (name : String) (v : Value) : Frame :=
  { f with values := f.values.insert name v }

theorem get?_declare (f : Frame) (name other : String) (v : Value) :
    (f.declare name v).get? other = if name = other then some v else f.get? other :=
  f.values.get?_insert name other v

end Frame

end Imperative
