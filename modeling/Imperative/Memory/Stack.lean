import Imperative.Memory.Frame

/-!
The frames of a run.

The global frame is at the bottom and stays there. A name is looked for from the innermost frame
outward, up to and including the frame of the innermost call, and then in the global frame.
Assignment writes the binding that reading finds.
-/

namespace Imperative

structure Memory where
  /-- The frames above the global one, the innermost first. -/
  inner : List Frame
  base : Frame
  deriving Repr

namespace Memory

def initial : Memory := ⟨[], .global⟩

def depth (m : Memory) : Nat := m.inner.length + 1

/-- All frames, the innermost first. -/
def frames (m : Memory) : List Frame := m.inner ++ [m.base]

def current (m : Memory) : Frame := m.inner.headD m.base

def push (m : Memory) (f : Frame) : Memory := { m with inner := f :: m.inner }

/-- The innermost frame and the memory without it; the global frame is never given up. -/
def pop? (m : Memory) : Option (Frame × Memory) :=
  match m.inner with
  | [] => none
  | f :: rest => some (f, { m with inner := rest })

def pop (m : Memory) : Memory := { m with inner := m.inner.tail }

/-- The value that some frames above the frame `base` give to a name. -/
def lookupFrom (base : Frame) (name : String) : List Frame → Option Value
  | [] => base.get? name
  | f :: rest =>
    match f.get? name with
    | some v => some v
    | none => if f.kind = .call then base.get? name else lookupFrom base name rest

def lookup (m : Memory) (name : String) : Option Value := lookupFrom m.base name m.inner

/-- The frames above the global one after a write, if one of them has the binding to be written. -/
def writeInner (name : String) (v : Value) : List Frame → Option (List Frame)
  | [] => none
  | f :: rest =>
    if f.contains name then some (f.declare name v :: rest)
    else if f.kind = .call then none
    else (writeInner name v rest).map (f :: ·)

/-- Binds a name in the innermost frame. -/
def declare (m : Memory) (name : String) (v : Value) : Memory :=
  match m.inner with
  | [] => { m with base := m.base.declare name v }
  | f :: rest => { m with inner := f.declare name v :: rest }

def declareGlobal (m : Memory) (name : String) (v : Value) : Memory :=
  { m with base := m.base.declare name v }

/-- Writes the binding that `lookup` finds, if there is one. -/
def assign? (m : Memory) (name : String) (v : Value) : Option Memory :=
  match writeInner name v m.inner with
  | some inner => some { m with inner := inner }
  | none => if m.base.contains name then some (m.declareGlobal name v) else none

/-- Writes the binding that `lookup` finds; a name without one becomes a global variable. -/
def assignOrDeclareGlobal (m : Memory) (name : String) (v : Value) : Memory :=
  (m.assign? name v).getD (m.declareGlobal name v)

/-- How many frames there are above the one that a name resolves to. -/
def locateFrom (base : Frame) (name : String) : List Frame → Option Nat
  | [] => if base.contains name then some 0 else none
  | f :: rest =>
    if f.contains name then some 0
    else if f.kind = .call then (if base.contains name then some (rest.length + 1) else none)
    else (locateFrom base name rest).map (· + 1)

def locate (m : Memory) (name : String) : Option Nat := locateFrom m.base name m.inner

/-- Binds a name in the frame that has so many frames above it. -/
def declareAt (m : Memory) (above : Nat) (name : String) (v : Value) : Memory :=
  { inner := m.inner.modify above fun f => f.declare name v
    base := if above = m.inner.length then m.base.declare name v else m.base }

/-- A binding that is there to be read and to be overwritten. -/
structure Slot where
  value : Value
  /-- The memory once another value is there. -/
  put : Value → Memory

/-- The binding that a name resolves to. -/
def slot? (m : Memory) (name : String) : Option Slot := do
  let above ← m.locate name
  let f ← m.frames[above]?
  let v ← f.get? name
  return ⟨v, m.declareAt above name⟩

@[simp] theorem frames_push (m : Memory) (f : Frame) : (m.push f).frames = f :: m.frames := rfl

@[simp] theorem pop_push (m : Memory) (f : Frame) : (m.push f).pop = m := rfl

theorem lookup_push (m : Memory) (f : Frame) (name : String) :
    (m.push f).lookup name =
      match f.get? name with
      | some v => some v
      | none => if f.kind = .call then m.base.get? name else m.lookup name := rfl

theorem lookup_declare (m : Memory) (name other : String) (v : Value) :
    (m.declare name v).lookup other = if name = other then some v else m.lookup other := by
  rcases m with ⟨_ | ⟨f, rest⟩, base⟩
  · exact base.get?_declare name other v
  · by_cases h : name = other
    · subst h
      simp [declare, lookup, lookupFrom, Frame.get?_declare]
    · simp [declare, lookup, lookupFrom, Frame.get?_declare, h]
      rfl

end Memory

end Imperative
