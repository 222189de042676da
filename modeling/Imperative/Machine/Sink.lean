import Imperative.Text.Utf8

/-!
Where a run prints to: bytes, as many as a limit allows.
-/

namespace Imperative

structure Sink where
  /-- The most bytes that are accepted; nothing limits a sink without one. -/
  limit : Option Nat
  /-- What the sink says when it does not accept everything. -/
  refusal : String
  bytes : ByteArray

namespace Sink

def unlimited : Sink := ⟨none, "", .empty⟩

/-- The same bytes under a limit, with what is said at the limit. -/
def bounded (s : Sink) (limit : Nat) (refusal : String) : Sink :=
  { s with limit := some limit, refusal := refusal }

/-- An empty sink under a limit. -/
def limited (limit : Nat) : Sink := unlimited.bounded limit "sink full"

/-- How many of some bytes are still accepted. -/
def accepts (s : Sink) (size : Nat) : Nat :=
  match s.limit with
  | none => size
  | some limit => min size (limit - s.bytes.size)

/-- Takes in as much of a text as it accepts; the second part says whether that was all. -/
def write (s : Sink) (text : String) : Sink × Bool :=
  let new := text.toUTF8
  let n := s.accepts new.size
  ({ s with bytes := s.bytes ++ new.extract 0 n }, n == new.size)

/-- What was printed after the first `start` bytes. -/
def textFrom (s : Sink) (start : Nat) : String :=
  Text.ofCut (s.bytes.extract start s.bytes.size)

def text (s : Sink) : String := s.textFrom 0

end Sink

end Imperative
