/-!
Text from bytes that may have been cut off in the middle of a character.
-/

namespace Imperative.Text

/-- The bytes without the last few, at most `n`, that keep them from being text, and whether any
had to go. -/
def wholeText (bytes : ByteArray) : Nat → Option (String × Bool)
  | 0 => (String.fromUTF8? bytes).map fun s => (s, false)
  | n + 1 =>
    match String.fromUTF8? bytes with
    | some s => some (s, false)
    | none => (wholeText (bytes.extract 0 (bytes.size - 1)) n).map fun r => (r.1, true)

/-- The text of bytes that end anywhere in a text. A character that has lost its end, of which at
most three bytes are left, is shown as U+FFFD. -/
def ofCut (bytes : ByteArray) : String :=
  match wholeText bytes 3 with
  | some (s, true) => s ++ "\uFFFD"
  | some (s, false) => s
  | none => ""

end Imperative.Text
