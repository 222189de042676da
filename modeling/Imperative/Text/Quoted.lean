import Imperative.Text.Unprintable
import Imperative.Text.ExtendingMark
import Imperative.Text.Ignorable

/-!
A text between double quotes, as reports show names.

A quote and a backslash are escaped by a backslash; so are the tab, the line ends and the null
character, which get a letter. Any other character that a reader could not tell by sight is written
as its code point in braces. Everything else stands for itself, the apostrophe included.
-/

namespace Imperative.Text

/-- The character would be lost on the page, or be taken for a part of the one before it. -/
def isHidden (c : Char) : Bool := isUnprintable c || isExtendingMark c || isIgnorable c

/-- The code point in hexadecimal, in braces after a backslash and a `u`. -/
def byNumber (c : Char) : List Char :=
  '\\' :: 'u' :: '\x7b' :: Nat.toDigits 16 c.toNat ++ ['\x7d']

def escaped (c : Char) : List Char :=
  match c with
  | '"' => ['\\', '"']
  | '\\' => ['\\', '\\']
  | '\n' => ['\\', 'n']
  | '\r' => ['\\', 'r']
  | '\t' => ['\\', 't']
  | '\x00' => ['\\', '0']
  | c => if isHidden c then byNumber c else [c]

def quoted (s : String) : String :=
  String.ofList ('"' :: s.toList.flatMap escaped ++ ['"'])

end Imperative.Text
