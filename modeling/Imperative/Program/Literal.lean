import Imperative.Text.DecimalDigit

/-!
Constants as they are written, and the classification of raw tokens.

A number is a run of decimal digits of any script, with a point before, after or within the run if
it is a float. A string is a quote, then characters other than line feeds, then a quote; a
backslash takes the character after it along, so a quote behind a backslash does not close.
-/

namespace Imperative

inductive LiteralKind
  | int
  | float
  | string
  deriving DecidableEq, Repr

/-- A constant with its text as written; a string keeps its quotes. -/
structure Literal where
  kind : LiteralKind
  text : String
  line : Nat
  deriving DecidableEq, Repr

namespace Token

open Text

def isWhole (cs : List Char) : Bool := !cs.isEmpty && cs.all isDecimalDigit

def isPointed (cs : List Char) : Bool :=
  match cs.dropWhile isDecimalDigit with
  | '.' :: rest => rest.all isDecimalDigit && !(cs.takeWhile isDecimalDigit ++ rest).isEmpty
  | _ => false

/-- What follows an opening quote runs up to one closing quote at the very end. -/
def closes : List Char → Bool
  | ['"'] => true
  | '\\' :: c :: rest => c != '\n' && closes rest
  | c :: rest => c != '\\' && c != '\n' && closes rest
  | [] => false

def isQuoted : List Char → Bool
  | '"' :: rest => closes rest
  | _ => false

end Token

/-- The kind of constant that a raw token is, if it is one. -/
def LiteralKind.ofToken? (cs : List Char) : Option LiteralKind :=
  if Token.isPointed cs then some .float
  else if Token.isWhole cs then some .int
  else if Token.isQuoted cs then some .string
  else none

def Literal.ofToken? (text : String) (line : Nat) : Option Literal :=
  (LiteralKind.ofToken? text.toList).map fun kind => ⟨kind, text, line⟩

end Imperative
