/-!
The lines of a source text, counted from one.

A line feed ends a line, and one carriage return directly before it belongs to that end. The text
after the last line feed is a line of its own unless it is empty, and it keeps a carriage return.
-/

namespace Imperative.Text

/-- A line feed ends a line; what follows the last one comes second. -/
def splitLines : List Char → List (List Char) × List Char
  | [] => ([], [])
  | c :: rest =>
    match splitLines rest with
    | (lines, tail) =>
      if c = '\n' then ([] :: lines, tail)
      else match lines with
        | [] => ([], c :: tail)
        | line :: lines => ((c :: line) :: lines, tail)

/-- One carriage return at the end is dropped. -/
def dropReturn (line : List Char) : List Char :=
  if line.getLast? = some '\r' then line.dropLast else line

def lines (source : List Char) : List (List Char) :=
  match splitLines source with
  | (ended, tail) => ended.map dropReturn ++ if tail = [] then [] else [tail]

/-- The text of a line; line zero and lines past the end have none. -/
def sourceLine (source : String) : Nat → Option String
  | 0 => none
  | n + 1 => (lines source.toList)[n]?.map String.ofList

end Imperative.Text
