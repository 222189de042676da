import Imperative.Problem
import Imperative.Text.Blank
import Imperative.Text.Lines

/-!
Reports of several lines, for people to read.

A diagnostic is followed by its file and, when the source has the line, by the text of that line
without the blanks around it, behind a bar that leaves room for the line number. A run-time error
is followed by its file and line and by its message.
-/

namespace Imperative

/-- The first line of a report, with the tip in brackets if there is one. -/
def heading (label name : String) : Option String → String
  | none => s!"{label}: {name}"
  | some tip => s!"{label}: {name} ({tip})"

/-- A bar one column to the right of a line number and a space. -/
def bar (number : String) : String :=
  String.ofList (List.replicate (number.length + 1) ' ' ++ ['|'])

def Diagnostic.excerpt (d : Diagnostic) (source : String) : List String :=
  match Text.sourceLine source d.position.line with
  | some line => [s!"{Decimal.natText d.position.line} | {Text.trim line}"]
  | none => []

def Diagnostic.render (d : Diagnostic) (source : String) : String :=
  "\n".intercalate
    (heading d.severity.name d.problem.name d.problem.tip? :: s!"-> {d.position.file}" ::
      bar (Decimal.natText d.position.line) :: d.excerpt source)

def RuntimeError.render (e : RuntimeError) : String :=
  "\n".intercalate
    [heading Severity.error.name e.fault.name e.fault.tip?,
     s!"-> {e.position.file}:{Decimal.natText e.position.line}",
     s!"   {e.message}"]

/-- A report as it is printed, with the end of its last line. -/
def printed (report : String) : String := report ++ "\n"

end Imperative
