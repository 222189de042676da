import Imperative.Problem
import Imperative.Program.Node

/-!
The constructs of a program with the lines that they stand on, and which of them a problem or a
fault can be laid to.

Some constructs are no nodes of their own: the names of a declaration and the parameters of a
function have lines, and so has the body of a function.
-/

namespace Imperative

/-- What stands on a line, as far as a report says. -/
inductive Construct
  | literal (text : String)
  | read (name : String)
  | operation (op : Operator)
  | call (name : String)
  | init (name : String)
  | assign (name : String)
  | fn (name : String)
  | param (name : String)
  | body (function : String)
  | ret
  | brk
  | cont
  | print
  /-- A statement of the program itself, of whatever kind. -/
  | outermost
  deriving DecidableEq, Repr

/-- The constructs at the node, each with its line. -/
def Node.constructs : Node → List (Construct × Nat)
  | program p => p.map fun s => (.outermost, s.line)
  | expr (.lit l) => [(.literal l.text, l.line)]
  | expr (.var name line) => [(.read name, line)]
  | expr (.bin op _ _ line) => [(.operation op, line)]
  | expr (.call name _ line) => [(.call name, line)]
  | stmt (.decl _ is _) => is.map fun i => (.init i.name, i.line)
  | stmt (.assign name _ line) => [(.assign name, line)]
  | stmt (.fn h _) =>
    (.fn h.name, h.line) :: (.body h.name, h.bodyLine) ::
      h.params.map fun q => (.param q.name, q.line)
  | stmt (.ret _ line) => [(.ret, line)]
  | stmt (.brk line) => [(.brk, line)]
  | stmt (.cont line) => [(.cont, line)]
  | stmt (.print _ line) => [(.print, line)]
  | stmt _ => []

/-- The construct stands on the line, at some node of the program. -/
def Construct.Stands (p : Program) (line : Nat) (c : Construct) : Prop :=
  ∃ n ∈ (Node.program p).walk, (c, line) ∈ n.constructs

/-- The problem can be laid to the construct. -/
def Problem.blames : Problem → Construct → Bool
  | illegalOperation _ symbol _, .operation op => op.symbol = symbol
  | typeMismatch .., .init _ | typeMismatch .., .assign _ => true
  | precisionLoss .., .init _ | precisionLoss .., .assign _ => true
  | duplicateDeclaration name, .init x | duplicateDeclaration name, .param x
  | duplicateDeclaration name, .fn x => x = name
  | functionNameShadowed name, .init x | functionNameShadowed name, .param x => x = name
  | undeclaredName name _, .read x | undeclaredName name _, .assign x => x = name
  | functionUsedAsVariable name, .read x | functionUsedAsVariable name, .assign x => x = name
  | undefinedFunction name, .call x | notAFunction name, .call x | arity name _ _, .call x
  | argumentType name _ _ _, .call x => x = name
  | returnOutsideFunction, .ret | returnTypeMismatch .., .ret => true
  | missingReturn name _, .body x => x = name
  | breakOutsideLoop, .brk | continueOutsideLoop, .cont => true
  | _, _ => false

/-- The fault can be laid to the construct. -/
def Fault.blames : Fault → Construct → Bool
  | invalidLiteral text, .literal s => s = text
  | undefinedVariable name, .read x => x = name
  | undefinedFunction name, .call x | missingReturnValue name, .call x => x = name
  | divisionByZero, .operation op => op = .div || op = .mod
  | invalidShift _, .operation op => op = .shiftLeft || op = .shiftRight
  | repetitionTooLarge _, .operation op => op = .mul
  | illegalOperation _ symbol _, .operation op => op.symbol = symbol
  | signalEscaped _, .call _ | signalEscaped _, .outermost => true
  | output _, .print => true
  | _, _ => false

end Imperative
