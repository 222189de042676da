import Imperative.Position
import Imperative.Text.Quoted
import Imperative.Decimal.Digits

/-!
What stops a run: the fault, its wording, and the position it is reported at.
-/

namespace Imperative

/-- The most bytes that repeating a string may give. -/
def maxRepeatedBytes : Nat := 1 <<< 24

inductive Fault
  | divisionByZero
  | invalidShift (amount : Int64)
  | undefinedVariable (name : String)
  | undefinedFunction (name : String)
  | illegalOperation (left operator right : String)
  | repetitionTooLarge (count : Int64)
  | invalidLiteral (text : String)
  | missingReturnValue (function : String)
  /-- A break, a continue or a return reached a place where nothing takes it. -/
  | signalEscaped (signal : String)
  | output (reason : String)
  deriving DecidableEq, Repr

namespace Fault

def name : Fault → String
  | divisionByZero => "DivisionByZero"
  | invalidShift _ => "InvalidShift"
  | undefinedVariable _ => "UndefinedVariable"
  | undefinedFunction _ => "UndefinedFunction"
  | illegalOperation .. => "IllegalOperation"
  | repetitionTooLarge _ => "RepetitionTooLarge"
  | invalidLiteral _ => "InvalidLiteral"
  | missingReturnValue _ => "MissingReturnValue"
  | signalEscaped _ => "SignalEscaped"
  | output _ => "Output"

def message : Fault → String
  | divisionByZero => "division by zero"
  | invalidShift amount => s!"invalid shift amount {Decimal.int64Text amount}"
  | undefinedVariable name => s!"variable {Text.quoted name} is not bound"
  | undefinedFunction name => s!"function {Text.quoted name} is not defined"
  | illegalOperation left operator right => s!"illegal operation, {left} {operator} {right}"
  | repetitionTooLarge count =>
    s!"string repeated {Decimal.int64Text count} times exceeds the maximum length"
  | invalidLiteral text => s!"invalid literal {Text.quoted text}"
  | missingReturnValue function =>
    s!"function {Text.quoted function} finished without returning a value"
  | signalEscaped signal => s!"{signal} escaped its enclosing construct"
  | output reason => s!"failed to write output: {reason}"

/-- Advice on the fault; the faults that a checked program should not meet share theirs. -/
def tip? : Fault → Option String
  | divisionByZero | output _ => none
  | invalidShift amount => some s!"Shift amount {Decimal.int64Text amount} is outside 0..64"
  | undefinedVariable _ | undefinedFunction _ | illegalOperation .. | signalEscaped _
  | missingReturnValue _ => some "Programs must pass the type checker before they are run"
  | repetitionTooLarge _ =>
    some s!"Repeated strings are limited to {Decimal.natText maxRepeatedBytes} bytes"
  | invalidLiteral text => some s!"`{text}` is not a valid constant"

end Fault

structure RuntimeError where
  fault : Fault
  position : Position
  deriving DecidableEq, Repr

def RuntimeError.message (e : RuntimeError) : String :=
  s!"Runtime error: {e.fault.message}: line {Decimal.natText e.position.line}"

end Imperative
