import Imperative.Position
import Imperative.Fault
import Imperative.Program.Ty

/-!
What is found wrong with a program before it runs: the problem, its wording, and the position it is
reported at. Storing a float in an int is only a warning; every other problem is an error.
-/

namespace Imperative

inductive Severity
  | error
  | warning
  deriving DecidableEq, Repr

def Severity.name : Severity → String
  | error => "Error"
  | warning => "Warning"

inductive Problem
  | illegalOperation (left : Ty) (operator : String) (right : Ty)
  | typeMismatch (expected received : Ty)
  | precisionLoss (declared assigned : Ty)
  | duplicateDeclaration (name : String)
  /-- A variable takes the name of a global function. -/
  | functionNameShadowed (name : String)
  | undeclaredName (name : String) (inGlobalScope : Bool)
  | functionUsedAsVariable (name : String)
  | undefinedFunction (name : String)
  | notAFunction (name : String)
  | arity (function : String) (expected received : Nat)
  /-- Arguments are counted from one. -/
  | argumentType (function : String) (index : Nat) (expected received : Ty)
  | returnOutsideFunction
  | returnTypeMismatch (function : String) (expected received : Ty)
  | missingReturn (function : String) (returnType : Ty)
  | breakOutsideLoop
  | continueOutsideLoop
  deriving DecidableEq, Repr

namespace Problem

def severity : Problem → Severity
  | precisionLoss .. => .warning
  | _ => .error

def name : Problem → String
  | illegalOperation .. => "IllegalOperationError"
  | typeMismatch .. => "TypeMismatchError"
  | precisionLoss .. => "PrecisionLossWarning"
  | duplicateDeclaration _ => "DuplicateDeclarationError"
  | functionNameShadowed _ => "FunctionNameShadowedError"
  | undeclaredName .. => "UndeclaredNameError"
  | functionUsedAsVariable _ => "FunctionUsedAsVariableError"
  | undefinedFunction _ => "UndefinedFunctionError"
  | notAFunction _ => "NotAFunctionError"
  | arity .. => "ArityError"
  | argumentType .. => "ArgumentTypeError"
  | returnOutsideFunction => "ReturnOutsideFunctionError"
  | returnTypeMismatch .. => "ReturnTypeMismatchError"
  | missingReturn .. => "MissingReturnError"
  | breakOutsideLoop => "BreakOutsideLoopError"
  | continueOutsideLoop => "ContinueOutsideLoopError"

def message : Problem → String
  | illegalOperation left operator right =>
    s!"illegal operation, {left.name} {operator} {right.name}"
  | typeMismatch expected received => s!"assignment of {received.name} to {expected.name}"
  | precisionLoss declared assigned =>
    s!"assignment of {assigned.name} to {declared.name}, possible loss of accuracy"
  | duplicateDeclaration name => s!"variable {Text.quoted name} already declared"
  | functionNameShadowed name => s!"function identifier {Text.quoted name} used as a variable"
  | undeclaredName name _ => s!"usage of undeclared name {Text.quoted name}"
  | functionUsedAsVariable name => s!"function identifier {Text.quoted name} read as a variable"
  | undefinedFunction name => s!"call of undefined function {Text.quoted name}"
  | notAFunction name => s!"variable identifier {Text.quoted name} used as function call"
  | arity function expected received =>
    s!"improper number of args in {Text.quoted function} call: " ++
      s!"expected {Decimal.natText expected}, received {Decimal.natText received}"
  | argumentType function index expected received =>
    s!"improper type of argument {Decimal.natText index} in {Text.quoted function} call: " ++
      s!"expected {expected.name}, received {received.name}"
  | returnOutsideFunction => "return instruction outside a function"
  | returnTypeMismatch function expected received =>
    s!"improper returned type in {Text.quoted function}, " ++
      s!"expected {expected.name} got {received.name}"
  | missingReturn function returnType =>
    s!"missing return statement in function {Text.quoted function} returning {returnType.name}"
  | breakOutsideLoop => "break instruction outside a loop"
  | continueOutsideLoop => "continue instruction outside a loop"

def tip? : Problem → Option String
  | illegalOperation .. | returnOutsideFunction => none
  | typeMismatch expected received =>
    some s!"Cannot assign `{received.name}` to a variable of type `{expected.name}`"
  | precisionLoss .. => some "The fractional part is dropped when the value is stored"
  | duplicateDeclaration name => some s!"`{name}` is already declared in this scope"
  | functionNameShadowed name =>
    some s!"`{name}` names a function and cannot be reused as a variable"
  | undeclaredName name true => some s!"Usage of undeclared variable `{name}`"
  | undeclaredName name false => some s!"Variable `{name}` undefined in current scope"
  | functionUsedAsVariable _ => some "Did you mean to call it?"
  | undefinedFunction name => some s!"Function `{name}` must be defined before it is called"
  | notAFunction name => some s!"`{name}` is a variable"
  | arity _ expected received =>
    some s!"Expected {Decimal.natText expected} arguments, received {Decimal.natText received}"
  | argumentType _ _ expected received =>
    some s!"Expected argument type `{expected.name}`, received `{received.name}`"
  | returnTypeMismatch _ expected received =>
    some s!"Expected `{expected.name}`, got `{received.name}`"
  | missingReturn function _ => some s!"Add a return statement to `{function}`"
  | breakOutsideLoop | continueOutsideLoop => some "Only valid inside `while` or `repeat`"

def isError (p : Problem) : Bool := p.severity = .error

end Problem

structure Diagnostic where
  problem : Problem
  position : Position
  deriving DecidableEq, Repr

namespace Diagnostic

def severity (d : Diagnostic) : Severity := d.problem.severity

def isError (d : Diagnostic) : Bool := d.problem.isError

def message (d : Diagnostic) : String :=
  s!"{d.severity.name}: {d.problem.message}: line {Decimal.natText d.position.line}"

end Diagnostic

end Imperative
