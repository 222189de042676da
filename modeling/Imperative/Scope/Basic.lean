import Imperative.Bindings
import Imperative.Program.Ty
import Imperative.Text.Quoted

/-!
Scopes of names that are known while a program is checked. Variables and functions share one space
of names.
-/

namespace Imperative

/-- What a scope belongs to. -/
inductive ScopeLabel
  | global
  | function (name : String)
  | loop
  | block
  deriving DecidableEq, Repr

def ScopeLabel.text : ScopeLabel → String
  | global => "global"
  | function name => s!"function:{name}"
  | loop => "loop"
  | block => "block"

structure Signature where
  returnType : Ty
  params : List Ty
  /-- A return statement of the function has been seen. -/
  hasReturned : Bool
  deriving DecidableEq, Repr

inductive Symbol
  | var (type : Ty)
  | fn (signature : Signature)
  deriving DecidableEq, Repr

structure Scope where
  label : ScopeLabel
  symbols : Bindings Symbol
  deriving DecidableEq, Repr

/-- Why a name could not be declared or found. -/
inductive SymbolError
  | duplicateDeclaration (name : String)
  | functionNameShadowed (name : String)
  | undeclaredName (name : String)
  deriving DecidableEq, Repr

namespace SymbolError

def name : SymbolError → String
  | duplicateDeclaration _ => "DuplicateDeclaration"
  | functionNameShadowed _ => "FunctionNameShadowed"
  | undeclaredName _ => "UndeclaredName"

def message : SymbolError → String
  | duplicateDeclaration name => s!"{Text.quoted name} already declared in this scope"
  | functionNameShadowed name => s!"{Text.quoted name} is a global function"
  | undeclaredName name => s!"{Text.quoted name} is not declared"

end SymbolError

namespace Scope

def opened (label : ScopeLabel) : Scope := ⟨label, .empty⟩

def get? (s : Scope) (name : String) : Option Symbol := s.symbols.get? name

def contains (s : Scope) (name : String) : Bool := s.symbols.contains name

def insert (s : Scope) (name : String) (symbol : Symbol) : Scope :=
  { s with symbols := s.symbols.insert name symbol }

def signature? (s : Scope) (name : String) : Option Signature :=
  match s.get? name with
  | some (.fn signature) => some signature
  | _ => none

/-- Notes that a return of the function has been seen; a name of anything else stays as it is. -/
def markReturned (s : Scope) (name : String) : Scope :=
  match s.signature? name with
  | some signature => s.insert name (.fn { signature with hasReturned := true })
  | none => s

/-- The function whose parameters and body the scope holds. -/
def function? (s : Scope) : Option String :=
  match s.label with
  | .function name => some name
  | _ => none

theorem get?_insert (s : Scope) (name other : String) (symbol : Symbol) :
    (s.insert name symbol).get? other = if name = other then some symbol else s.get? other :=
  s.symbols.get?_insert name other symbol

end Scope

end Imperative
