import Imperative.Scope.Basic

/-!
The chain of scopes around the place that is being checked.

The global scope is at the bottom and stays there. A name means what the innermost scope that holds
it says. No variable takes the name of a global function, at any depth.
-/

namespace Imperative

structure SymbolTable where
  /-- The scopes inside the global one, the innermost first. -/
  inner : List Scope
  base : Scope
  deriving DecidableEq, Repr

namespace SymbolTable

def initial : SymbolTable := ⟨[], .opened .global⟩

/-- All scopes, the innermost first. -/
def scopes (t : SymbolTable) : List Scope := t.inner ++ [t.base]

def depth (t : SymbolTable) : Nat := t.inner.length + 1

def current (t : SymbolTable) : Scope := t.inner.headD t.base

def isGlobal (t : SymbolTable) : Bool := t.inner.isEmpty

def push (t : SymbolTable) (label : ScopeLabel) : SymbolTable :=
  { t with inner := .opened label :: t.inner }

/-- The innermost scope and the table without it; the global scope is never given up. -/
def pop? (t : SymbolTable) : Option (Scope × SymbolTable) :=
  match t.inner with
  | [] => none
  | s :: rest => some (s, { t with inner := rest })

def pop (t : SymbolTable) : SymbolTable := { t with inner := t.inner.tail }

def setCurrent (t : SymbolTable) (s : Scope) : SymbolTable :=
  match t.inner with
  | [] => { t with base := s }
  | _ :: rest => { t with inner := s :: rest }

/-- A variable would hide a global function of the same name. -/
def shadowsFunction (t : SymbolTable) (name : String) : Symbol → Bool
  | .var _ => (t.base.signature? name).isSome
  | .fn _ => false

/-- Adds a name to the innermost scope, which must not hold it yet. -/
def declare (t : SymbolTable) (name : String) (symbol : Symbol) : Except SymbolError SymbolTable :=
  if t.shadowsFunction name symbol then .error (.functionNameShadowed name)
  else if t.current.contains name then .error (.duplicateDeclaration name)
  else .ok (t.setCurrent (t.current.insert name symbol))

def resolve? (t : SymbolTable) (name : String) : Option Symbol :=
  t.scopes.findSome? fun s => s.get? name

def resolve (t : SymbolTable) (name : String) : Except SymbolError Symbol :=
  match t.resolve? name with
  | some symbol => .ok symbol
  | none => .error (.undeclaredName name)

/-- The signature of the nearest function of this name; variables of the name are passed over. -/
def signature? (t : SymbolTable) (name : String) : Option Signature :=
  t.scopes.findSome? fun s => s.signature? name

/-- Notes a return in the innermost of the scopes that has a function of this name. -/
def markFirst (name : String) : List Scope → List Scope
  | [] => []
  | s :: rest =>
    if (s.signature? name).isSome then s.markReturned name :: rest else s :: markFirst name rest

/-- Notes that a return of the nearest function of this name has been seen. -/
def markReturned (t : SymbolTable) (name : String) : SymbolTable :=
  if t.inner.any fun s => (s.signature? name).isSome then
    { t with inner := markFirst name t.inner }
  else { t with base := t.base.markReturned name }

/-- The innermost function whose body is being checked. -/
def enclosingFunction? (t : SymbolTable) : Option String := t.scopes.findSome? Scope.function?

/-- A loop is met before a function, going outward. -/
def loopFirst : List Scope → Bool
  | [] => false
  | s :: rest =>
    match s.label with
    | .loop => true
    | .function _ => false
    | .global | .block => loopFirst rest

/-- The current place is inside a loop of its own function. -/
def inLoop (t : SymbolTable) : Bool := loopFirst t.scopes

@[simp] theorem scopes_push (t : SymbolTable) (label : ScopeLabel) :
    (t.push label).scopes = .opened label :: t.scopes := rfl

@[simp] theorem pop_push (t : SymbolTable) (label : ScopeLabel) : (t.push label).pop = t := rfl

theorem resolve?_setCurrent (t : SymbolTable) (name other : String) (symbol : Symbol) :
    (t.setCurrent (t.current.insert name symbol)).resolve? other =
      if name = other then some symbol else t.resolve? other := by
  rcases t with ⟨_ | ⟨s, rest⟩, base⟩ <;> by_cases h : name = other
  · subst h
    simp [setCurrent, current, resolve?, scopes, Scope.get?_insert]
  · simp [setCurrent, current, resolve?, scopes, Scope.get?_insert, h]
  · subst h
    simp [setCurrent, current, resolve?, scopes, Scope.get?_insert]
  · simp [setCurrent, current, resolve?, scopes, List.findSome?_cons, Scope.get?_insert, h]

end SymbolTable

end Imperative
