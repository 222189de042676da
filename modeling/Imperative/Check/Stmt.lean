import Imperative.Check.Expr

/-!
What is wrong with statements, and the names they leave behind.

A variable is known from the end of its own initial value on, a function already in its own body.
Loops, blocks and functions open a scope; the parameters of a function share the scope of its body.
The body of a function whose name is refused is not looked at. A return counts for the nearest
function that has the name of the enclosing one, and a function without a return is reported at its
body.
-/

namespace Imperative

/-- The table of symbols after a check, and what the check found, in order. -/
structure Checked where
  symbols : SymbolTable
  findings : List Finding
  deriving DecidableEq, Repr

def Checked.andThen (c : Checked) (next : SymbolTable → Checked) : Checked :=
  let d := next c.symbols
  ⟨d.symbols, c.findings ++ d.findings⟩

namespace Check

def declare (name : String) (symbol : Symbol) (line : Nat) (t : SymbolTable) : Checked :=
  match t.declare name symbol with
  | .ok t => ⟨t, []⟩
  | .error e => ⟨t, [⟨e.problem t.isGlobal, line⟩]⟩

def expr (e : Expr) (t : SymbolTable) : Checked := ⟨t, e.findings t⟩

def inits (type : Ty) : List Init → SymbolTable → Checked
  | [], t => ⟨t, []⟩
  | i :: rest, t =>
    (Checked.mk t (i.value.findings t ++ storeFindings type (i.value.type t) i.line)).andThen
      fun t => (declare i.name (.var type) i.line t).andThen (inits type rest)

def assignFindings (name : String) (value : Expr) (line : Nat) (t : SymbolTable) : List Finding :=
  match t.resolve? name with
  | some (.var declared) => storeFindings declared (value.type t) line
  | some (.fn _) => [⟨.functionUsedAsVariable name, line⟩]
  | none => [⟨.undeclaredName name t.isGlobal, line⟩]

def params : List Param → SymbolTable → Checked
  | [], t => ⟨t, []⟩
  | p :: rest, t => (declare p.name (.var p.type) p.line t).andThen (params rest)

/-- A return of a value of type `received`; the function that encloses it has now returned. -/
def ret (received : Ty) (line : Nat) (t : SymbolTable) : Checked :=
  match t.enclosingFunction? with
  | none => ⟨t, [⟨.returnOutsideFunction, line⟩]⟩
  | some function =>
    match t.signature? function with
    | none => ⟨t, []⟩
    | some signature =>
      let expected := signature.returnType
      ⟨t.markReturned function,
        if expected = received ∨ expected = .unknown ∨ received = .unknown then []
        else [⟨.returnTypeMismatch function expected received, line⟩]⟩

def jump (problem : Problem) (line : Nat) (t : SymbolTable) : Checked :=
  ⟨t, if t.inLoop then [] else [⟨problem, line⟩]⟩

def missingReturn (h : FnHeader) (t : SymbolTable) : Checked :=
  match t.signature? h.name with
  | some signature =>
    ⟨t, if signature.hasReturned then [] else [⟨.missingReturn h.name h.returnType, h.bodyLine⟩]⟩
  | none => ⟨t, []⟩

def signatureOf (h : FnHeader) : Signature := ⟨h.returnType, h.params.map Param.type, false⟩

/-- Checks within a scope of its own, which is given up at the end. -/
def inScope (label : ScopeLabel) (check : SymbolTable → Checked) (t : SymbolTable) : Checked :=
  let c := check (t.push label)
  ⟨c.symbols.pop, c.findings⟩

mutual

def stmt : Stmt → SymbolTable → Checked
  | .decl type is _, t => inits type is t
  | .assign name value line, t =>
    ⟨t, value.findings t ++ assignFindings name value line t⟩
  | .cond test yes none _, t => (expr test t).andThen (stmt yes)
  | .cond test yes (some no) _, t => ((expr test t).andThen (stmt yes)).andThen (stmt no)
  | .loop test body _, t => (expr test t).andThen (inScope .loop (stmt body))
  | .repeatUntil body test _, t => (inScope .loop (stmts body) t).andThen (expr test)
  | .fn h body, t =>
    match t.declare h.name (.fn (signatureOf h)) with
    | .error e => ⟨t, [⟨e.problem t.isGlobal, h.line⟩]⟩
    | .ok t =>
      (inScope (.function h.name) (fun t => (params h.params t).andThen (stmts body)) t).andThen
        (missingReturn h)
  | .block body _, t => inScope .block (stmts body) t
  | .ret value line, t => (expr value t).andThen (ret (value.type t) line)
  | .brk line, t => jump .breakOutsideLoop line t
  | .cont line, t => jump .continueOutsideLoop line t
  | .print value _, t => expr value t
  | .labeled _ body _, t => stmt body t
  | .expr value _, t => expr value t

def stmts : List Stmt → SymbolTable → Checked
  | [], t => ⟨t, []⟩
  | s :: rest, t => (stmt s t).andThen (stmts rest)

end

end Check

end Imperative
