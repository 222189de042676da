import Imperative.Program.Literal
import Imperative.Program.Operator

/-!
Programs as trees. Every expression and statement knows the source line it starts on; line zero
means that none is known.
-/

namespace Imperative

inductive Expr
  | lit (literal : Literal)
  | var (name : String) (line : Nat)
  | bin (op : Operator) (left right : Expr) (line : Nat)
  | call (name : String) (args : List Expr) (line : Nat)
  deriving Repr

/-- One `name = value` of a declaration. -/
structure Init where
  name : String
  value : Expr
  line : Nat
  deriving Repr

structure Param where
  name : String
  type : Ty
  line : Nat
  deriving DecidableEq, Repr

/-- All of a function definition but the statements of its body. -/
structure FnHeader where
  name : String
  returnType : Ty
  params : List Param
  bodyLine : Nat
  line : Nat
  deriving DecidableEq, Repr

inductive Stmt
  /-- Declares every name with the same type. -/
  | decl (type : Ty) (inits : List Init) (line : Nat)
  | assign (name : String) (value : Expr) (line : Nat)
  | cond (test : Expr) (yes : Stmt) (no : Option Stmt) (line : Nat)
  | loop (test : Expr) (body : Stmt) (line : Nat)
  /-- Runs the body before each test and ends when the test holds. -/
  | repeatUntil (body : List Stmt) (test : Expr) (line : Nat)
  | fn (header : FnHeader) (body : List Stmt)
  | block (body : List Stmt) (line : Nat)
  | ret (value : Expr) (line : Nat)
  | brk (line : Nat)
  | cont (line : Nat)
  | print (value : Expr) (line : Nat)
  /-- A label has no part in the flow of control. -/
  | labeled (label : String) (body : Stmt) (line : Nat)
  | expr (value : Expr) (line : Nat)
  deriving Repr

/-- The statements of a source file, in order. -/
abbrev Program := List Stmt

/-- A function definition as it stands in a table of functions. -/
structure FnDecl where
  header : FnHeader
  body : List Stmt
  deriving Repr

def Expr.line : Expr → Nat
  | lit l => l.line
  | var _ n | bin _ _ _ n | call _ _ n => n

def Stmt.line : Stmt → Nat
  | fn h _ => h.line
  | decl _ _ n | assign _ _ n | cond _ _ _ n | loop _ _ n | repeatUntil _ _ n | block _ n | ret _ n
  | brk n | cont n | print _ n | labeled _ _ n | expr _ n => n

end Imperative
