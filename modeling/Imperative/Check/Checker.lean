import Imperative.Check.Stmt
import Imperative.Program.Node

/-!
A checker: the symbols known so far and the diagnostics reported so far, in the order of reporting.

The first error, though no warning, makes what is checked invalid for good.
-/

namespace Imperative

structure Checker where
  symbols : SymbolTable
  diagnostics : List Diagnostic
  /-- No error has been reported. -/
  isValid : Bool
  file : String
  deriving DecidableEq, Repr

namespace Checker

def initial (file : String) : Checker := ⟨.initial, [], true, file⟩

def errorCount (c : Checker) : Nat := c.diagnostics.countP Diagnostic.isError

def warningCount (c : Checker) : Nat := c.diagnostics.countP fun d => d.severity = .warning

def report (c : Checker) (f : Finding) : Checker :=
  { c with
    diagnostics := c.diagnostics ++ [⟨f.problem, ⟨f.line, c.file⟩⟩]
    isValid := c.isValid && !f.problem.isError }

def reportAll (c : Checker) (fs : List Finding) : Checker := fs.foldl report c

def reportSymbolError (c : Checker) (e : SymbolError) (line : Nat) : Checker :=
  c.report ⟨e.problem c.symbols.isGlobal, line⟩

/-- Goes on with the symbols that a check leaves and reports what it found. -/
def follow (c : Checker) (check : SymbolTable → Checked) : Checker :=
  let r := check c.symbols
  { c with symbols := r.symbols }.reportAll r.findings

def declare (c : Checker) (name : String) (symbol : Symbol) (line : Nat) : Checker :=
  c.follow (Check.declare name symbol line)

def checkStore (c : Checker) (declared assigned : Ty) (line : Nat) : Checker :=
  c.reportAll (storeFindings declared assigned line)

/-- The type of an expression, and the checker after its findings have been reported. -/
def visitExpr (c : Checker) (e : Expr) : Ty × Checker :=
  (e.type c.symbols, c.follow (Check.expr e))

def visitStmt (c : Checker) (s : Stmt) : Checker := c.follow (Check.stmt s)

def visitProgram (c : Checker) (p : Program) : Checker := c.follow (Check.stmts p)

/-- Checks any node; only an expression has a type. -/
def visit (c : Checker) : Node → Option Ty × Checker
  | .program p => (none, c.visitProgram p)
  | .stmt s => (none, c.visitStmt s)
  | .expr e =>
    let (type, d) := c.visitExpr e
    (some type, d)

end Checker

/-- Checks a whole program, of which nothing is known before. -/
def typeCheck (p : Program) (file : String) : Checker := (Checker.initial file).visitProgram p

end Imperative
