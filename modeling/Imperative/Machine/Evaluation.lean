import Imperative.Machine.Basic
import Imperative.Program.Node
import Imperative.Value.Operation

/-!
Evaluation of expressions and execution of statements.

Operands and arguments are evaluated from left to right, both operands always. A call runs the body
in a frame that holds the parameters; blocks and each round of a loop have a frame of their own, and
branches have none. The fuel bounds how deep evaluation nests, each round of a loop counting as one
level; any result that is reached does not depend on it.
-/

namespace Imperative

open Exec

/-- The frame of a call; a parameter without an argument stays unbound, and further arguments are
dropped. -/
def callFrame (h : FnHeader) (args : List Value) : Frame :=
  (h.params.zip args).foldl (fun f p => f.declare p.1.name p.2) (.call h.name)

/-- An assignment takes on the type of the value that the variable holds. -/
def Memory.store (m : Memory) (name : String) (v : Value) : Memory :=
  match m.lookup name with
  | some old => m.assignOrDeclareGlobal name (v.coerce old.type)
  | none => m.assignOrDeclareGlobal name v

mutual

def evalExpr : Nat → Expr → Exec Value
  | 0, _ => outOfFuel
  | _ + 1, .lit l => orRaise l.line (Value.ofLiteral l)
  | _ + 1, .var name line => do
    match (← machine).memory.lookup name with
    | some v => pure v
    | none => raise (.undefinedVariable name) line
  | n + 1, .bin op l r line => do
    let a ← evalExpr n l
    let b ← evalExpr n r
    orRaise line (Value.apply op a b)
  | n + 1, .call name args line => do
    match (← machine).functions.get? name with
    | none => raise (.undefinedFunction name) line
    | some f =>
      let values ← evalArgs n args
      match ← inFrame (callFrame f.header values) (execStmts n f.body) with
      | .ret v => pure v
      | .normal => raise (.missingReturnValue f.header.name) line
      | signal => raise (.signalEscaped signal.text) line

def evalArgs : Nat → List Expr → Exec (List Value)
  | 0, _ => outOfFuel
  | _ + 1, [] => pure []
  | n + 1, e :: rest => do
    let v ← evalExpr n e
    let vs ← evalArgs n rest
    pure (v :: vs)

def execStmt : Nat → Stmt → Exec Signal
  | 0, _ => outOfFuel
  | n + 1, .decl type inits _ => execInits n type inits
  | n + 1, .assign name value _ => do
    let v ← evalExpr n value
    changeMemory fun m => m.store name v
    pure .normal
  | n + 1, .cond test yes no _ => do
    if (← evalExpr n test).truthy then execStmt n yes
    else match no with
      | some no => execStmt n no
      | none => pure .normal
  | n + 1, .loop test body _ => execLoop n test body
  | n + 1, .repeatUntil body test _ => execRepeat n body test
  | _ + 1, .fn h body => do
    change fun m => { m with functions := m.functions.insert h.name ⟨h, body⟩ }
    pure .normal
  | n + 1, .block body _ => inFrame (.block "block") (execStmts n body)
  | n + 1, .ret value _ => do pure (.ret (← evalExpr n value))
  | _ + 1, .brk _ => pure .brk
  | _ + 1, .cont _ => pure .cont
  | n + 1, .print value line => do
    let v ← evalExpr n value
    print v.text line
    pure .normal
  | n + 1, .labeled _ body _ => execStmt n body
  | n + 1, .expr value _ => do
    let _ ← evalExpr n value
    pure .normal

/-- Declares names in the current frame, each after its initial value has been found. -/
def execInits : Nat → Ty → List Init → Exec Signal
  | 0, _, _ => outOfFuel
  | _ + 1, _, [] => pure .normal
  | n + 1, type, i :: rest => do
    let v ← evalExpr n i.value
    changeMemory fun m => m.declare i.name (v.coerce type)
    execInits n type rest

/-- Runs statements in the current frame up to the first that does not end normally. -/
def execStmts : Nat → List Stmt → Exec Signal
  | 0, _ => outOfFuel
  | _ + 1, [] => pure .normal
  | n + 1, s :: rest => do
    match ← execStmt n s with
    | .normal => execStmts n rest
    | signal => pure signal

def execLoop : Nat → Expr → Stmt → Exec Signal
  | 0, _, _ => outOfFuel
  | n + 1, test, body => do
    if (← evalExpr n test).truthy then
      match ← inFrame (.block "while") (execStmt n body) with
      | .normal | .cont => execLoop n test body
      | .brk => pure .normal
      | .ret v => pure (.ret v)
    else pure .normal

def execRepeat : Nat → List Stmt → Expr → Exec Signal
  | 0, _, _ => outOfFuel
  | n + 1, body, test => do
    match ← inFrame (.block "repeat") (execStmts n body) with
    | .normal | .cont =>
      if (← evalExpr n test).truthy then pure .normal else execRepeat n body test
    | .brk => pure .normal
    | .ret v => pure (.ret v)

end

def execBlock (fuel : Nat) (body : List Stmt) : Exec Signal :=
  inFrame (.block "block") (execStmts fuel body)

def evalCondition (fuel : Nat) (test : Expr) : Exec Bool := do pure (← evalExpr fuel test).truthy

/-- No signal but the normal one may leave a statement of a program. -/
def execProgram (fuel : Nat) : Program → Exec Unit
  | [] => pure ()
  | s :: rest => do
    match ← execStmt fuel s with
    | .normal => execProgram fuel rest
    | signal => raise (.signalEscaped signal.text) s.line

/-- Runs any node; an expression yields its value, and a statement the value it returns with. -/
def visitNode (fuel : Nat) : Node → Exec (Option Value)
  | .program p => do
    execProgram fuel p
    pure none
  | .stmt s => do
    match ← execStmt fuel s with
    | .normal => pure none
    | .ret v => pure (some v)
    | signal => raise (.signalEscaped signal.text) s.line
  | .expr e => do pure (some (← evalExpr fuel e))

end Imperative
