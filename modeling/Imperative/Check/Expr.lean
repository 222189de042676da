import Imperative.Check.Finding
import Imperative.Program.Tree

/-!
The type of an expression, and what is wrong with it.

Neither changes the table of symbols. Where a type cannot be told it is unknown, and the reason is
among the findings; an operator says nothing about an operand of unknown type, so one mistake is
reported once. The arguments of a call must have exactly the types of the parameters.
-/

namespace Imperative

def LiteralKind.type : LiteralKind → Ty
  | int => .int
  | float => .float
  | string => .string

namespace Expr

def type (t : SymbolTable) : Expr → Ty
  | lit l => l.kind.type
  | var name _ =>
    match t.resolve? name with
    | some (.var type) => type
    | _ => .unknown
  | bin op l r _ => (op.resultType (l.type t) (r.type t)).getD .unknown
  | call name _ _ =>
    match t.resolve? name with
    | some (.fn signature) => signature.returnType
    | _ => .unknown

def nameFindings (t : SymbolTable) (name : String) (line : Nat) : List Finding :=
  match t.resolve? name with
  | some (.var _) => []
  | some (.fn _) => [⟨.functionUsedAsVariable name, line⟩]
  | none => [⟨.undeclaredName name t.isGlobal, line⟩]

def operandFindings (op : Operator) (left right : Ty) (line : Nat) : List Finding :=
  if (op.resultType left right).isSome ∨ left = .unknown ∨ right = .unknown then []
  else [⟨.illegalOperation left op.symbol right, line⟩]

/-- The arguments from number `index` on against the parameters that they stand for. -/
def argumentFindings (name : String) (line : Nat) : Nat → List Ty → List Ty → List Finding
  | index, expected :: es, received :: rs =>
    (if expected = received ∨ received = .unknown then []
      else [⟨.argumentType name index expected received, line⟩]) ++
    argumentFindings name line (index + 1) es rs
  | _, _, _ => []

def callFindings (t : SymbolTable) (name : String) (args : List Ty) (line : Nat) : List Finding :=
  match t.resolve? name with
  | some (.fn signature) =>
    if signature.params.length = args.length then
      argumentFindings name line 1 signature.params args
    else [⟨.arity name signature.params.length args.length, line⟩]
  | some (.var _) => [⟨.notAFunction name, line⟩]
  | none => [⟨.undefinedFunction name, line⟩]

mutual

/-- What is wrong, operands and arguments before the operator or call that uses them. -/
def findings (t : SymbolTable) : Expr → List Finding
  | lit _ => []
  | var name line => nameFindings t name line
  | bin op l r line =>
    l.findings t ++ r.findings t ++ operandFindings op (l.type t) (r.type t) line
  | call name args line =>
    argsFindings t args ++ callFindings t name (args.map (type t)) line

def argsFindings (t : SymbolTable) : List Expr → List Finding
  | [] => []
  | e :: rest => e.findings t ++ argsFindings t rest

end

end Expr

end Imperative
