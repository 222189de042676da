import Imperative.Check.Expr
import Imperative.Proofs.Program.Own

/-!
The type system: which programs are well typed, said without a table of symbols and without
findings.

A context holds the names that are visible, scope by scope, each from its declaration on. It says
whether the place is in a loop of its own function, and what that function returns.
-/

namespace Imperative

/-- What a name stands for. -/
inductive Entry
  | var (type : Ty)
  | fn (params : List Ty) (returnType : Ty)
  deriving DecidableEq, Repr

/-- The names of one scope, the last one declared first. -/
abbrev Names := List (String × Entry)

structure Context where
  /-- The scopes inside the global one, the innermost first. -/
  inner : List Names
  globals : Names
  inLoop : Bool
  /-- What the function around the place returns, if there is one. -/
  returnType : Option Ty
  deriving DecidableEq, Repr

namespace Context

def initial : Context := ⟨[], [], false, none⟩

def current (Γ : Context) : Names := Γ.inner.headD Γ.globals

/-- What the innermost scope says that holds the name. -/
def lookup (Γ : Context) (name : String) : Option Entry :=
  (Γ.inner ++ [Γ.globals]).findSome? fun names => names.lookup name

def declare (Γ : Context) (name : String) (e : Entry) : Context :=
  match Γ.inner with
  | [] => { Γ with globals := (name, e) :: Γ.globals }
  | names :: rest => { Γ with inner := ((name, e) :: names) :: rest }

def block (Γ : Context) : Context := { Γ with inner := [] :: Γ.inner }

def loop (Γ : Context) : Context := { Γ with inner := [] :: Γ.inner, inLoop := true }

/-- In the body of a function that returns the type; a loop around its definition is none of its
own. -/
def function (Γ : Context) (type : Ty) : Context :=
  { Γ with inner := [] :: Γ.inner, inLoop := false, returnType := some type }

/-- The name may be declared: its scope does not hold it yet, and if it is one of a variable, no
global function has it. -/
def Admits (Γ : Context) (name : String) (e : Entry) : Prop :=
  Γ.current.lookup name = none ∧
    ∀ type, e = .var type → ∀ params returnType,
      Γ.globals.lookup name ≠ some (.fn params returnType)

end Context

/-- A variable of the one type takes a value of the other. -/
def Takes (declared assigned : Ty) : Prop :=
  declared = assigned ∨ declared = .float ∧ assigned = .int ∨ declared = .int ∧ assigned = .float

mutual

inductive HasType : Context → Expr → Ty → Prop
  | lit {Γ l} : HasType Γ (.lit l) l.kind.type
  | var {Γ name line type} (hname : Γ.lookup name = some (.var type)) :
      HasType Γ (.var name line) type
  | bin {Γ op l r line left right type} (hl : HasType Γ l left) (hr : HasType Γ r right)
      (hop : op.resultType left right = some type) : HasType Γ (.bin op l r line) type
  | call {Γ name args line params type} (hname : Γ.lookup name = some (.fn params type))
      (hargs : HaveTypes Γ args params) : HasType Γ (.call name args line) type

inductive HaveTypes : Context → List Expr → List Ty → Prop
  | nil {Γ} : HaveTypes Γ [] []
  | cons {Γ e type es types} (he : HasType Γ e type) (hes : HaveTypes Γ es types) :
      HaveTypes Γ (e :: es) (type :: types)

end

/-- Each name is declared after its own initial value. -/
inductive InitsTyped (type : Ty) : Context → List Init → Context → Prop
  | nil {Γ} : InitsTyped type Γ [] Γ
  | cons {Γ Γ' i is assigned} (hvalue : HasType Γ i.value assigned) (htakes : Takes type assigned)
      (hname : Γ.Admits i.name (.var type))
      (his : InitsTyped type (Γ.declare i.name (.var type)) is Γ') : InitsTyped type Γ (i :: is) Γ'

inductive ParamsDeclared : Context → List Param → Context → Prop
  | nil {Γ} : ParamsDeclared Γ [] Γ
  | cons {Γ Γ' q ps} (hname : Γ.Admits q.name (.var q.type))
      (hps : ParamsDeclared (Γ.declare q.name (.var q.type)) ps Γ') : ParamsDeclared Γ (q :: ps) Γ'

def FnHeader.entry (h : FnHeader) : Entry := .fn (h.params.map Param.type) h.returnType

mutual

/-- In the first context the statement is well typed; behind it stands the second one. -/
inductive WellTyped : Context → Stmt → Context → Prop
  | decl {Γ Γ' type is line} (his : InitsTyped type Γ is Γ') : WellTyped Γ (.decl type is line) Γ'
  | assign {Γ name e line type assigned} (hname : Γ.lookup name = some (.var type))
      (he : HasType Γ e assigned) (htakes : Takes type assigned) :
      WellTyped Γ (.assign name e line) Γ
  /-- A branch has no scope of its own: what it declares is known behind the condition. -/
  | cond {Γ Γ' test yes line type} (htest : HasType Γ test type) (hyes : WellTyped Γ yes Γ') :
      WellTyped Γ (.cond test yes none line) Γ'
  | condElse {Γ Γ' Γ'' test yes no line type} (htest : HasType Γ test type)
      (hyes : WellTyped Γ yes Γ') (hno : WellTyped Γ' no Γ'') :
      WellTyped Γ (.cond test yes (some no) line) Γ''
  | loop {Γ Γ' test body line type} (htest : HasType Γ test type)
      (hbody : WellTyped Γ.loop body Γ') : WellTyped Γ (.loop test body line) Γ
  | repeatUntil {Γ Γ' body test line type} (hbody : AllWellTyped Γ.loop body Γ')
      (htest : HasType Γ test type) : WellTyped Γ (.repeatUntil body test line) Γ
  /-- A function is known in its own body, and has a return of its own. -/
  | fn {Γ Γ' Γ'' h body} (hname : Γ.Admits h.name h.entry)
      (hparams : ParamsDeclared ((Γ.declare h.name h.entry).function h.returnType) h.params Γ')
      (hbody : AllWellTyped Γ' body Γ'') (hreturns : Stmt.returns (Stmt.ownIn body) = true) :
      WellTyped Γ (.fn h body) (Γ.declare h.name h.entry)
  | block {Γ Γ' body line} (hbody : AllWellTyped Γ.block body Γ') :
      WellTyped Γ (.block body line) Γ
  | ret {Γ e line type} (hreturn : Γ.returnType = some type) (he : HasType Γ e type) :
      WellTyped Γ (.ret e line) Γ
  | brk {Γ line} (hloop : Γ.inLoop = true) : WellTyped Γ (.brk line) Γ
  | cont {Γ line} (hloop : Γ.inLoop = true) : WellTyped Γ (.cont line) Γ
  | print {Γ e line type} (he : HasType Γ e type) : WellTyped Γ (.print e line) Γ
  | labeled {Γ Γ' label body line} (hbody : WellTyped Γ body Γ') :
      WellTyped Γ (.labeled label body line) Γ'
  | expr {Γ e line type} (he : HasType Γ e type) : WellTyped Γ (.expr e line) Γ

inductive AllWellTyped : Context → List Stmt → Context → Prop
  | nil {Γ} : AllWellTyped Γ [] Γ
  | cons {Γ Γ' Γ'' s ss} (hs : WellTyped Γ s Γ') (hss : AllWellTyped Γ' ss Γ'') :
      AllWellTyped Γ (s :: ss) Γ''

end

end Imperative
