import Imperative.Proofs.Machine.Ends

/-!
Properties that all computations of an evaluation have.

A property that the single steps of the machine have, and that putting computations together keeps,
holds of all that is evaluated and executed, by one induction on the depth. How much of the frames a
computation may change goes along with it: an expression changes less than a statement, and a
statement with declarations of its own changes more than others.
-/

namespace Imperative

/-- The statement is a declaration, or has one as a branch; a label changes nothing. -/
def Stmt.declares : Stmt → Bool
  | .decl .. => true
  | .cond _ yes none _ => yes.declares
  | .cond _ yes (some no) _ => yes.declares || no.declares
  | .labeled _ body _ => body.declares
  | _ => false

/-- What a computation may change of the frames above the global one. -/
inductive Extent
  | nothing
  /-- The values of the variables of the function at hand. -/
  | values
  /-- Also what names the current frame binds. -/
  | names

def Stmt.extent (s : Stmt) : Extent := if s.declares then .names else .values

namespace Exec

/-- What is found in the machine, or the fault at a line. -/
def find {α : Type} (o : Machine → Option α) (fault : Fault) (line : Nat) : Exec α := do
  match o (← machine) with
  | some a => pure a
  | none => raise fault line

lemma run_find {α : Type} (o : Machine → Option α) (fault : Fault) (line : Nat) (m : Machine) :
    (find o fault line).run m =
      (match o m with | some a => pure a | none => raise fault line : Exec α).run m := rfl

def read (name : String) : Nat → Exec Value :=
  find (fun m => m.memory.lookup name) (.undefinedVariable name)

/-- The function that a call runs. -/
def callee (name : String) : Nat → Exec FnDecl :=
  find (fun m => m.functions.get? name) (.undefinedFunction name)

/-- The value of a call whose body has ended. -/
def taken (d : FnDecl) (line : Nat) : Signal → Exec Value
  | .ret v => pure v
  | .normal => raise (.missingReturnValue d.header.name) line
  | signal => raise (.signalEscaped signal.text) line

end Exec

lemma evalExpr_var (n : Nat) (name : String) (line : Nat) :
    evalExpr (n + 1) (.var name line) = Exec.read name line := by
  unfold evalExpr Exec.read Exec.find
  refine bind_congr fun m => ?_
  dsimp only
  cases m.memory.lookup name <;> rfl

lemma evalExpr_call (n : Nat) (name : String) (args : List Expr) (line : Nat) :
    evalExpr (n + 1) (.call name args line) = (do
      let d ← Exec.callee name line
      let vs ← evalArgs n args
      Exec.taken d line (← Exec.inFrame (callFrame d.header vs) (execStmts n d.body))) := by
  unfold evalExpr Exec.callee Exec.find
  rw [bind_assoc]
  refine bind_congr fun m => ?_
  dsimp only
  cases m.functions.get? name with
  | none => rfl
  | some d =>
    rw [pure_bind]
    refine bind_congr fun vs => bind_congr fun s => ?_
    cases s <;> rfl

/-- A property of computations, for each extent, that all computations of an evaluation have. -/
structure Discipline where
  Keeps (x : Extent) {α : Type} : Exec α → Prop
  mono_nothing {x : Extent} {α : Type} {c : Exec α} : Keeps .nothing c → Keeps x c
  mono_values {α : Type} {c : Exec α} : Keeps .values c → Keeps .names c
  pure {α : Type} (a : α) : Keeps .nothing (Pure.pure a : Exec α)
  bind {x : Extent} {α β : Type} {c : Exec α} {next : α → Exec β} :
    Keeps x c → (∀ a, Keeps x (next a)) → Keeps x (c >>= next)
  outOfFuel {α : Type} : Keeps .nothing (Exec.outOfFuel : Exec α)
  raise {α : Type} (fault : Fault) (line : Nat) : Keeps .nothing (Exec.raise fault line : Exec α)
  read (name : String) (line : Nat) : Keeps .nothing (Exec.read name line)
  callee (name : String) (line : Nat) : Keeps .nothing (Exec.callee name line)
  /-- Above the frame of a call, what the body changes is given up in the end. -/
  call (h : FnHeader) (vs : List Value) {c : Exec Signal} :
    Keeps .names c → Keeps .nothing (Exec.inFrame (callFrame h vs) c)
  scope (name : String) {c : Exec Signal} :
    Keeps .names c → Keeps .values (Exec.inFrame (.block name) c)
  declare (name : String) (v : Value) : Keeps .names (Exec.changeMemory fun m => m.declare name v)
  store (name : String) (v : Value) : Keeps .values (Exec.changeMemory fun m => m.store name v)
  define (h : FnHeader) (body : List Stmt) : Keeps .values
    (Exec.change fun m => { m with functions := m.functions.insert h.name ⟨h, body⟩ })
  print (text : String) (line : Nat) : Keeps .values (Exec.print text line)

namespace Discipline

variable (D : Discipline)

/-- All computations of a depth have the property. -/
structure KeptAt (n : Nat) : Prop where
  expr : ∀ e, D.Keeps .nothing (evalExpr n e)
  args : ∀ es, D.Keeps .nothing (evalArgs n es)
  inits : ∀ type is, D.Keeps .names (execInits n type is)
  stmt : ∀ s, D.Keeps s.extent (execStmt n s)
  stmts : ∀ ss, D.Keeps .names (execStmts n ss)
  loop : ∀ test body, D.Keeps .values (execLoop n test body)
  repeatUntil : ∀ body test, D.Keeps .values (execRepeat n body test)

section

variable {D} {x : Extent} {α : Type}

lemma orRaise (line : Nat) (r : Except Fault α) : D.Keeps .nothing (Exec.orRaise line r) := by
  cases r with
  | ok a => exact D.pure a
  | error f => exact D.raise f line

lemma mono_names {c : Exec α} (h : D.Keeps x c) : D.Keeps .names c := by
  cases x with
  | nothing => exact D.mono_nothing h
  | values => exact D.mono_values h
  | names => exact h

lemma taken (d : FnDecl) (line : Nat) (s : Signal) : D.Keeps .nothing (Exec.taken d line s) := by
  cases s with
  | ret v => exact D.pure v
  | normal | brk | cont => exact D.raise _ line

/-- What a part of a statement changes, the statement changes. -/
lemma part {s t : Stmt} {c : Exec Signal} (hst : s.declares = true → t.declares = true)
    (h : D.Keeps s.extent c) : D.Keeps t.extent c := by
  unfold Stmt.extent at h ⊢
  by_cases hs : s.declares = true
  · rw [if_pos hs] at h
    rwa [if_pos (hst hs)]
  · rw [if_neg hs] at h
    split
    · exact D.mono_values h
    · exact h

end

namespace KeptAt

lemma zero : D.KeptAt 0 :=
  ⟨fun _ => D.outOfFuel, fun _ => D.outOfFuel, fun _ _ => D.mono_nothing D.outOfFuel,
    fun _ => D.mono_nothing D.outOfFuel, fun _ => D.mono_nothing D.outOfFuel,
    fun _ _ => D.mono_nothing D.outOfFuel, fun _ _ => D.mono_nothing D.outOfFuel⟩

variable {D} {n : Nat} (ih : D.KeptAt n)
include ih

lemma expr_succ (e : Expr) : D.Keeps .nothing (evalExpr (n + 1) e) := by
  cases e with
  | lit l => exact orRaise _ _
  | var name line =>
    rw [evalExpr_var]
    exact D.read name line
  | bin op l r line =>
    unfold evalExpr
    exact D.bind (ih.expr l) fun a => D.bind (ih.expr r) fun b => orRaise _ _
  | call name args line =>
    rw [evalExpr_call]
    refine D.bind (D.callee name line) fun d => D.bind (ih.args args) fun vs => ?_
    exact D.bind (D.call d.header vs (ih.stmts d.body)) fun s => taken d line s

lemma args_succ (es : List Expr) : D.Keeps .nothing (evalArgs (n + 1) es) := by
  cases es with
  | nil => exact D.pure _
  | cons e es => exact D.bind (ih.expr e) fun v => D.bind (ih.args es) fun vs => D.pure _

lemma inits_succ (type : Ty) (is : List Init) : D.Keeps .names (execInits (n + 1) type is) := by
  cases is with
  | nil => exact D.mono_nothing (D.pure _)
  | cons i is =>
    unfold execInits
    refine D.bind (D.mono_nothing (ih.expr i.value)) fun v => ?_
    exact D.bind (D.declare i.name (v.coerce type)) fun _ => ih.inits type is

lemma stmts_succ (ss : List Stmt) : D.Keeps .names (execStmts (n + 1) ss) := by
  cases ss with
  | nil => exact D.mono_nothing (D.pure _)
  | cons s ss =>
    unfold execStmts
    refine D.bind (mono_names (ih.stmt s)) fun signal => ?_
    split
    · exact ih.stmts ss
    · exact D.mono_nothing (D.pure _)

lemma loop_succ (test : Expr) (body : Stmt) : D.Keeps .values (execLoop (n + 1) test body) := by
  unfold execLoop
  refine D.bind (D.mono_nothing (ih.expr test)) fun v => ?_
  split
  · refine D.bind (D.scope _ (mono_names (ih.stmt body))) fun signal => ?_
    split
    · exact ih.loop test body
    · exact ih.loop test body
    · exact D.mono_nothing (D.pure _)
    · exact D.mono_nothing (D.pure _)
  · exact D.mono_nothing (D.pure _)

lemma repeat_succ (body : List Stmt) (test : Expr) :
    D.Keeps .values (execRepeat (n + 1) body test) := by
  have again : D.Keeps .values (do
      if (← evalExpr n test).truthy then Pure.pure Signal.normal
      else execRepeat n body test : Exec Signal) := by
    refine D.bind (D.mono_nothing (ih.expr test)) fun v => ?_
    split
    · exact D.mono_nothing (D.pure _)
    · exact ih.repeatUntil body test
  unfold execRepeat
  refine D.bind (D.scope _ (ih.stmts body)) fun signal => ?_
  split
  · exact again
  · exact again
  · exact D.mono_nothing (D.pure _)
  · exact D.mono_nothing (D.pure _)

lemma cond_succ (test : Expr) (yes : Stmt) (no : Option Stmt) (line : Nat) :
    D.Keeps (Stmt.cond test yes no line).extent (execStmt (n + 1) (.cond test yes no line)) := by
  unfold execStmt
  refine D.bind (D.mono_nothing (ih.expr test)) fun v => ?_
  cases no with
  | none =>
    split
    · exact ih.stmt yes
    · exact D.mono_nothing (D.pure _)
  | some no =>
    split
    · exact part (fun h => Bool.or_eq_true_iff.2 (.inl h)) (ih.stmt yes)
    · exact part (fun h => Bool.or_eq_true_iff.2 (.inr h)) (ih.stmt no)

lemma stmt_succ (s : Stmt) : D.Keeps s.extent (execStmt (n + 1) s) := by
  have normal (x : Extent) : D.Keeps x (Pure.pure Signal.normal : Exec Signal) :=
    D.mono_nothing (D.pure _)
  cases s with
  | decl type is _ => exact ih.inits type is
  | assign name value _ =>
    unfold execStmt
    refine D.bind (D.mono_nothing (ih.expr value)) fun v => ?_
    exact D.bind (D.store name v) fun _ => normal _
  | cond test yes no line => exact ih.cond_succ test yes no line
  | loop test body _ => exact ih.loop test body
  | repeatUntil body test _ => exact ih.repeatUntil body test
  | fn h body => exact D.bind (D.define h body) fun _ => normal _
  | block body _ => exact D.scope _ (ih.stmts body)
  | ret value _ => exact D.mono_nothing (D.bind (ih.expr value) fun v => D.pure _)
  | brk _ | cont _ => exact D.mono_nothing (D.pure _)
  | print value line =>
    unfold execStmt
    refine D.bind (D.mono_nothing (ih.expr value)) fun v => ?_
    exact D.bind (D.print _ line) fun _ => normal _
  | labeled _ body _ => exact ih.stmt body
  | expr value _ => exact D.mono_nothing (D.bind (ih.expr value) fun v => D.pure _)

end KeptAt

/-- **A discipline is kept by all that is evaluated and executed.** -/
theorem keptAt (n : Nat) : D.KeptAt n := by
  induction n with
  | zero => exact .zero D
  | succ n ih =>
    exact ⟨ih.expr_succ, ih.args_succ, ih.inits_succ, ih.stmt_succ, ih.stmts_succ, ih.loop_succ,
      ih.repeat_succ⟩

/-- So it is by programs. -/
lemma program (n : Nat) (p : Program) : D.Keeps .names (execProgram n p) := by
  induction p with
  | nil => exact D.mono_nothing (D.pure ())
  | cons s p ih =>
    unfold execProgram
    refine D.bind (mono_names ((D.keptAt n).stmt s)) fun signal => ?_
    split
    · exact ih
    · exact D.mono_nothing (D.raise _ _)

end Discipline

/-- A way in which computations of each extent may change the machine. -/
structure Change where
  Rel (x : Extent) : Machine → Machine → Prop
  refl (x : Extent) (m : Machine) : Rel x m m
  trans {x : Extent} {m m' m'' : Machine} : Rel x m m' → Rel x m' m'' → Rel x m m''
  mono_nothing {x : Extent} {m m' : Machine} : Rel .nothing m m' → Rel x m m'
  mono_values {m m' : Machine} : Rel .values m m' → Rel .names m m'
  call (h : FnHeader) (vs : List Value) {m m' : Machine} :
    Rel .names (m.enter (callFrame h vs)) m' → Rel .nothing m m'.leave
  scope (name : String) {m m' : Machine} :
    Rel .names (m.enter (.block name)) m' → Rel .values m m'.leave
  declare (m : Machine) (name : String) (v : Value) :
    Rel .names m { m with memory := m.memory.declare name v }
  store (m : Machine) (name : String) (v : Value) :
    Rel .values m { m with memory := m.memory.store name v }
  define (m : Machine) (name : String) (d : FnDecl) :
    Rel .values m { m with functions := m.functions.insert name d }
  print (m : Machine) (s : Sink) : Rel .values m { m with sink := s }

namespace Change

variable (C : Change) {x : Extent} {α β : Type}

/-- However the computation ends, the machine has changed in the given way. -/
def Keeps (x : Extent) (c : Exec α) : Prop :=
  ∀ m, (c.run m).Ends (fun _ => C.Rel x m) fun _ => C.Rel x m

variable {C}

lemma Keeps.mono {y : Extent} {c : Exec α} (h : C.Keeps x c)
    (hxy : ∀ m m', C.Rel x m m' → C.Rel y m m') : C.Keeps y c :=
  fun m => (h m).mono (fun _ _ h' => hxy _ _ h') fun _ _ h' => hxy _ _ h'

lemma Keeps.bind {c : Exec α} {next : α → Exec β} (hc : C.Keeps x c)
    (hn : ∀ a, C.Keeps x (next a)) : C.Keeps x (c >>= next) := by
  intro m
  refine (hc m).bind fun a m' h => ?_
  exact (hn a m').mono (fun _ _ h' => C.trans h h') fun _ _ h' => C.trans h h'

lemma Keeps.inFrame {y : Extent} {f : Frame} {c : Exec α} (hc : C.Keeps x c)
    (hf : ∀ m m', C.Rel x (m.enter f) m' → C.Rel y m m'.leave) :
    C.Keeps y (Exec.inFrame f c) :=
  fun m => Outcome.Ends.inFrame ((hc (m.enter f)).mono (fun _ _ => hf m _) fun _ _ => hf m _)

lemma Keeps.find (o : Machine → Option α) (fault : Fault) (line : Nat) :
    C.Keeps x (Exec.find o fault line) := by
  intro m
  refine Outcome.Ends.bind (P := fun _ => C.Rel x m) (C.refl x m) fun m' m'' h => ?_
  split
  · exact h
  · exact h

variable (C)

/-- All computations of an evaluation change the machine in the given way. -/
def discipline : Discipline where
  Keeps x _ := C.Keeps x
  mono_nothing h := h.mono fun _ _ => C.mono_nothing
  mono_values h := h.mono fun _ _ => C.mono_values
  pure _ := C.refl .nothing
  bind := Keeps.bind
  outOfFuel := fun _ => trivial
  raise _ _ := C.refl .nothing
  read _ := Keeps.find _ _
  callee _ := Keeps.find _ _
  call h vs _ hc := hc.inFrame fun _ _ => C.call h vs
  scope name _ hc := hc.inFrame fun _ _ => C.scope name
  declare name v m := C.declare m name v
  store name v m := C.store m name v
  define h body m := C.define m h.name ⟨h, body⟩
  print _ _ m := Outcome.Ends.print (fun s => C.print m s) fun s _ => C.print m s

end Change

end Imperative
