import Imperative.Proofs.Check.Nodes
import Imperative.Proofs.Machine.Ends
import Imperative.Proofs.Value.Operation

/-!
The ways in which statements may end, read off the program alone.

No test is looked at: either branch may run, and a loop that tests first may run no round at all.
However a statement ends in a run, it is one of these ways, and a call that brings no value is one
of a function whose body may run to its end.
-/

namespace Imperative

inductive Exit
  | normal
  | brk
  | cont
  | ret
  deriving DecidableEq, Repr

def Signal.exit : Signal → Exit
  | normal => .normal
  | brk => .brk
  | cont => .cont
  | ret _ => .ret

namespace Stmt

mutual

def mayEnd : Stmt → Exit → Bool
  | ret .., x => x = .ret
  | brk _, x => x = .brk
  | cont _, x => x = .cont
  | cond _ yes none _, x => x = .normal || yes.mayEnd x
  | cond _ yes (some no) _, x => yes.mayEnd x || no.mayEnd x
  | loop _ body _, x => x = .normal || x = .ret && body.mayEnd .ret
  | repeatUntil body _ _, .normal => allMayEnd body .normal || allMayEnd body .cont ||
      allMayEnd body .brk
  | repeatUntil body _ _, .ret => allMayEnd body .ret
  | repeatUntil .., .brk | repeatUntil .., .cont => false
  | block body _, x => allMayEnd body x
  | labeled _ body _, x => body.mayEnd x
  | decl .., x | assign .., x | fn .., x | print .., x | expr .., x => x = .normal

/-- Statements in order may end like one of them that all before it lead to. -/
def allMayEnd : List Stmt → Exit → Bool
  | [], x => x = .normal
  | s :: rest, x => x ≠ .normal && s.mayEnd x || s.mayEnd .normal && allMayEnd rest x

end

end Stmt

/-- The body may run to its end without a return. -/
def FnDecl.mayFinish (d : FnDecl) : Bool := Stmt.allMayEnd d.body .normal

variable {p : Program}

/-- All functions of the machine have been defined by the program. -/
def Machine.Defined (p : Program) (m : Machine) : Prop :=
  ∀ name d, m.functions.get? name = some d → d.Stands p

lemma Machine.Defined.initial (file : String) (sink : Sink) :
    (Machine.initial file sink).Defined p := by
  intro name d hd
  cases hd

lemma Machine.Defined.define {m : Machine} {h : FnHeader} {body : List Stmt} (hm : m.Defined p)
    (hs : .stmt (.fn h body) ∈ (Node.program p).walk) :
    Defined p { m with functions := m.functions.insert h.name ⟨h, body⟩ } := by
  intro name d hd
  rw [Bindings.get?_insert] at hd
  split at hd
  · cases hd
    exact hs
  · exact hm name d hd

/-- Only a function that may finish brings no value. -/
def Fault.Excused (p : Program) : Fault → Prop
  | missingReturnValue name => ∃ d : FnDecl, d.Stands p ∧ d.header.name = name ∧ d.mayFinish = true
  | _ => True

namespace Exec

variable {α β : Type}

/-- With functions of the program, the computation comes to what `Q` says, or stops with a fault
that is excused. -/
def Follows (p : Program) (Q : α → Prop) (x : Exec α) : Prop :=
  ∀ m, m.Defined p → (x.run m).Ends (fun a m' => m'.Defined p ∧ Q a) fun f _ => f.Excused p

namespace Follows

variable {P Q : α → Prop} {R : β → Prop}

lemma pure {a : α} (h : Q a) : (Pure.pure a : Exec α).Follows p Q := fun _ hm => ⟨hm, h⟩

lemma outOfFuel : (Exec.outOfFuel : Exec α).Follows p Q := fun _ _ => trivial

lemma raise {f : Fault} {line : Nat} (h : f.Excused p) :
    (Exec.raise f line : Exec α).Follows p Q := fun _ _ => h

lemma orRaise {line : Nat} {r : Except Fault α} (h : ∀ f, r = .error f → f.Excused p) :
    (Exec.orRaise line r).Follows p fun _ => True :=
  fun _ hm => Outcome.Ends.orRaise (fun _ _ => ⟨hm, trivial⟩) h

lemma bind {x : Exec α} {next : α → Exec β} (hx : x.Follows p P)
    (hn : ∀ a, P a → (next a).Follows p R) : (x >>= next).Follows p R :=
  fun m hm => (hx m hm).bind fun a m' h => hn a h.2 m' h.1

lemma mono {x : Exec α} (h : x.Follows p P) (hQ : ∀ a, P a → Q a) : x.Follows p Q :=
  fun m hm => (h m hm).mono (fun a _ h' => ⟨h'.1, hQ a h'.2⟩) fun _ _ => id

lemma inFrame {f : Frame} {x : Exec α} (h : x.Follows p Q) : (Exec.inFrame f x).Follows p Q :=
  fun m hm => Outcome.Ends.inFrame (h (m.enter f) hm)

lemma print (text : String) (line : Nat) : (Exec.print text line).Follows p fun _ => True :=
  fun _ hm => Outcome.Ends.print (fun _ => ⟨hm, trivial⟩) fun _ _ => trivial

lemma change {f : Machine → Machine} (h : ∀ m, m.Defined p → (f m).Defined p) :
    (Exec.change f).Follows p fun _ => True :=
  fun m hm => ⟨h m hm, trivial⟩

/-- A computation may go by the machine that it starts from. -/
lemma machine {next : Machine → Exec β} (h : ∀ m, m.Defined p → (next m).Follows p R) :
    (Exec.machine >>= next).Follows p R :=
  fun m hm => h m hm m hm

end Follows

end Exec

open Stmt

/-- What follows of all computations of a depth. -/
structure FollowsAt (p : Program) (n : Nat) : Prop where
  expr : ∀ e, (evalExpr n e).Follows p fun _ => True
  args : ∀ es, (evalArgs n es).Follows p fun _ => True
  inits : ∀ type is, (execInits n type is).Follows p fun s => s.exit = .normal
  stmt : ∀ s, .stmt s ∈ (Node.program p).walk →
    (execStmt n s).Follows p fun r => s.mayEnd r.exit = true
  stmts : ∀ ss, (∀ s ∈ ss, .stmt s ∈ (Node.program p).walk) →
    (execStmts n ss).Follows p fun r => allMayEnd ss r.exit = true
  loop : ∀ test body line, .stmt body ∈ (Node.program p).walk →
    (execLoop n test body).Follows p fun r => (Stmt.loop test body line).mayEnd r.exit = true
  repeatUntil : ∀ body test line, (∀ s ∈ body, .stmt s ∈ (Node.program p).walk) →
    (execRepeat n body test).Follows p fun r =>
      (Stmt.repeatUntil body test line).mayEnd r.exit = true

namespace FollowsAt

open Exec.Follows

lemma zero : FollowsAt p 0 :=
  ⟨fun _ => outOfFuel, fun _ => outOfFuel, fun _ _ => outOfFuel, fun _ _ => outOfFuel,
    fun _ _ => outOfFuel, fun _ _ _ _ => outOfFuel, fun _ _ _ _ => outOfFuel⟩

variable {n : Nat} (ih : FollowsAt p n)
include ih

lemma expr_succ (e : Expr) : (evalExpr (n + 1) e).Follows p fun _ => True := by
  cases e with
  | lit l =>
    refine orRaise fun f hf => ?_
    unfold Value.ofLiteral at hf
    split at hf <;> cases hf
    trivial
  | var name line =>
    unfold evalExpr
    refine machine fun m _ => ?_
    split
    · exact pure trivial
    · exact raise trivial
  | bin op l r line =>
    unfold evalExpr
    refine bind (ih.expr l) fun a _ => bind (ih.expr r) fun b _ => orRaise fun f hf => ?_
    have hop := Value.apply_error_ofOperator hf
    cases f with
    | missingReturnValue => cases hop
    | _ => trivial
  | call name args line =>
    unfold evalExpr
    refine machine fun m hm => ?_
    split
    · exact raise trivial
    · next d hd =>
      have hbody := ih.stmts d.body (hm name d hd).body
      refine bind (ih.args args) fun vs _ => bind (inFrame hbody) fun s hs => ?_
      cases s with
      | normal => exact raise ⟨d, hm name d hd, rfl, hs⟩
      | ret v => exact pure trivial
      | brk | cont => exact raise trivial

lemma args_succ (es : List Expr) : (evalArgs (n + 1) es).Follows p fun _ => True := by
  cases es with
  | nil => exact pure trivial
  | cons e es => exact bind (ih.expr e) fun v _ => bind (ih.args es) fun vs _ => pure trivial

lemma inits_succ (type : Ty) (is : List Init) :
    (execInits (n + 1) type is).Follows p fun s => s.exit = .normal := by
  cases is with
  | nil => exact pure rfl
  | cons i is =>
    unfold execInits
    exact bind (ih.expr i.value) fun v _ => bind (change fun _ hm => hm) fun _ _ => ih.inits type is

lemma stmts_succ (ss : List Stmt) (hss : ∀ s ∈ ss, .stmt s ∈ (Node.program p).walk) :
    (execStmts (n + 1) ss).Follows p fun r => allMayEnd ss r.exit = true := by
  cases ss with
  | nil => exact pure rfl
  | cons s ss =>
    obtain ⟨hs, hss⟩ := List.forall_mem_cons.1 hss
    unfold execStmts
    refine bind (ih.stmt s hs) fun r hr => ?_
    cases r with
    | normal =>
      refine (ih.stmts ss hss).mono fun r' hr' => ?_
      simp only [allMayEnd, hr', Bool.and_true, Bool.or_eq_true]
      exact .inr hr
    | brk | cont | ret _ =>
      rw [Signal.exit] at hr
      exact pure (by simp [Signal.exit, allMayEnd, hr])

lemma loop_succ (test : Expr) (body : Stmt) (line : Nat)
    (hbody : .stmt body ∈ (Node.program p).walk) : (execLoop (n + 1) test body).Follows p
      fun r => (Stmt.loop test body line).mayEnd r.exit = true := by
  unfold execLoop
  refine bind (ih.expr test) fun v _ => ?_
  split
  · refine bind (inFrame (ih.stmt body hbody)) fun r hr => ?_
    cases r with
    | normal | cont => exact ih.loop test body line hbody
    | brk => exact pure rfl
    | ret v => exact pure (by simpa [mayEnd, Signal.exit] using hr)
  · exact pure rfl

lemma repeat_succ (body : List Stmt) (test : Expr) (line : Nat)
    (hbody : ∀ s ∈ body, .stmt s ∈ (Node.program p).walk) : (execRepeat (n + 1) body test).Follows p
      fun r => (Stmt.repeatUntil body test line).mayEnd r.exit = true := by
  have again (h : (Stmt.repeatUntil body test line).mayEnd .normal = true) : (do
      if (← evalExpr n test).truthy then Pure.pure Signal.normal
      else execRepeat n body test : Exec Signal).Follows p
        fun r => (Stmt.repeatUntil body test line).mayEnd r.exit = true := by
    refine bind (ih.expr test) fun v _ => ?_
    split
    · exact pure h
    · exact ih.repeatUntil body test line hbody
  unfold execRepeat
  refine bind (inFrame (ih.stmts body hbody)) fun r hr => ?_
  cases r with
  | normal | cont =>
    rw [Signal.exit] at hr
    exact again (by simp [mayEnd, hr])
  | brk =>
    rw [Signal.exit] at hr
    exact pure (by simp [Signal.exit, mayEnd, hr])
  | ret v => exact pure hr

lemma stmt_succ (s : Stmt) (hs : .stmt s ∈ (Node.program p).walk) :
    (execStmt (n + 1) s).Follows p fun r => s.mayEnd r.exit = true := by
  have child {c : Stmt} (hc : .stmt c ∈ (Node.stmt s).children) : .stmt c ∈ (Node.program p).walk :=
    Node.child_mem_walk hs hc
  cases s with
  | decl type is _ => exact (ih.inits type is).mono fun r hr => by simp [mayEnd, hr]
  | assign name value _ =>
    unfold execStmt
    exact bind (ih.expr value) fun v _ => bind (change fun _ hm => hm) fun _ _ => pure rfl
  | cond test yes no _ =>
    unfold execStmt
    refine bind (ih.expr test) fun v _ => ?_
    cases no with
    | none =>
      split
      · exact (ih.stmt yes (child (.tail _ (.head _)))).mono fun r hr => by simp [mayEnd, hr]
      · exact pure rfl
    | some no =>
      split
      · exact (ih.stmt yes (child (.tail _ (.head _)))).mono fun r hr => by simp [mayEnd, hr]
      · exact (ih.stmt no (child (.tail _ (.tail _ (.head _))))).mono fun r hr => by
          simp [mayEnd, hr]
  | loop test body line => exact ih.loop test body line (child (.tail _ (.head _)))
  | repeatUntil body test line =>
    exact ih.repeatUntil body test line fun s hs =>
      child (List.mem_append_left _ (List.mem_map_of_mem hs))
  | fn h body => exact bind (change fun _ hm => hm.define hs) fun _ _ => pure rfl
  | block body _ => exact inFrame (ih.stmts body fun s hs => child (List.mem_map_of_mem hs))
  | ret value _ => exact bind (ih.expr value) fun v _ => pure rfl
  | brk _ | cont _ => exact pure rfl
  | print value line => exact bind (ih.expr value) fun v _ => bind (print _ _) fun _ _ => pure rfl
  | labeled _ body _ => exact ih.stmt body (child (.head _))
  | expr value _ => exact bind (ih.expr value) fun v _ => pure rfl

end FollowsAt

/-- **Statements end in the ways in which they may end.** -/
theorem followsAt (p : Program) (n : Nat) : FollowsAt p n := by
  induction n with
  | zero => exact .zero
  | succ n ih =>
    exact ⟨ih.expr_succ, ih.args_succ, ih.inits_succ, ih.stmt_succ, ih.stmts_succ, ih.loop_succ,
      ih.repeat_succ⟩

/-- Definitions of all functions of the machine. -/
def Machine.definitions (m : Machine) : Program :=
  m.functions.entries.map fun e => .fn e.2.header e.2.body

lemma Bindings.mem_of_get? {α : Type} {b : Bindings α} {name : String} {a : α}
    (h : b.get? name = some a) : (name, a) ∈ b.entries := by
  obtain ⟨es⟩ := b
  induction es with
  | nil => cases h
  | cons e es ih =>
    unfold get? find at h
    split at h
    · next he => cases h; exact he ▸ .head _
    · exact .tail _ (ih h)

lemma Machine.defined_definitions (m : Machine) (ss : List Stmt) :
    m.Defined (m.definitions ++ ss) := fun _ _ hd =>
  Node.stmt_mem_walk _ _ (List.mem_append_left _ (List.mem_map_of_mem (Bindings.mem_of_get? hd)))

/-- Statements end in these ways whatever functions there are. -/
lemma execStmts_mayEnd {n : Nat} {ss : List Stmt} {s : Signal} {m m' : Machine}
    (h : (execStmts n ss).run m = .done s m') : allMayEnd ss s.exit = true := by
  have hss : ∀ t ∈ ss, .stmt t ∈ (Node.program (m.definitions ++ ss)).walk :=
    fun t ht => Node.stmt_mem_walk _ t (List.mem_append_right _ ht)
  have hfollows := (followsAt (m.definitions ++ ss) n).stmts ss hss
  exact ((hfollows m (m.defined_definitions ss)).done h).2

/-- The same of the statements of a program. -/
lemma execProgram_follows {n : Nat} {ss : List Stmt}
    (hss : ∀ s ∈ ss, .stmt s ∈ (Node.program p).walk) :
    (execProgram n ss).Follows p fun _ => True := by
  induction ss with
  | nil => exact .pure trivial
  | cons s ss ih =>
    obtain ⟨hs, hss⟩ := List.forall_mem_cons.1 hss
    unfold execProgram
    refine .bind ((followsAt p n).stmt s hs) fun r _ => ?_
    cases r with
    | normal => exact ih hss
    | brk | cont | ret _ => exact .raise trivial

end Imperative
