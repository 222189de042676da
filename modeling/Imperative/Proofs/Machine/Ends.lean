import Imperative.Run
import Mathlib.Tactic.Lemma

/-!
What can be said of how a computation ends, construct by construct.
-/

namespace Imperative

variable {α β : Type}

/-- A result comes with a machine as `Q` says, and a fault with one as `E` says. Nothing is said of
a computation that runs out of fuel. -/
def Outcome.Ends (Q : α → Machine → Prop) (E : Fault → Machine → Prop) : Outcome α → Prop
  | done a m => Q a m
  | failed e m => E e.fault m
  | outOfFuel => True

def Outcome.isDone : Outcome α → Bool
  | done .. => true
  | _ => false

lemma Outcome.exists_done {o : Outcome α} (h : o.isDone = true) : ∃ a m, o = .done a m := by
  cases o with
  | done a m => exact ⟨a, m, rfl⟩
  | failed | outOfFuel => cases h

/-- The fault that stops a computation. -/
def Outcome.fault? : Outcome α → Option Fault
  | failed e _ => some e.fault
  | _ => none

lemma Outcome.fault?_eq_some {o : Outcome α} {f : Fault} (h : o.fault? = some f) :
    ∃ e m, o = .failed e m ∧ e.fault = f := by
  cases o with
  | failed e m => cases h; exact ⟨e, m, rfl, rfl⟩
  | done | outOfFuel => cases h

/-- The machine that a computation leaves, however it ends. -/
def Outcome.machine? : Outcome α → Option Machine
  | done _ m | failed _ m => some m
  | outOfFuel => none

/-- The fault that a run of a checked program ends with. -/
def RunOutcome.fault? : RunOutcome → Option Fault
  | failed e _ => some e.fault
  | _ => none

/-- Only a valid program is stopped in its run. -/
lemma run_fault {n : Nat} {p : Program} {file : String} {sink : Sink} {f : Fault}
    (h : (run n p file sink).fault? = some f) :
    (typeCheck p file).isValid = true ∧ (interpret n p file sink).fault? = some f := by
  unfold run at h
  by_cases hv : (typeCheck p file).isValid = true
  · rw [if_pos hv] at h
    cases hr : interpret n p file sink with
    | failed e m => rw [hr] at h; exact ⟨hv, h⟩
    | done | outOfFuel => rw [hr] at h; cases h
  · rw [if_neg hv] at h
    cases h

/-- The machine without its innermost frame. -/
def Machine.leave (m : Machine) : Machine := { m with memory := m.memory.pop }

/-- The machine with one more frame. -/
def Machine.enter (m : Machine) (f : Frame) : Machine := { m with memory := m.memory.push f }

/-- The same end after a frame has been given up. -/
def Outcome.leave : Outcome α → Outcome α
  | done a m => done a m.leave
  | failed e m => failed e m.leave
  | outOfFuel => outOfFuel

lemma Exec.run_inFrame (f : Frame) (x : Exec α) (m : Machine) :
    (Exec.inFrame f x).run m = (x.run (m.enter f)).leave := rfl

lemma Exec.run_print {text : String} {m : Machine} {s : Sink} {all : Bool}
    (h : m.sink.write (text ++ "\n") = (s, all)) (line : Nat) :
    (Exec.print text line).run m = if all then .done () { m with sink := s } else
      .failed ⟨.output s.refusal, ⟨line, m.file⟩⟩ { m with sink := s } := by
  show Exec.print text line m = _
  unfold Exec.print
  rw [h]
  cases all <;> rfl

lemma Exec.inFrame_done {f : Frame} {x : Exec α} {a : α} {m m' : Machine}
    (h : x.run (m.enter f) = .done a m') : (Exec.inFrame f x).run m = .done a m'.leave := by
  rw [run_inFrame, h]
  rfl

namespace Outcome.Ends

open Exec

variable {m : Machine} {P Q : α → Machine → Prop} {R : β → Machine → Prop}
  {E E' : Fault → Machine → Prop}

lemma done {o : Outcome α} {a : α} (h : o.Ends Q E) (ho : o = .done a m) : Q a m := by
  rw [ho] at h
  exact h

lemma failed {o : Outcome α} {e : RuntimeError} (h : o.Ends Q E) (ho : o = .failed e m) :
    E e.fault m := by
  rw [ho] at h
  exact h

lemma machine {o : Outcome α} {R : Machine → Prop} (h : o.Ends (fun _ => R) fun _ => R)
    (ho : o.machine? = some m) : R m := by
  cases o with
  | done a m' | failed e m' => cases ho; exact h
  | outOfFuel => cases ho

lemma mono {o : Outcome α} (h : o.Ends P E) (hQ : ∀ a m, P a m → Q a m)
    (hE : ∀ f m, E f m → E' f m) : o.Ends Q E' := by
  cases o with
  | done a m => exact hQ a m h
  | failed e m => exact hE e.fault m h
  | outOfFuel => trivial

lemma and {o : Outcome α} (h : o.Ends P E) (h' : o.Ends Q E') :
    o.Ends (fun a m => P a m ∧ Q a m) E := by
  cases o with
  | done a m => exact ⟨h, h'⟩
  | failed e m => exact h
  | outOfFuel => trivial

lemma bind {x : Exec α} {next : α → Exec β} (h : (x.run m).Ends P E)
    (hn : ∀ a m', P a m' → ((next a).run m').Ends R E) : ((x >>= next).run m).Ends R E := by
  rw [run_bind]
  cases hx : x.run m with
  | done a m' => rw [hx] at h; exact hn a m' h
  | failed e m' => rw [hx] at h; exact h
  | outOfFuel => trivial

lemma orRaise {r : Except Fault α} {line : Nat} (hok : ∀ a, r = .ok a → Q a m)
    (herr : ∀ f, r = .error f → E f m) : ((Exec.orRaise line r).run m).Ends Q E := by
  cases r with
  | ok a => exact hok a rfl
  | error f => exact herr f rfl

lemma inFrame {f : Frame} {x : Exec α}
    (h : (x.run (m.enter f)).Ends (fun a m' => Q a m'.leave) fun e m' => E e m'.leave) :
    ((Exec.inFrame f x).run m).Ends Q E := by
  rw [run_inFrame]
  cases hx : x.run (m.enter f) with
  | done a m' => rw [hx] at h; exact h
  | failed e m' => rw [hx] at h; exact h
  | outOfFuel => trivial

lemma print {text : String} {line : Nat} {R : Unit → Machine → Prop}
    (hok : ∀ s, R () { m with sink := s }) (herr : ∀ s r, E (.output r) { m with sink := s }) :
    ((Exec.print text line).run m).Ends R E := by
  rw [run_print rfl]
  split
  · exact hok _
  · exact herr _ _

end Outcome.Ends

end Imperative
