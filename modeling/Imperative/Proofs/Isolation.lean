import Imperative.Proofs.Frames

/-!
Calls do not see their callers.

What runs above the frame of a call is the same whatever frames there are beneath it, for neither
reading nor writing a name goes there. A call whose arguments are constants therefore comes to the
same from any two machines that differ in their frames above the global one alone.
-/

namespace Imperative

variable {α β : Type}

namespace Memory

/-- The frames of the memory with further ones beneath them, above the global one. -/
def atop (m : Memory) (fs : List Frame) : Memory := { m with inner := m.inner ++ fs }

/-- A call is under way. -/
def InCall (m : Memory) : Prop := ∃ f ∈ m.inner, f.kind = .call

variable {base : Frame} {m : Memory} {fs : List Frame} {name : String} {v : Value}

lemma lookupFrom_append {gs : List Frame} (h : ∃ f ∈ gs, f.kind = .call) :
    lookupFrom base name (gs ++ fs) = lookupFrom base name gs := by
  induction gs with
  | nil => obtain ⟨f, hf, -⟩ := h; cases hf
  | cons g gs ih =>
    rw [List.cons_append, lookupFrom, lookupFrom]
    by_cases hg : g.kind = .call
    · simp only [if_pos hg]
    · have hrest : ∃ f ∈ gs, f.kind = .call := by simpa [hg] using h
      simp only [if_neg hg, ih hrest]

lemma writeInner_append {gs : List Frame} (h : ∃ f ∈ gs, f.kind = .call) :
    writeInner name v (gs ++ fs) = (writeInner name v gs).map (· ++ fs) := by
  induction gs with
  | nil => obtain ⟨f, hf, -⟩ := h; cases hf
  | cons g gs ih =>
    rw [List.cons_append, writeInner, writeInner]
    by_cases hname : g.contains name = true
    · simp [hname]
    · by_cases hg : g.kind = .call
      · simp [hname, hg]
      · have hrest : ∃ f ∈ gs, f.kind = .call := by simpa [hg] using h
        rw [if_neg hname, if_neg hname, if_neg hg, if_neg hg, ih hrest]
        cases writeInner name v gs <;> rfl

namespace InCall

lemma push (f : Frame) (h : m.InCall) : (m.push f).InCall := by
  obtain ⟨g, hg, hc⟩ := h
  exact ⟨g, .tail _ hg, hc⟩

lemma inner_ne_nil (h : m.InCall) : m.inner ≠ [] := by
  obtain ⟨f, hf, -⟩ := h
  exact List.ne_nil_of_mem hf

lemma lookup_atop (h : m.InCall) (fs : List Frame) (name : String) :
    (m.atop fs).lookup name = m.lookup name := lookupFrom_append h

lemma declare_atop (h : m.InCall) (fs : List Frame) (name : String) (v : Value) :
    (m.atop fs).declare name v = (m.declare name v).atop fs := by
  rcases m with ⟨_ | ⟨f, gs⟩, base⟩
  · exact absurd rfl h.inner_ne_nil
  · rfl

lemma store_atop (h : m.InCall) (fs : List Frame) (name : String) (v : Value) :
    (m.atop fs).store name v = (m.store name v).atop fs :=
  store_reframe (· ++ fs) (lookupFrom_append h) fun _ => writeInner_append h

end InCall

end Memory

def Machine.atop (m : Machine) (fs : List Frame) : Machine := { m with memory := m.memory.atop fs }

def Machine.InCall (m : Machine) : Prop := m.memory.InCall

def Outcome.atop (fs : List Frame) : Outcome α → Outcome α
  | done a m => .done a (m.atop fs)
  | failed e m => .failed e (m.atop fs)
  | outOfFuel => .outOfFuel

/-- The kinds of the frames are never changed. -/
lemma Machine.Within.inCall {x : Extent} {m m' : Machine} (h : m.Within x m') (hm : m.InCall) :
    m'.InCall := by
  obtain ⟨f, hf, hc⟩ := hm
  have htitles := h.inner.confined.titles fun _ _ h => h.title
  have htitle : f.title ∈ m'.memory.inner.map Frame.title := htitles ▸ List.mem_map_of_mem hf
  obtain ⟨f', hf', heq⟩ := List.mem_map.1 htitle
  exact ⟨f', hf', (Frame.kind_eq heq).trans hc⟩

lemma Machine.leave_atop {m : Machine} (h : m.InCall) (fs : List Frame) :
    (m.atop fs).leave = m.leave.atop fs := by
  unfold atop leave Memory.atop Memory.pop
  rw [List.tail_append_of_ne_nil h.inner_ne_nil]

/-- The frame that is left is one of the machine's own, and not of those beneath. -/
lemma Outcome.leave_atop {o : Outcome α} {fs : List Frame}
    (h : ∀ m, o.machine? = some m → m.InCall) : (o.atop fs).leave = o.leave.atop fs := by
  cases o with
  | done a m => exact congrArg (Outcome.done a) (Machine.leave_atop (h m rfl) fs)
  | failed e m => exact congrArg (Outcome.failed e) (Machine.leave_atop (h m rfl) fs)
  | outOfFuel => rfl

namespace Exec

/-- Further frames beneath those of the machine make no difference to the computation. -/
def BlindAt (m : Machine) (c : Exec α) : Prop := ∀ fs, c.run (m.atop fs) = (c.run m).atop fs

namespace BlindAt

variable {m : Machine}

lemma pure (a : α) : (Pure.pure a : Exec α).BlindAt m := fun _ => rfl

lemma outOfFuel : (Exec.outOfFuel : Exec α).BlindAt m := fun _ => rfl

lemma raise (fault : Fault) (line : Nat) : (Exec.raise fault line : Exec α).BlindAt m :=
  fun _ => rfl

lemma orRaise (line : Nat) (r : Except Fault α) : (Exec.orRaise line r).BlindAt m := by
  cases r with
  | ok a => exact pure a
  | error f => exact raise f line

lemma bind {c : Exec α} {next : α → Exec β} (hc : c.BlindAt m)
    (hn : ∀ a m', c.run m = .done a m' → (next a).BlindAt m') : (c >>= next).BlindAt m := by
  intro fs
  rw [run_bind, run_bind, hc fs]
  cases hr : c.run m with
  | done a m' => exact hn a m' hr fs
  | failed | outOfFuel => rfl

lemma find {o : Machine → Option α} (h : ∀ fs, o (m.atop fs) = o m) (fault : Fault) (line : Nat) :
    (Exec.find o fault line).BlindAt m := by
  intro fs
  rw [run_find, run_find, h fs]
  cases o m <;> rfl

lemma callee (name : String) (line : Nat) : (Exec.callee name line).BlindAt m :=
  find (fun _ => rfl) _ line

lemma taken (d : FnDecl) (line : Nat) (s : Signal) : (Exec.taken d line s).BlindAt m := by
  cases s with
  | ret v => exact pure v
  | normal | brk | cont => exact raise _ line

lemma changeMemory {f : Memory → Memory}
    (h : ∀ fs, f (m.memory.atop fs) = (f m.memory).atop fs) : (Exec.changeMemory f).BlindAt m :=
  fun fs => congrArg (fun s => Outcome.done () { m with memory := s }) (h fs)

lemma print (text : String) (line : Nat) : (Exec.print text line).BlindAt m := by
  intro fs
  have hwrite : (m.atop fs).sink.write (text ++ "\n") = m.sink.write (text ++ "\n") := rfl
  rw [run_print hwrite, run_print rfl]
  split <;> rfl

lemma inFrame {f : Frame} {c : Exec α} (hc : c.BlindAt (m.enter f))
    (hm : ∀ m', (c.run (m.enter f)).machine? = some m' → m'.InCall) :
    (Exec.inFrame f c).BlindAt m := by
  intro fs
  have hrun : c.run ((m.atop fs).enter f) = (c.run (m.enter f)).atop fs := hc fs
  rw [run_inFrame, run_inFrame, hrun, Outcome.leave_atop hm]

end BlindAt

/-- During a call the computation is blind to the frames of the callers. -/
structure Isolated (x : Extent) (c : Exec α) : Prop where
  /-- So the call is still under way afterwards. -/
  within : confinement.Keeps x c
  blind : ∀ m, m.InCall → c.BlindAt m

lemma Isolated.inFrame {x : Extent} {f : Frame} {c : Exec α} {m : Machine} (hc : c.Isolated x)
    (hm : (m.enter f).InCall) : (Exec.inFrame f c).BlindAt m :=
  (hc.blind _ hm).inFrame fun _ h => ((hc.within _).machine h).inCall hm

end Exec

open Exec

/-- The discipline that the callers are kept to. -/
def isolation : Discipline where
  Keeps x _ c := c.Isolated x
  mono_nothing h := ⟨confinement.discipline.mono_nothing h.within, h.blind⟩
  mono_values h := ⟨confinement.discipline.mono_values h.within, h.blind⟩
  pure a := ⟨confinement.discipline.pure a, fun _ _ => .pure a⟩
  bind hc hn := ⟨hc.within.bind fun a => (hn a).within, fun m hm => (hc.blind m hm).bind
    fun a m' hr => (hn a).blind m' (((hc.within m).done hr).inCall hm)⟩
  outOfFuel := ⟨confinement.discipline.outOfFuel, fun _ _ => .outOfFuel⟩
  raise fault line := ⟨confinement.discipline.raise fault line, fun _ _ => .raise fault line⟩
  read name line := ⟨confinement.discipline.read name line, fun _ hm =>
    .find (fun fs => hm.lookup_atop fs name) _ line⟩
  callee name line := ⟨confinement.discipline.callee name line, fun _ _ => .callee name line⟩
  call h vs _ hc := ⟨confinement.discipline.call h vs hc.within, fun _ hm =>
    hc.inFrame (hm.push (callFrame h vs))⟩
  scope name _ hc := ⟨confinement.discipline.scope name hc.within, fun _ hm =>
    hc.inFrame (hm.push (.block name))⟩
  declare name v := ⟨confinement.discipline.declare name v, fun _ hm =>
    .changeMemory fun fs => hm.declare_atop fs name v⟩
  store name v := ⟨confinement.discipline.store name v, fun _ hm =>
    .changeMemory fun fs => hm.store_atop fs name v⟩
  define h body := ⟨confinement.discipline.define h body, fun _ _ _ => rfl⟩
  print text line := ⟨confinement.discipline.print text line, fun _ _ => .print text line⟩

variable {m : Machine}

lemma literals_blind (n : Nat) (ls : List Literal) :
    (evalArgs n (ls.map .lit)).BlindAt m := by
  induction ls generalizing n m with
  | nil =>
    cases n with
    | zero => exact .outOfFuel
    | succ n => exact .pure []
  | cons l ls ih =>
    cases n with
    | zero => exact .outOfFuel
    | succ n =>
      have hl : (evalExpr n (.lit l)).BlindAt m := by
        cases n with
        | zero => exact .outOfFuel
        | succ n => exact .orRaise l.line _
      exact hl.bind fun v m' _ => (ih n).bind fun vs m'' _ => .pure (v :: vs)

lemma call_blind (n : Nat) (name : String) (ls : List Literal) (line : Nat) :
    (evalExpr n (.call name (ls.map .lit) line)).BlindAt m := by
  cases n with
  | zero => exact .outOfFuel
  | succ n =>
    rw [evalExpr_call]
    -- Other arguments than constants are evaluated before the call and may read its caller.
    refine .bind (.callee name line) fun d m₁ _ => .bind (literals_blind n ls) fun vs m₂ _ => ?_
    have hbody : (execStmts n d.body).Isolated .names := (isolation.keptAt n).stmts d.body
    have hcall : (m₂.enter (callFrame d.header vs)).InCall :=
      ⟨_, .head _, kind_callFrame d.header vs⟩
    exact (hbody.inFrame hcall).bind fun s m₃ _ => .taken d line s

/-- The machines differ in their frames above the global one at most. -/
structure Machine.Alike (m m' : Machine) : Prop where
  base : m'.memory.base = m.memory.base
  functions : m'.functions = m.functions
  sink : m'.sink = m.sink
  file : m'.file = m.file

/-- The computations come to the same, with machines that are alike. -/
def Outcome.Alike : Outcome α → Outcome α → Prop
  | done a m, done a' m' => a' = a ∧ m.Alike m'
  | failed e m, failed e' m' => e' = e ∧ m.Alike m'
  | outOfFuel, outOfFuel => True
  | _, _ => False

lemma Outcome.atop_alike (o : Outcome α) (fs fs' : List Frame) :
    (o.atop fs).Alike (o.atop fs') := by
  cases o with
  | done a m | failed e m => exact ⟨rfl, rfl, rfl, rfl, rfl⟩
  | outOfFuel => trivial

lemma Machine.Alike.atop {m' : Machine} (h : m.Alike m') :
    ∃ (m₀ : Machine) (fs fs' : List Frame), m = m₀.atop fs ∧ m' = m₀.atop fs' := by
  refine ⟨{ m with memory := ⟨[], m.memory.base⟩ }, m.memory.inner, m'.memory.inner, rfl, ?_⟩
  rcases m with ⟨⟨_, base⟩, functions, sink, file⟩
  rcases m' with ⟨⟨_, base'⟩, functions', sink', file'⟩
  obtain ⟨rfl, rfl, rfl, rfl⟩ := h
  rfl

/-- **Calls do not see their callers.** From two machines that differ in their frames above the
global one at most, a call with constants for arguments comes to the same at every depth: both run
out of fuel, or both end with the same value or the same error, and with machines that are alike. -/
theorem calls_are_isolated {m m' : Machine} (h : m.Alike m') (n : Nat) (name : String)
    (ls : List Literal) (line : Nat) :
    ((evalExpr n (.call name (ls.map .lit) line)).run m).Alike
      ((evalExpr n (.call name (ls.map .lit) line)).run m') := by
  obtain ⟨m₀, fs, fs', rfl, rfl⟩ := h.atop
  rw [call_blind n name ls line fs, call_blind n name ls line fs']
  exact Outcome.atop_alike _ fs fs'

/-- The same machine without the frames of the caller. -/
def calledFromProgram : Machine :=
  { calledFromBlock with memory := ⟨[], calledFromBlock.memory.base⟩ }

theorem calls_are_isolated_writing : calledFromBlock.Alike calledFromProgram ∧
    ((evalExpr 12 (.call "f" [.lit ⟨.int, "3", 5⟩] 5)).run calledFromBlock).machine?.isSome = true ∧
    ((evalExpr 12 (.call "f" [.lit ⟨.int, "3", 5⟩] 5)).run calledFromBlock).Alike
      ((evalExpr 12 (.call "f" [.lit ⟨.int, "3", 5⟩] 5)).run calledFromProgram) := by
  have halike : calledFromBlock.Alike calledFromProgram := ⟨rfl, rfl, rfl, rfl⟩
  refine ⟨halike, ?_, calls_are_isolated halike 12 "f" [⟨.int, "3", 5⟩] 5⟩
  decide +kernel

end Imperative
