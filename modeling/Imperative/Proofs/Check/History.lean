import Imperative.Proofs.Check.Inside
import Imperative.Proofs.Histories

/-!
A check does nothing to a table of symbols but operate on it.

So the table at each place of a program has a history that begins with the empty table, and no
global function is masked there.
-/

namespace Imperative

variable {t : SymbolTable} {c d : SymbolTable → Checked}

namespace SymbolTable.Reached

lemma run (h : t.Reached) (ops : List Op) : (t.run ops).Reached := by
  obtain ⟨before, rfl⟩ := h
  exact ⟨before ++ ops, run_append _ _ _⟩

lemma unmasked (h : t.Reached) : t.Unmasked := by
  obtain ⟨ops, rfl⟩ := h
  exact Unmasked.initial.run ops

end SymbolTable.Reached

namespace Check

open SymbolTable

/-- The check leaves a table that operations make of the one it is given. -/
def Operates (c : SymbolTable → Checked) : Prop := ∀ t, ∃ ops, (c t).symbols = t.run ops

namespace Operates

lemma still {find : SymbolTable → List Finding} : Operates fun t => ⟨t, find t⟩ :=
  fun _ => ⟨[], rfl⟩

lemma andThen (hc : Operates c) (hd : Operates d) : Operates fun t => (c t).andThen d := by
  intro t
  obtain ⟨ops, hops⟩ := hc t
  obtain ⟨ops', hops'⟩ := hd (c t).symbols
  refine ⟨ops ++ ops', ?_⟩
  rw [run_append, ← hops]
  exact hops'

lemma inScope (hc : Operates c) (label : ScopeLabel) : Operates (inScope label c) := by
  intro t
  obtain ⟨ops, hops⟩ := hc (t.push label)
  refine ⟨.push label :: ops ++ [.pop], ?_⟩
  rw [run_append]
  exact congrArg pop hops

lemma declare (name : String) (a : Symbol) (line : Nat) : Operates (declare name a line) :=
  fun t => ⟨[.declare name a], symbols_declare t name a line⟩

lemma inits (type : Ty) (is : List Init) : Operates (inits type is) := by
  induction is with
  | nil => exact still
  | cons i is ih => exact still.andThen ((declare i.name (.var type) i.line).andThen ih)

lemma params (ps : List Param) : Operates (params ps) := by
  induction ps with
  | nil => exact still
  | cons p ps ih => exact (declare p.name (.var p.type) p.line).andThen ih

lemma ret (value : Expr) (line : Nat) : Operates fun t => ret (value.type t) line t := by
  intro t
  simp only [ret_symbols]
  cases t.enclosingFunction? with
  | none => exact ⟨[], rfl⟩
  | some f => exact ⟨[.markReturned f], rfl⟩

lemma fn (h : FnHeader) {body : List Stmt} (hbody : Operates (stmts body)) :
    Operates (stmt (.fn h body)) := by
  intro t
  unfold stmt
  cases hu : t.declare h.name (.fn (signatureOf h)) with
  | error e => exact ⟨[], rfl⟩
  | ok u =>
    obtain ⟨ops, hops⟩ := ((params h.params).andThen hbody).inScope (.function h.name) u
    refine ⟨.declare h.name (.fn (signatureOf h)) :: ops, ?_⟩
    have hdeclared : t.run (.declare h.name (.fn (signatureOf h)) :: ops) = u.run ops :=
      congrArg (SymbolTable.run · ops) (after_of_ok hu)
    rw [hdeclared, ← hops]
    exact missingReturn_symbols h _

end Operates

mutual

/-- **All that a statement does to a table is to operate on it.** -/
theorem stmt_operates (s : Stmt) : Operates (stmt s) := by
  match s with
  | .decl type is _ => exact .inits type is
  | .assign .. | .brk _ | .cont _ | .print .. | .expr .. => exact .still
  | .cond _ yes none _ => exact Operates.still.andThen (stmt_operates yes)
  | .cond _ yes (some no) _ =>
    exact (Operates.still.andThen (stmt_operates yes)).andThen (stmt_operates no)
  | .loop _ body _ => exact Operates.still.andThen ((stmt_operates body).inScope .loop)
  | .repeatUntil body _ _ => exact ((stmts_operates body).inScope .loop).andThen .still
  | .fn h body => exact .fn h (stmts_operates body)
  | .block body _ => exact (stmts_operates body).inScope .block
  | .ret value line => exact Operates.still.andThen (.ret value line)
  | .labeled _ body _ => exact stmt_operates body

theorem stmts_operates (ss : List Stmt) : Operates (stmts ss) := by
  match ss with
  | [] => exact .still
  | s :: rest => exact (stmt_operates s).andThen (stmts_operates rest)

end

lemma Operates.reached (hc : Operates c) (h : t.Reached) : (c t).symbols.Reached := by
  obtain ⟨ops, hops⟩ := hc t
  exact hops ▸ h.run ops

end Check

/-- The table that a part is checked with comes from that of the whole. -/
lemma Task.parts_reached (h : t.Reached) (k : Task) : ∀ q ∈ k.parts t, q.1.Reached := by
  have push (label : ScopeLabel) : (t.push label).Reached := h.run [.push label]
  match k with
  | expr (.lit _) | expr (.var ..) | args [] | inits _ [] | stmts [] => exact List.forall_mem_nil _
  | stmt (.brk _) | stmt (.cont _) => exact List.forall_mem_nil _
  | expr (.bin ..) | args (_ :: _) | stmt (.cond _ _ none _) => exact forall_mem_pair h h
  | expr (.call ..) | stmt (.decl ..) | stmt (.assign ..) | stmt (.ret ..) | stmt (.print ..)
  | stmt (.expr ..) | stmt (.labeled ..) => exact List.forall_mem_singleton.2 h
  | inits type (i :: is) =>
    exact forall_mem_pair h ((Check.Operates.declare i.name (.var type) i.line).reached h)
  | stmts (s :: ss) => exact forall_mem_pair h ((Check.stmt_operates s).reached h)
  | stmt (.cond _ yes (some no) _) =>
    exact List.forall_mem_cons.2 ⟨h, forall_mem_pair h ((Check.stmt_operates yes).reached h)⟩
  | stmt (.loop ..) => exact forall_mem_pair h (push .loop)
  | stmt (.repeatUntil body _ _) =>
    exact forall_mem_pair (push .loop) (((Check.stmts_operates body).inScope .loop).reached h)
  | stmt (.block ..) => exact List.forall_mem_singleton.2 (push .block)
  | stmt (.fn header body) =>
    simp only [parts]
    split
    · next u hu =>
      have hfn : u.Reached := SymbolTable.after_of_ok hu ▸ h.run [.declare _ _]
      exact List.forall_mem_singleton.2 ((Check.Operates.params header.params).reached
        (hfn.run [.push (.function header.name)]))
    · exact List.forall_mem_nil _

variable {p : Program} {k : Task}

/-- **Operations lead to every table that a check comes by.** -/
theorem Seen.reached (h : Seen p t k) : t.Reached := by
  induction h with
  | program => exact ⟨[], rfl⟩
  | part _ hj ih => exact Task.parts_reached ih _ _ hj

/-- **At no place of a program is a global function masked.** -/
theorem Seen.unmasked (h : Seen p t k) : t.Unmasked := h.reached.unmasked

end Imperative
