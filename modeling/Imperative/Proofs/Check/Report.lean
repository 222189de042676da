import Imperative.Proofs.Check.Nodes
import Imperative.Proofs.Check.Noting

/-!
What a check reports, place by place: the diagnostics of a program are what is wrong at the places
that the check comes by, and it comes by all places if no function is refused its name.
-/

namespace Imperative

variable {p : Program} {t u : SymbolTable} {k : Task} {f : Finding}

namespace Task

/-- What is wrong with the task itself, its parts apart. -/
def reports (t : SymbolTable) : Task → List Finding
  | expr (.lit _) | args _ | inits _ [] | stmts _ => []
  | expr (.var name line) => Expr.nameFindings t name line
  | expr (.bin op l r line) => Expr.operandFindings op (l.type t) (r.type t) line
  | expr (.call name es line) => Expr.callFindings t name (es.map (Expr.type t)) line
  | inits type (i :: _) =>
    storeFindings type (i.value.type t) i.line ++
      (Check.declare i.name (.var type) i.line t).findings
  | stmt (.assign name e line) => Check.assignFindings name e line t
  | stmt (.fn h body) =>
    match t.declare h.name (.fn (Check.signatureOf h)) with
    | .error e => [⟨e.problem t.isGlobal, h.line⟩]
    | .ok u =>
      (Check.params h.params (u.push (.function h.name))).findings ++
        (Check.missingReturn h (Check.stmts body (Check.entry h u)).symbols.pop).findings
  | stmt (.ret e line) => (Check.ret (e.type t) line t).findings
  | stmt (.brk line) => (Check.jump .breakOutsideLoop line t).findings
  | stmt (.cont line) => (Check.jump .continueOutsideLoop line t).findings
  | stmt _ => []

/-- **What a check finds is wrong with the task itself or with one of its parts.** -/
theorem mem_findings : f ∈ (k.check t).findings ↔
    f ∈ k.reports t ∨ ∃ q ∈ k.parts t, f ∈ (q.2.check q.1).findings := by
  match k with
  | expr (.lit _) | expr (.var ..) | args [] | inits _ [] | stmts [] | stmt (.brk _)
  | stmt (.cont _) =>
    simp [check, reports, parts, Check.expr, Check.inits, Check.stmts, Check.stmt, Expr.findings,
      Expr.argsFindings]
  | expr (.bin ..) | expr (.call ..) | args (_ :: _) | inits _ (_ :: _) | stmts (_ :: _)
  | stmt (.decl ..) | stmt (.assign ..) | stmt (.cond _ _ none _) | stmt (.cond _ _ (some _) _)
  | stmt (.loop ..) | stmt (.repeatUntil ..) | stmt (.block ..) | stmt (.ret ..)
  | stmt (.print ..) | stmt (.labeled ..) | stmt (.expr ..) =>
    simp only [parts, List.mem_cons, List.not_mem_nil, or_false, exists_eq_or_imp, exists_eq_left]
    simp only [check, reports, Check.expr, Check.inits, Check.stmts, Check.stmt, Check.inScope,
      Checked.andThen, Expr.findings, Expr.argsFindings, List.mem_append, List.not_mem_nil]
    tauto
  | stmt (.fn h body) =>
    show f ∈ (Check.stmt (.fn h body) t).findings ↔ _
    cases hu : t.declare h.name (.fn (Check.signatureOf h)) with
    | error => simp [Check.stmt, reports, parts, hu]
    | ok u =>
      simp only [Check.stmt, reports, parts, hu, List.mem_singleton, exists_eq_left]
      simp only [check, Check.inScope, Checked.andThen, Check.entry, List.mem_append]
      tauto

/-- **A task passes if nothing but warnings is said of it and its parts pass.** -/
theorem passes_iff_parts : k.Passes t ↔ (∀ f ∈ k.reports t, f.problem.isError = false) ∧
    ∀ q ∈ k.parts t, q.2.Passes q.1 := by
  constructor
  · exact fun h => ⟨fun f hf => h f (mem_findings.2 (.inl hf)), h.parts⟩
  · rintro ⟨hself, hparts⟩ f hf
    rcases mem_findings.1 hf with hf | ⟨q, hq, hf⟩
    · exact hself f hf
    · exact hparts q hq f hf

/-- A function that passes has a return of its own. -/
lemma Passes.returns {header : FnHeader} {body : List Stmt}
    (h : (stmt (.fn header body)).Passes t) (hu : t.declare header.name
      (.fn (Check.signatureOf header)) = .ok u) : Stmt.returns (Stmt.ownIn body) = true := by
  by_contra hr
  rw [Bool.not_eq_true] at hr
  have hmissing : ⟨.missingReturn header.name header.returnType, header.bodyLine⟩ ∈
      (stmt (.fn header body)).reports t := by
    simp only [reports, hu, Check.missingReturn, Check.body_unreturned hu hr]
    exact List.mem_append_right _ (.head _)
  exact nomatch (passes_iff_parts.1 h).1 _ hmissing

/-- A part is smaller than the whole. -/
lemma sizeOf_parts : ∀ q ∈ k.parts t, sizeOf q.2 < sizeOf k := by
  match k with
  | expr (.lit _) | expr (.var ..) | args [] | inits _ [] | stmts [] => exact List.forall_mem_nil _
  | stmt (.brk _) | stmt (.cont _) => exact List.forall_mem_nil _
  | expr (.bin ..) | args (_ :: _) | stmts (_ :: _) | stmt (.cond _ _ none _) | stmt (.loop ..)
  | stmt (.repeatUntil ..) => refine forall_mem_pair ?_ ?_ <;> simp <;> omega
  | inits _ (⟨_, _, _⟩ :: _) =>
    refine forall_mem_pair ?_ ?_
    · simp only [expr.sizeOf_spec, inits.sizeOf_spec, List.cons.sizeOf_spec, Init.mk.sizeOf_spec]
      omega
    · simp only [inits.sizeOf_spec, List.cons.sizeOf_spec]
      omega
  | expr (.call ..) | stmt (.decl ..) | stmt (.assign ..) | stmt (.ret ..) | stmt (.print ..)
  | stmt (.expr ..) | stmt (.labeled ..) | stmt (.block ..) =>
    refine List.forall_mem_singleton.2 ?_
    simp
    omega
  | stmt (.cond _ _ (some _) _) =>
    refine List.forall_mem_cons.2 ⟨?_, forall_mem_pair ?_ ?_⟩ <;> simp <;> omega
  | stmt (.fn h body) =>
    simp only [parts]
    split
    · refine List.forall_mem_singleton.2 ?_
      simp only [stmt.sizeOf_spec, stmts.sizeOf_spec, Stmt.fn.sizeOf_spec]
      omega
    · exact List.forall_mem_nil _

end Task

lemma Seen.findings (h : Seen p t k) (hf : f ∈ k.reports t) :
    f ∈ (Check.stmts p .initial).findings := by
  have hin : ∀ f ∈ (k.check t).findings, f ∈ (Check.stmts p .initial).findings := by
    clear hf
    induction h with
    | program => exact fun _ => id
    | part _ hj ih => exact fun f hf => ih f (Task.mem_findings.2 (.inr ⟨_, hj, hf⟩))
  exact hin f (Task.mem_findings.2 (.inl hf))

lemma Seen.of_findings {t : SymbolTable} {k : Task} (h : Seen p t k)
    (hf : f ∈ (k.check t).findings) :
    ∃ u j, Seen p u j ∧ f ∈ j.reports u := by
  rcases Task.mem_findings.1 hf with hf | ⟨q, hq, hf⟩
  · exact ⟨t, k, h, hf⟩
  · exact (h.part hq).of_findings hf
termination_by sizeOf k
decreasing_by exact Task.sizeOf_parts _ hq

/-- **The diagnostics of a program are what is wrong at the places that the check comes by.** -/
theorem mem_diagnostics {file : String} {d : Diagnostic} : d ∈ (typeCheck p file).diagnostics ↔
    ∃ t k f, Seen p t k ∧ f ∈ k.reports t ∧ d = ⟨f.problem, ⟨f.line, file⟩⟩ := by
  rw [typeCheck_eq, List.mem_map]
  constructor
  · rintro ⟨f, hf, rfl⟩
    obtain ⟨t, k, hs, hk⟩ := Seen.of_findings .program hf
    exact ⟨t, k, f, hs, hk, rfl⟩
  · rintro ⟨t, k, f, hs, hk, rfl⟩
    exact ⟨f, hs.findings hk, rfl⟩

/-- No function is refused its name. -/
def Accepted (p : Program) : Prop := ∀ t h body, Seen p t (.stmt (.fn h body)) →
  ∃ u, t.declare h.name (.fn (Check.signatureOf h)) = .ok u

/-- Only a duplicate is refused as the name of a function. -/
lemma accepted_of_diagnostics {file : String}
    (h : ∀ d ∈ (typeCheck p file).diagnostics, ∀ name, d.problem ≠ .duplicateDeclaration name) :
    Accepted p := by
  intro t header body hs
  cases hu : t.declare header.name (.fn (Check.signatureOf header)) with
  | ok u => exact ⟨u, rfl⟩
  | error e =>
    have hd : ⟨e.problem t.isGlobal, ⟨header.line, file⟩⟩ ∈ (typeCheck p file).diagnostics :=
      mem_diagnostics.2 ⟨t, _, ⟨e.problem t.isGlobal, header.line⟩, hs, by simp [Task.reports, hu],
        rfl⟩
    rcases SymbolTable.declare_error hu with ⟨hs, -⟩ | ⟨-, rfl⟩
    · cases hs
    · exact (h _ hd header.name rfl).elim

namespace Node

/-- The check comes by the node. -/
def Seen (p : Program) : Node → Prop
  | program q => Imperative.Seen p .initial (.stmts q)
  | stmt s => ∃ t, Imperative.Seen p t (.stmt s)
  | expr e => ∃ t, Imperative.Seen p t (.expr e)

lemma seen_stmts {ss : List Stmt} (h : Imperative.Seen p t (.stmts ss)) :
    ∀ c ∈ ss.map stmt, c.Seen p := by
  induction ss generalizing t with
  | nil => exact List.forall_mem_nil _
  | cons s ss ih =>
    exact List.forall_mem_cons.2 ⟨⟨t, h.part (.head _)⟩, ih (h.part (.tail _ (.head _)))⟩

lemma seen_args {es : List Expr} (h : Imperative.Seen p t (.args es)) :
    ∀ c ∈ es.map expr, c.Seen p := by
  induction es with
  | nil => exact List.forall_mem_nil _
  | cons e es ih =>
    exact List.forall_mem_cons.2 ⟨⟨t, h.part (.head _)⟩, ih (h.part (.tail _ (.head _)))⟩

lemma seen_inits {type : Ty} {is : List Init} (h : Imperative.Seen p t (.inits type is)) :
    ∀ c ∈ is.map fun i => expr i.value, c.Seen p := by
  induction is generalizing t with
  | nil => exact List.forall_mem_nil _
  | cons i is ih =>
    exact List.forall_mem_cons.2 ⟨⟨t, h.part (.head _)⟩, ih (h.part (.tail _ (.head _)))⟩

/-- From a node the check goes on to all nodes below it. -/
lemma Seen.children (hp : Accepted p) {n : Node} (h : n.Seen p) : ∀ c ∈ n.children, c.Seen p := by
  have one {u : SymbolTable} {k : Task} (hk : Imperative.Seen p u k) {v : SymbolTable} {e : Expr}
      (he : (v, .expr e) ∈ k.parts u) : (expr e).Seen p := ⟨v, hk.part he⟩
  match n with
  | program q => exact seen_stmts h
  | expr (.lit _) | expr (.var ..) => exact List.forall_mem_nil _
  | expr (.bin ..) =>
    obtain ⟨t, h⟩ := h
    exact Task.forall_mem_pair (one h (.head _)) (one h (.tail _ (.head _)))
  | expr (.call ..) =>
    obtain ⟨t, h⟩ := h
    exact seen_args (h.part (.head _))
  | stmt s =>
    obtain ⟨t, h⟩ := h
    match s with
    | .decl .. => exact seen_inits (h.part (.head _))
    | .cond _ yes none _ | .loop _ body _ =>
      exact Task.forall_mem_pair (one h (.head _)) ⟨_, h.part (.tail _ (.head _))⟩
    | .cond _ yes (some no) _ =>
      exact List.forall_mem_cons.2 ⟨one h (.head _), Task.forall_mem_pair
        ⟨_, h.part (.tail _ (.head _))⟩ ⟨_, h.part (.tail _ (.tail _ (.head _)))⟩⟩
    | .repeatUntil .. =>
      exact List.forall_mem_append.2 ⟨seen_stmts (h.part (.head _)),
        List.forall_mem_singleton.2 (one h (.tail _ (.head _)))⟩
    | .fn header body =>
      obtain ⟨u, hu⟩ := hp t header body h
      exact seen_stmts (h.part (u := Check.entry header u) (by simp [Task.parts, hu]))
    | .block .. => exact seen_stmts (h.part (.head _))
    | .assign .. | .ret .. | .print .. | .expr .. =>
      exact List.forall_mem_singleton.2 (one h (.head _))
    | .labeled .. => exact List.forall_mem_singleton.2 ⟨_, h.part (.head _)⟩
    | .brk _ | .cont _ => exact List.forall_mem_nil _

end Node

/-- **The check comes by all nodes of the program.** -/
theorem Accepted.seen (hp : Accepted p) : ∀ n ∈ (Node.program p).walk, n.Seen p := by
  have below (n : Node) : n.Seen p → ∀ c ∈ n.walk, c.Seen p := by
    induction n using Node.walk.induct with
    | case1 n ih =>
      intro hn c hc
      rw [Node.walk_eq] at hc
      rcases List.mem_cons.1 hc with rfl | hc
      · exact hn
      · obtain ⟨q, hq, hc⟩ := List.mem_flatMap.1 hc
        exact ih ⟨q, hq⟩ (hn.children hp q hq) c hc
  exact below (.program p) .program

end Imperative
