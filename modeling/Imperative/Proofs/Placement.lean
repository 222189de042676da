import Imperative.Proofs.Check.Expression

/-!
Where jumps and returns may stand.

A check finds out from the scopes around a place whether a loop of the function at hand, or a
function, encloses it. A walk over the tree that looks at no names comes to the same.
-/

namespace Imperative

/-- The problem is one with the place of a jump or a return, whatever else is right about it. -/
def Problem.isPlacement : Problem → Bool
  | breakOutsideLoop | continueOutsideLoop | returnOutsideFunction => true
  | _ => false

namespace Stmt

mutual

/-- The jumps in the statement that no loop of their function encloses, and the returns that no
function encloses, in source order. -/
def misplaced (inLoop inFunction : Bool) : Stmt → List Finding
  | brk line => if inLoop then [] else [⟨.breakOutsideLoop, line⟩]
  | cont line => if inLoop then [] else [⟨.continueOutsideLoop, line⟩]
  | ret _ line => if inFunction then [] else [⟨.returnOutsideFunction, line⟩]
  | loop _ body _ => body.misplaced true inFunction
  | repeatUntil body _ _ => misplacedIn true inFunction body
  | fn _ body => misplacedIn false true body
  | cond _ yes none _ => yes.misplaced inLoop inFunction
  | cond _ yes (some no) _ => yes.misplaced inLoop inFunction ++ no.misplaced inLoop inFunction
  | block body _ => misplacedIn inLoop inFunction body
  | labeled _ body _ => body.misplaced inLoop inFunction
  | decl .. | assign .. | print .. | expr .. => []

def misplacedIn (inLoop inFunction : Bool) : List Stmt → List Finding
  | [] => []
  | s :: rest => s.misplaced inLoop inFunction ++ misplacedIn inLoop inFunction rest

end

end Stmt

/-- The findings about the places of jumps and returns. -/
def placements (fs : List Finding) : List Finding := fs.filter fun f => f.problem.isPlacement

@[simp] lemma placements_append (fs gs : List Finding) :
    placements (fs ++ gs) = placements fs ++ placements gs := List.filter_append ..

@[simp] lemma placements_andThen (c : Checked) (next : SymbolTable → Checked) :
    placements (c.andThen next).findings =
      placements c.findings ++ placements (next c.symbols).findings := placements_append ..

namespace Task

variable {t : SymbolTable} {k : Task} {f : Finding}

/-- The task is a jump or a return. -/
def Leaves : Task → Prop
  | stmt (.ret ..) | stmt (.brk _) | stmt (.cont _) => True
  | _ => False

lemma Found.not_placement (h : Found t k f) (hk : ¬ k.Leaves) :
    f.problem.isPlacement = false := by
  cases h with
  | initValue hf | assigned _ hf =>
    obtain ⟨-, -, -, hproblem | hproblem⟩ := mem_storeFindings hf <;> rw [hproblem] <;> rfl
  | initName hf | param _ hf =>
    obtain ⟨-, hproblem | hproblem⟩ := mem_declare hf <;> rw [hproblem] <;> rfl
  | outside | returned | brk | cont => exact (hk trivial).elim
  | _ => rfl

/-- **Places are at issue at jumps and returns only.** -/
lemma placements_reports (hk : ¬ k.Leaves) : placements (k.reports t) = [] :=
  List.filter_eq_nil_iff.2 fun _ hf => ne_true_of_eq_false ((found_of_mem hf).not_placement hk)

end Task

@[simp] lemma placements_expr (t : SymbolTable) (e : Expr) : placements (e.findings t) = [] := by
  refine List.filter_eq_nil_iff.2 fun f hf => ne_true_of_eq_false ?_
  obtain ⟨d, -, hd⟩ := Expr.found_of_mem_findings hf
  exact hd.not_placement id

namespace Check

variable {p : Program} {t u : SymbolTable}

lemma placements_inits (type : Ty) (is : List Init) (t : SymbolTable) :
    placements (inits type is t).findings = [] := by
  induction is generalizing t with
  | nil => rfl
  | cons i is ih =>
    have hi := Task.placements_reports (t := t) (k := .inits type (i :: is)) id
    rw [Task.reports, placements_append] at hi
    simp only [inits, placements_andThen, placements_append, placements_expr, List.nil_append, ih,
      List.append_nil]
    exact hi

lemma placements_jump (problem : Problem) (line : Nat) (t : SymbolTable)
    (hp : problem.isPlacement = true) :
    placements (jump problem line t).findings = if t.inLoop then [] else [⟨problem, line⟩] := by
  unfold jump placements
  split
  · rfl
  · exact List.filter_cons_of_pos hp

lemma placements_ret (received : Ty) (line : Nat) (t : SymbolTable) :
    placements (ret received line t).findings =
      if t.enclosingFunction?.isSome then [] else [⟨.returnOutsideFunction, line⟩] := by
  unfold ret
  split
  · next hnone => rw [hnone]; rfl
  · next function hsome =>
    rw [hsome, Option.isSome_some, if_pos rfl]
    split
    · rfl
    · dsimp only
      split <;> rfl

/-- A body is checked in no loop and in its function. -/
lemma entry_place (h : FnHeader) (u : SymbolTable) :
    (entry h u).inLoop = false ∧ (entry h u).enclosingFunction? = some h.name := by
  have hext := params_extends h.params (u.push (.function h.name))
  exact ⟨hext.inLoop_eq, hext.enclosingFunction?_eq⟩

mutual

/-- **A statement is said to have the misplaced jumps and returns that it has**, if all bodies in it
are checked. -/
theorem stmt_placements (hp : Accepted p) (s : Stmt) {t : SymbolTable}
    (hs : Seen p t (.stmt s)) : placements (stmt s t).findings =
      s.misplaced t.inLoop t.enclosingFunction?.isSome := by
  match s with
  | .decl type is _ => exact placements_inits type is t
  | .assign name e line =>
    have hassign := Task.placements_reports (t := t) (k := .stmt (.assign name e line)) id
    simp only [stmt, placements_append, placements_expr, List.nil_append]
    exact hassign
  | .print e _ | .expr e _ => exact placements_expr t e
  | .cond test yes none _ =>
    simp only [stmt, placements_andThen, expr, placements_expr, List.nil_append]
    exact stmt_placements hp yes (hs.part (.tail _ (.head _)))
  | .cond test yes (some no) _ =>
    have hyes := stmt_placements hp yes (hs.part (.tail _ (.head _)))
    have hno := stmt_placements hp no (hs.part (.tail _ (.tail _ (.head _))))
    have hext := stmt_extends yes t
    rw [hext.inLoop_eq, hext.enclosingFunction?_eq] at hno
    simp only [stmt, placements_andThen, expr, placements_expr, List.nil_append]
    exact congrArg₂ _ hyes hno
  | .loop test body _ =>
    simp only [stmt, placements_andThen, expr, placements_expr, List.nil_append]
    exact stmt_placements hp body (hs.part (.tail _ (.head _)))
  | .repeatUntil body test _ =>
    simp only [stmt, placements_andThen, expr, placements_expr, List.append_nil]
    exact stmts_placements hp body (hs.part (.head _))
  | .block body _ => exact stmts_placements hp body (hs.part (.head _))
  | .labeled _ body _ => exact stmt_placements hp body (hs.part (.head _))
  | .fn h body =>
    obtain ⟨u, hu⟩ := hp t h body hs
    have hbody := stmts_placements hp body
      (hs.part (u := entry h u) (by simp only [Task.parts, hu, List.mem_singleton]))
    have hself := Task.placements_reports (t := t) (k := .stmt (.fn h body)) id
    simp only [Task.reports, hu, placements_append, List.append_eq_nil_iff] at hself
    obtain ⟨hloop, hfunction⟩ := entry_place h u
    rw [hloop, hfunction] at hbody
    simp only [stmt, hu, inScope, placements_andThen, hself.1, List.nil_append]
    rw [← List.append_nil (Stmt.misplaced _ _ _)]
    exact congrArg₂ _ hbody hself.2
  | .ret e line =>
    simp only [stmt, placements_andThen, expr, placements_expr, List.nil_append]
    exact placements_ret _ line t
  | .brk line => exact placements_jump _ line t rfl
  | .cont line => exact placements_jump _ line t rfl

theorem stmts_placements (hp : Accepted p) (ss : List Stmt) {t : SymbolTable}
    (hs : Seen p t (.stmts ss)) : placements (stmts ss t).findings =
      Stmt.misplacedIn t.inLoop t.enclosingFunction?.isSome ss := by
  match ss with
  | [] => rfl
  | s :: rest =>
    have hhead := stmt_placements hp s (hs.part (.head _))
    have hrest := stmts_placements hp rest (hs.part (.tail _ (.head _)))
    have hext := stmt_extends s t
    rw [hext.inLoop_eq, hext.enclosingFunction?_eq] at hrest
    simp only [stmts, placements_andThen]
    exact congrArg₂ _ hhead hrest

end

end Check

/-- **Placement is read off the syntax**: in a program without duplicate declarations, whatever else
is wrong with it, the reports of misplaced jumps and returns are those of the walk over its tree,
line by line and in order. -/
theorem placements_match_syntax {p : Program} {file : String}
    (hd : ∀ d ∈ (typeCheck p file).diagnostics, ∀ name, d.problem ≠ .duplicateDeclaration name) :
    ((typeCheck p file).diagnostics.filter fun d => d.problem.isPlacement) =
      (Stmt.misplacedIn false false p).map fun f => ⟨f.problem, ⟨f.line, file⟩⟩ := by
  have hwalk := Check.stmts_placements (accepted_of_diagnostics hd) p .program
  rw [typeCheck_eq, List.filter_map]
  exact congrArg _ hwalk

/-- Jumps in a loop, in a function inside the loop, and in a loop inside that one; a sum that cannot
be formed; and a return that stands last. -/
def straying : Program :=
  [.loop (.lit ⟨.int, "1", 1⟩)
      (.block
        [.fn ⟨"f", .int, [], 2, 2⟩
            [.brk 3,
              .repeatUntil [.cond (.lit ⟨.int, "1", 4⟩) (.cont 4) (some (.brk 5)) 4]
                (.lit ⟨.int, "1", 6⟩) 4,
              .labeled "l" (.cont 7) 7,
              .ret (.bin .sub (.lit ⟨.string, "\"a\"", 8⟩) (.lit ⟨.int, "1", 8⟩) 8) 8],
          .brk 9] 1) 1,
    .ret (.var "x" 10) 10]

theorem placements_match_syntax_straying :
    ((typeCheck straying "f").diagnostics.map fun d => (d.problem, d.position.line)) =
      [(.breakOutsideLoop, 3), (.continueOutsideLoop, 7),
        (.illegalOperation .string "-" .int, 8), (.undeclaredName "x" true, 10),
        (.returnOutsideFunction, 10)] ∧
    (Stmt.misplacedIn false false straying).map (fun f => (f.problem, f.line)) =
      [(.breakOutsideLoop, 3), (.continueOutsideLoop, 7), (.returnOutsideFunction, 10)] ∧
    ((typeCheck straying "f").diagnostics.filter fun d => d.problem.isPlacement) =
      (Stmt.misplacedIn false false straying).map fun f => ⟨f.problem, ⟨f.line, "f"⟩⟩ := by
  refine ⟨by decide +kernel, by decide +kernel, placements_match_syntax ?_⟩
  have hall : (typeCheck straying "f").diagnostics =
      [⟨.breakOutsideLoop, ⟨3, "f"⟩⟩, ⟨.continueOutsideLoop, ⟨7, "f"⟩⟩,
        ⟨.illegalOperation .string "-" .int, ⟨8, "f"⟩⟩, ⟨.undeclaredName "x" true, ⟨10, "f"⟩⟩,
        ⟨.returnOutsideFunction, ⟨10, "f"⟩⟩] := by decide +kernel
  simp [hall]

end Imperative
