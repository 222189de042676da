import Imperative.Proofs.Check.Found

/-!
What the returns of a function count for.

A check looks the function at hand up by its name. As long as the function defines no other one of
its own name, each of its returns is compared with its own return type, and it counts as a function
that returns just if it has a return of its own.
-/

namespace Imperative

open Stmt

namespace Task

variable {t u v : SymbolTable} {k j : Task} {f : String} {type : Ty}

/-- The task lies in the other one and belongs to the same function. -/
inductive Own (t : SymbolTable) (k : Task) : SymbolTable → Task → Prop
  | here : Own t k t k
  | part {u v : SymbolTable} {j i : Task} (h : Own t k u j)
      (hj : ∀ header body, j ≠ .stmt (.fn header body)) (hi : (v, i) ∈ j.parts u) : Own t k v i

/-- The statements in the task that belong to the same function. -/
def own : Task → List Stmt
  | stmt s => s.own
  | stmts ss => ownIn ss
  | _ => []

lemma parts_own (hk : ∀ header body, k ≠ .stmt (.fn header body)) :
    ∀ q ∈ k.parts t, q.2.own ⊆ k.own := by
  have no_own (l : List Stmt) : [] ⊆ l := List.nil_subset l
  match k with
  | expr (.lit _) | expr (.var ..) | args [] | inits _ [] | stmts [] => exact List.forall_mem_nil _
  | stmt (.brk _) | stmt (.cont _) => exact List.forall_mem_nil _
  | expr (.bin ..) | args (_ :: _) | inits _ (_ :: _) => exact forall_mem_pair (no_own _) (no_own _)
  | expr (.call ..) | stmt (.decl ..) | stmt (.assign ..) | stmt (.ret ..) | stmt (.print ..)
  | stmt (.expr ..) => exact List.forall_mem_singleton.2 (no_own _)
  | stmts (s :: ss) =>
    exact forall_mem_pair (List.subset_append_left s.own (ownIn ss))
      (List.subset_append_right s.own (ownIn ss))
  | stmt (.cond _ yes none _) => exact forall_mem_pair (no_own _) (List.subset_cons_self _ _)
  | stmt (.cond _ yes (some no) _) =>
    exact List.forall_mem_cons.2 ⟨no_own _, forall_mem_pair
      (List.Subset.trans (List.subset_append_left yes.own no.own) (List.subset_cons_self _ _))
      (List.Subset.trans (List.subset_append_right yes.own no.own) (List.subset_cons_self _ _))⟩
  | stmt (.loop ..) => exact forall_mem_pair (no_own _) (List.subset_cons_self _ _)
  | stmt (.repeatUntil ..) => exact forall_mem_pair (List.subset_cons_self _ _) (no_own _)
  | stmt (.block ..) | stmt (.labeled ..) =>
    exact List.forall_mem_singleton.2 (List.subset_cons_self _ _)
  | stmt (.fn header body) => exact (hk header body rfl).elim

lemma parts_atHand (hk : ∀ header body, k ≠ .stmt (.fn header body)) (ht : t.AtHand f type)
    (hc : Clear f k.own) : ∀ q ∈ k.parts t, q.1.AtHand f type := by
  match k with
  | expr (.lit _) | expr (.var ..) | args [] | inits _ [] | stmts [] => exact List.forall_mem_nil _
  | stmt (.brk _) | stmt (.cont _) => exact List.forall_mem_nil _
  | expr (.bin ..) | args (_ :: _) | stmt (.cond _ _ none _) => exact forall_mem_pair ht ht
  | expr (.call ..) | stmt (.decl ..) | stmt (.assign ..) | stmt (.ret ..) | stmt (.print ..)
  | stmt (.expr ..) | stmt (.labeled ..) => exact List.forall_mem_singleton.2 ht
  | inits type (i :: _) =>
    have hext := Check.declare_extends i.name (.var type) i.line t
    exact forall_mem_pair ht (ht.extend hext (by simp))
  | stmts (s :: _) =>
    have hext := Check.stmt_extends s t
    exact forall_mem_pair ht (ht.extend hext (s.clear_adds (clear_append.1 hc).1))
  | stmt (.cond _ yes (some no) _) =>
    have hyes := (clear_append.1 (clear_own.1 hc).2).1
    have hext := Check.stmt_extends yes t
    exact List.forall_mem_cons.2 ⟨ht, forall_mem_pair ht (ht.extend hext (yes.clear_adds hyes))⟩
  | stmt (.loop ..) => exact forall_mem_pair ht (ht.push (by simp))
  | stmt (.repeatUntil body _ _) =>
    have hext := (Check.stmts_extends body (t.push .loop)).pop
    exact forall_mem_pair (ht.push (by simp)) (ht.extend hext fun _ => List.not_mem_nil)
  | stmt (.block ..) => exact List.forall_mem_singleton.2 (ht.push (by simp))
  | stmt (.fn header body) => exact (hk header body rfl).elim

namespace Own

/-- So what is wrong with the task is among the diagnostics. -/
lemma seen {p : Program} (hs : Seen p t k) (h : Own t k u j) : Seen p u j := by
  induction h with
  | here => exact hs
  | part _ _ hi ih => exact ih.part hi

lemma own (h : Own t k u j) : j.own ⊆ k.own := by
  induction h with
  | here => exact List.Subset.refl _
  | part _ hj hi ih => exact List.Subset.trans (parts_own hj _ hi) ih

/-- **The function at hand stays at hand in all its own statements.** -/
theorem atHand (h : Own t k u j) (ht : t.AtHand f type) (hc : Clear f k.own) :
    u.AtHand f type := by
  induction h with
  | here => exact ht
  | part hown hj hi ih => exact parts_atHand hj ih (fun s hs => hc s (hown.own hs)) _ hi

mutual

/-- Every statement that belongs to the function has a place in it. -/
theorem place (s : Stmt) {u : SymbolTable} (h : Own t k u (.stmt s)) :
    ∀ r ∈ s.own, ∃ v, Own t k v (.stmt r) := by
  refine List.forall_mem_cons.2 ⟨⟨u, h⟩, ?_⟩
  match s with
  | .decl .. | .assign .. | .fn .. | .ret .. | .brk _ | .cont _ | .print .. | .expr .. =>
    exact List.forall_mem_nil _
  | .cond _ yes none _ => exact place yes (h.part nofun (.tail _ (.head _)))
  | .cond _ yes (some no) _ =>
    exact List.forall_mem_append.2 ⟨place yes (h.part nofun (.tail _ (.head _))),
      place no (h.part nofun (.tail _ (.tail _ (.head _))))⟩
  | .loop _ body _ => exact place body (h.part nofun (.tail _ (.head _)))
  | .labeled _ body _ => exact place body (h.part nofun (.head _))
  | .repeatUntil body _ _ | .block body _ => exact places body (h.part nofun (.head _))

theorem places (ss : List Stmt) {u : SymbolTable} (h : Own t k u (.stmts ss)) :
    ∀ r ∈ ownIn ss, ∃ v, Own t k v (.stmt r) := by
  match ss with
  | [] => exact List.forall_mem_nil _
  | s :: ss =>
    exact List.forall_mem_append.2 ⟨place s (h.part nofun (.head _)),
      places ss (h.part nofun (.tail _ (.head _)))⟩

end

end Own

end Task

variable {p : Program} {t u : SymbolTable} {h : FnHeader} {body : List Stmt}

/-- What a check says of the returns of a function whose body it enters with the table. -/
structure ReturnsBelong (t : SymbolTable) (h : FnHeader) (body : List Stmt)
    (entry : SymbolTable) : Prop where
  /-- The function is reported if it has no return of its own, and only then. -/
  missing : ⟨.missingReturn h.name h.returnType, h.bodyLine⟩ ∈ (Task.stmt (.fn h body)).reports t ↔
    returns (ownIn body) = false
  /-- The check comes by the statements of the function itself. -/
  places : ∀ s, s ∈ ownIn body ↔ ∃ v, Task.Own entry (.stmts body) v (.stmt s)
  /-- Each return of its own is compared with its own return type. -/
  compared : ∀ v e line, Task.Own entry (.stmts body) v (.stmt (.ret e line)) →
    (Task.stmt (.ret e line)).reports v =
      if h.returnType = e.type v ∨ h.returnType = .unknown ∨ e.type v = .unknown then []
      else [⟨.returnTypeMismatch h.name h.returnType (e.type v), line⟩]

lemma returnsBelong (hu : t.declare h.name (.fn (Check.signatureOf h)) = .ok u)
    (hc : Clear h.name (ownIn body)) : ReturnsBelong t h body (Check.entry h u) := by
  refine ⟨?_, fun s => ⟨fun hs => Task.Own.places body .here s hs, ?_⟩, fun v e line hv => ?_⟩
  · simp only [Task.reports, hu, List.mem_append, Check.missingReturn_findings hu hc]
    have hparams : ⟨.missingReturn h.name h.returnType, h.bodyLine⟩ ∉
        (Check.params h.params (u.push (.function h.name))).findings := by
      intro hf
      obtain ⟨q, -, v, hf⟩ := Task.mem_params hf
      obtain ⟨-, hproblem | hproblem⟩ := Task.mem_declare hf <;> cases hproblem
    cases returns (ownIn body) <;> simp [hparams]
  · rintro ⟨v, hv⟩
    exact hv.own (.head _)
  · obtain ⟨hencloses, g, hg, hreturn⟩ := hv.atHand (Check.entry_atHand hu) hc
    simp only [Task.reports, Check.ret, hencloses, hg, hreturn]

/-- **Returns belong to the function that they stand in**, in a program without duplicate
declarations: the diagnostics are what is wrong at the places of the program, each function has a
place, and of its own returns is said what is to be said, unless it defines a function of its own
name. -/
theorem returns_belong {file : String}
    (hd : ∀ d ∈ (typeCheck p file).diagnostics, ∀ name, d.problem ≠ .duplicateDeclaration name) :
    (∀ d, d ∈ (typeCheck p file).diagnostics ↔
      ∃ t k f, Seen p t k ∧ f ∈ k.reports t ∧ d = ⟨f.problem, ⟨f.line, file⟩⟩) ∧
    ∀ h body, .stmt (.fn h body) ∈ (Node.program p).walk → Clear h.name (ownIn body) →
      (∃ t, Seen p t (.stmt (.fn h body))) ∧
      ∀ t, Seen p t (.stmt (.fn h body)) → ∃ entry, Seen p entry (.stmts body) ∧
        ReturnsBelong t h body entry := by
  have hp := accepted_of_diagnostics hd
  refine ⟨fun _ => mem_diagnostics, fun h body hn hc => ⟨hp.seen _ hn, fun t hs => ?_⟩⟩
  obtain ⟨u, hu⟩ := hp t h body hs
  exact ⟨Check.entry h u, hs.part (by simp [Task.parts, hu]), returnsBelong hu hc⟩

/-- The program that defines one function. -/
def FnDecl.alone (d : FnDecl) : Program := [.fn d.header d.body]

/-- A function with another one inside, which has the only return. -/
def enclosing : FnDecl :=
  ⟨⟨"f", .int, [⟨"n", .int, 1⟩], 1, 1⟩,
    [.fn ⟨"g", .string, [], 2, 2⟩ [.ret (.lit ⟨.string, "\"a\"", 3⟩) 3],
      .expr (.call "g" [] 4) 4]⟩

theorem returns_belong_enclosing :
    (∀ d ∈ (typeCheck enclosing.alone "f").diagnostics,
      ∀ name, d.problem ≠ .duplicateDeclaration name) ∧
    Clear "f" (ownIn enclosing.body) ∧
    (⟨.missingReturn "f" .int, ⟨1, "f"⟩⟩ : Diagnostic) ∈
      (typeCheck enclosing.alone "f").diagnostics := by
  have hd : ∀ d ∈ (typeCheck enclosing.alone "f").diagnostics,
      ∀ name, d.problem ≠ .duplicateDeclaration name := by
    have hall : (typeCheck enclosing.alone "f").diagnostics =
        [⟨.missingReturn "f" .int, ⟨1, "f"⟩⟩] := by decide +kernel
    simp [hall]
  have hc : Clear "f" (ownIn enclosing.body) := by decide
  have hn : .stmt (.fn enclosing.header enclosing.body) ∈ (Node.program enclosing.alone).walk :=
    Node.child_mem_walk (Node.self_mem_walk _) (.head _)
  obtain ⟨hdiagnostics, hfunctions⟩ := returns_belong hd
  obtain ⟨⟨t, ht⟩, hreturns⟩ := hfunctions enclosing.header enclosing.body hn hc
  obtain ⟨_, _, hbelong⟩ := hreturns t ht
  exact ⟨hd, hc, (hdiagnostics _).2 ⟨t, _, _, ht, hbelong.missing.2 (by decide), rfl⟩⟩

/-- A function with another one of its name inside, before its return. -/
def recurring : FnDecl :=
  ⟨⟨"f", .int, [], 1, 1⟩,
    [.fn ⟨"f", .int, [], 2, 2⟩ [.ret (.lit ⟨.int, "1", 2⟩) 2],
      .ret (.lit ⟨.int, "2", 3⟩) 3]⟩

/-- The same with an earlier return; the last one does not fit the function. -/
def unfitting : FnDecl :=
  ⟨⟨"f", .int, [], 1, 1⟩,
    [.cond (.lit ⟨.int, "0", 2⟩) (.ret (.lit ⟨.int, "1", 2⟩) 2) none 2,
      .fn ⟨"f", .string, [], 3, 3⟩ [.ret (.lit ⟨.string, "\"a\"", 3⟩) 3],
      .ret (.lit ⟨.string, "\"b\"", 4⟩) 4]⟩

/-- **A function of the same name inside takes the returns**: a function that has a return of its
own is reported to have none, and one that returns a value of the wrong type is not reported. -/
theorem returns_taken :
    (returns (ownIn recurring.body) = true ∧
      (typeCheck recurring.alone "f").diagnostics = [⟨.missingReturn "f" .int, ⟨1, "f"⟩⟩]) ∧
    unfitting.header.returnType ≠ Expr.type .initial (.lit ⟨.string, "\"b\"", 4⟩) ∧
      (typeCheck unfitting.alone "f").diagnostics = [] := by
  decide +kernel

end Imperative
