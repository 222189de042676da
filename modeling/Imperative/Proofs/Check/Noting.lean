import Imperative.Proofs.Check.Seen
import Imperative.Proofs.Program.Own
import Imperative.Proofs.Scope.AtHand

/-!
Which function a check takes a return for.

It is the nearest function that has the name of the function at hand. This is the function at hand
itself, unless that one defines another function of its name.
-/

namespace Imperative

/-- A statement adds a function only where it defines it, outside all other functions. -/
lemma Stmt.clear_adds (s : Stmt) {name : String} (h : Clear name s.own) (g : Signature) :
    (name, .fn g) ∉ s.adds := by
  match s with
  | .decl .. => simp [Stmt.adds]
  | .cond _ yes none _ => exact clear_adds yes (clear_own.1 h).2 g
  | .cond _ yes (some no) _ =>
    have hbranches := clear_append.1 (clear_own.1 h).2
    unfold Stmt.adds
    rw [List.mem_append, not_or]
    exact ⟨clear_adds yes hbranches.1 g, clear_adds no hbranches.2 g⟩
  | .fn header _ =>
    have hname := (clear_own.1 h).1
    simp only [defines, decide_eq_false_iff_not] at hname
    simp [Stmt.adds, Ne.symm hname]
  | .labeled _ body _ => exact clear_adds body (clear_own.1 h).2 g
  | .assign .. | .loop .. | .repeatUntil .. | .block .. | .ret .. | .brk .. | .cont ..
  | .print .. | .expr .. => exact List.not_mem_nil

lemma Stmt.clear_flatMap_adds {ss : List Stmt} {name : String} (h : Clear name (ownIn ss))
    (g : Signature) : (name, .fn g) ∉ ss.flatMap Stmt.adds := by
  induction ss with
  | nil => exact List.not_mem_nil
  | cons s ss ih =>
    obtain ⟨hs, hss⟩ := clear_append.1 h
    rw [List.flatMap_cons, List.mem_append, not_or]
    exact ⟨s.clear_adds hs g, ih hss⟩

namespace Check

open SymbolTable Stmt

variable {t u : SymbolTable}

lemma declare_keeps (name : String) (a : Symbol) (line : Nat) (t : SymbolTable) :
    List.Forall₂ (Scope.KeepsBut none) t.scopes (declare name a line t).symbols.scopes := by
  unfold declare
  split
  · next h => exact SymbolTable.declare_keeps h
  · exact Noted.none_iff.1 (.refl none _)

lemma inits_keep (type : Ty) (is : List Init) (t : SymbolTable) :
    List.Forall₂ (Scope.KeepsBut none) t.scopes (inits type is t).symbols.scopes := by
  induction is generalizing t with
  | nil => exact Noted.none_iff.1 (.refl none _)
  | cons i is ih => exact Noted.keeps_trans (declare_keeps i.name (.var type) i.line t) (ih _)

lemma params_keep (ps : List Param) (t : SymbolTable) :
    List.Forall₂ (Scope.KeepsBut none) t.scopes (params ps t).symbols.scopes := by
  induction ps generalizing t with
  | nil => exact Noted.none_iff.1 (.refl none _)
  | cons p ps ih => exact Noted.keeps_trans (declare_keeps p.name (.var p.type) p.line t) (ih _)

mutual

/-- **A statement notes returns at the function at hand.** -/
theorem stmt_noted (s : Stmt) (t : SymbolTable) {o : Option String}
    (ho : returns s.own = true → o = t.enclosingFunction?) :
    Noted o t.scopes (stmt s t).symbols.scopes := by
  rw [returns_own] at ho
  match s with
  | .decl type is _ => exact (Noted.none_iff.2 (inits_keep type is t)).of_none
  | .assign .. | .brk _ | .cont _ | .print .. | .expr .. => exact .refl o _
  | .cond _ yes none _ => exact stmt_noted yes t fun h => ho (.inr h)
  | .cond _ yes (some no) _ =>
    have hno := stmt_noted no (stmt yes t).symbols (o := o) fun h =>
      (ho (.inr (returns_append.2 (.inr h)))).trans (stmt_extends yes t).enclosingFunction?_eq.symm
    exact (stmt_noted yes t fun h => ho (.inr (returns_append.2 (.inl h)))).trans hno
  | .loop _ body _ => exact noted_pop (stmt_noted body (t.push .loop) fun h => ho (.inr h))
  | .repeatUntil body _ _ =>
    exact noted_pop (stmts_noted body (t.push .loop) fun h => ho (.inr h))
  | .fn h body =>
    unfold stmt
    split
    · exact .refl o _
    · next u hu =>
      have hbody := stmts_noted body (entry h u) (o := some h.name) fun _ =>
        (params_extends h.params (u.push (.function h.name))).enclosingFunction?_eq.symm
      rw [Checked.andThen, missingReturn_symbols]
      have hu' := noted_pop ((Noted.none_iff.2 (params_keep _ _)).of_none.trans hbody)
      exact (Noted.none_iff.2 (noted_declare hu hu')).of_none
  | .block body _ => exact noted_pop (stmts_noted body (t.push .block) fun h => ho (.inr h))
  | .ret value line =>
    obtain rfl := ho (.inl rfl)
    show Noted _ t.scopes (ret (value.type t) line t).symbols.scopes
    unfold ret
    split
    · exact .refl _ _
    · next f hf =>
      split
      · exact .refl _ _
      · rw [hf, scopes_markReturned]
        exact markFirst_noted f t.scopes
  | .labeled _ body _ => exact stmt_noted body t fun h => ho (.inr h)

theorem stmts_noted (ss : List Stmt) (t : SymbolTable) {o : Option String}
    (ho : returns (ownIn ss) = true → o = t.enclosingFunction?) :
    Noted o t.scopes (stmts ss t).symbols.scopes := by
  match ss with
  | [] => exact .refl o _
  | s :: rest =>
    have hrest := stmts_noted rest (stmt s t).symbols (o := o) fun h =>
      (ho (returns_append.2 (.inr h))).trans (stmt_extends s t).enclosingFunction?_eq.symm
    exact (stmt_noted s t fun h => ho (returns_append.2 (.inl h))).trans hrest

end

variable {h : FnHeader} {body : List Stmt} {f : String} {type : Ty}

/-- A function is at hand from the scope of its parameters on. -/
lemma push_atHand (hu : t.declare h.name (.fn (signatureOf h)) = .ok u) :
    (u.push (.function h.name)).AtHand h.name h.returnType := by
  refine ⟨rfl, signatureOf h, ?_, rfl⟩
  obtain ⟨r, hr⟩ := u.scopes_eq_cons
  have hcurrent := Scope.signature?_eq_some.2 (declare_current hu)
  unfold SymbolTable.signature?
  rw [scopes_push, List.findSome?_cons, hr, List.findSome?_cons, hcurrent]
  rfl

lemma entry_atHand (hu : t.declare h.name (.fn (signatureOf h)) = .ok u) :
    (entry h u).AtHand h.name h.returnType :=
  (push_atHand hu).extend (params_extends h.params _) (by simp)

mutual

/-- **A return is noted at the function at hand.** -/
theorem stmt_returned (s : Stmt) {t : SymbolTable} (ht : t.AtHand f type) (hc : Clear f s.own)
    (hr : returns s.own = true) : (stmt s t).symbols.Returned f := by
  rw [returns_own] at hr
  have hinside := (clear_own.1 hc).2
  match s with
  | .cond _ yes none _ => exact stmt_returned yes ht hinside (hr.resolve_left nofun)
  | .cond _ yes (some no) _ =>
    obtain ⟨hyes, hno⟩ := clear_append.1 hinside
    have hext := stmt_extends yes t
    rcases returns_append.1 (hr.resolve_left nofun) with hr | hr
    · exact (stmt_returned yes ht hyes hr).extend (stmt_extends no _) (no.clear_adds hno)
    · exact stmt_returned no (ht.extend hext (yes.clear_adds hyes)) hno hr
  | .loop _ body _ =>
    exact (stmt_returned body (ht.push (by simp)) hinside (hr.resolve_left nofun)).pop
      (stmt_extends body (t.push .loop)) (body.clear_adds hinside)
  | .repeatUntil body _ _ =>
    exact (stmts_returned body (ht.push (by simp)) hinside (hr.resolve_left nofun)).pop
      (stmts_extends body (t.push .loop)) (clear_flatMap_adds hinside)
  | .block body _ =>
    exact (stmts_returned body (ht.push (by simp)) hinside (hr.resolve_left nofun)).pop
      (stmts_extends body (t.push .block)) (clear_flatMap_adds hinside)
  | .ret value line =>
    obtain ⟨g, hg, -⟩ := ht.signature
    show (ret (value.type t) line t).symbols.Returned f
    simp only [ret, ht.encloses, hg]
    exact ⟨_, by rw [signature?_markReturned, hg]; rfl, rfl⟩
  | .labeled _ body _ => exact stmt_returned body ht hinside (hr.resolve_left nofun)
  | .decl .. | .assign .. | .fn .. | .brk _ | .cont _ | .print .. | .expr .. =>
    exact (hr.elim nofun nofun)

theorem stmts_returned (ss : List Stmt) {t : SymbolTable} (ht : t.AtHand f type)
    (hc : Clear f (ownIn ss)) (hr : returns (ownIn ss) = true) :
    (stmts ss t).symbols.Returned f := by
  match ss with
  | [] => cases hr
  | s :: rest =>
    obtain ⟨hs, hrest⟩ := clear_append.1 hc
    have hext := stmt_extends s t
    rcases returns_append.1 hr with hr | hr
    · exact (stmt_returned s ht hs hr).extend (stmts_extends rest _) (clear_flatMap_adds hrest)
    · exact stmts_returned rest (ht.extend hext (s.clear_adds hs)) hrest hr

end

/-- Where a body has no return of its own, none is noted for its function. -/
lemma body_unreturned (hu : t.declare h.name (.fn (signatureOf h)) = .ok u)
    (hr : returns (ownIn body) = false) :
    (stmts body (entry h u)).symbols.pop.signature? h.name = some (signatureOf h) := by
  have hbody := stmts_noted body (entry h u) (o := none) (by simp [hr])
  have hkept := noted_pop ((Noted.none_iff.2 (params_keep h.params _)).trans hbody)
  rw [Noted.none_iff] at hkept
  obtain ⟨r, hr⟩ := u.scopes_eq_cons
  rw [hr] at hkept
  generalize (stmts body (entry h u)).symbols.pop = v at hkept
  unfold SymbolTable.signature?
  generalize v.scopes = r' at hkept
  cases hkept with
  | cons hkeeps _ =>
    have hcurrent := hkeeps _ _ nofun (declare_current hu)
    rw [List.findSome?_cons, Scope.signature?_eq_some.2 hcurrent]

/-- **A function counts as one that has returned if it has a return of its own.** -/
theorem missingReturn_findings (hu : t.declare h.name (.fn (signatureOf h)) = .ok u)
    (hc : Clear h.name (ownIn body)) :
    (missingReturn h (stmts body (entry h u)).symbols.pop).findings =
      if returns (ownIn body) then [] else [⟨.missingReturn h.name h.returnType, h.bodyLine⟩] := by
  unfold missingReturn
  by_cases hr : returns (ownIn body) = true
  · have hext := (params_extends h.params (u.push (.function h.name))).append
      (stmts_extends body _)
    obtain ⟨g, hg, hreturned⟩ := (stmts_returned body (entry_atHand hu) hc hr).pop hext (by
      simp [clear_flatMap_adds hc])
    simp only [hg, hreturned, if_pos hr, if_true]
  · rw [Bool.not_eq_true] at hr
    simp only [body_unreturned hu hr, hr]
    rfl

end Check

end Imperative
