import Imperative.Proofs.Check.Seen
import Imperative.Proofs.Rendering.Names
import Imperative.Proofs.Rendering.Tree

/-!
Checking two renderings of one program.

The second check goes through the same tables of symbols as the first, with its own names in them,
and finds the same problems in the same order.
-/

namespace Imperative

open List (Forall₂)

variable {τ : Rendering}

def Problem.rename (f : String → String) : Problem → Problem
  | duplicateDeclaration name => duplicateDeclaration (f name)
  | functionNameShadowed name => functionNameShadowed (f name)
  | undeclaredName name inGlobalScope => undeclaredName (f name) inGlobalScope
  | functionUsedAsVariable name => functionUsedAsVariable (f name)
  | undefinedFunction name => undefinedFunction (f name)
  | notAFunction name => notAFunction (f name)
  | arity function expected received => arity (f function) expected received
  | argumentType function index expected received =>
    argumentType (f function) index expected received
  | returnTypeMismatch function expected received =>
    returnTypeMismatch (f function) expected received
  | missingReturn function returnType => missingReturn (f function) returnType
  | problem => problem

lemma Problem.isError_rename (f : String → String) (p : Problem) :
    (p.rename f).isError = p.isError := by
  cases p <;> rfl

@[simp] lemma Problem.rename_id (p : Problem) : p.rename id = p := by
  cases p <;> rfl

lemma SymbolError.problem_rename (f : String → String) (inGlobalScope : Bool) (e : SymbolError) :
    (e.rename f).problem inGlobalScope = (e.problem inGlobalScope).rename f := by
  cases e <;> rfl

structure Finding.Rendered (τ : Rendering) (f f' : Finding) : Prop where
  problem : f'.problem = f.problem.rename τ.name
  line : τ.Pins f.line f'.line

/-- The tables and the findings of two checks. -/
structure Checked.Rendered (τ : Rendering) (c c' : Checked) : Prop where
  symbols : c'.symbols = c.symbols.rename τ.name
  findings : Forall₂ (Finding.Rendered τ) c.findings c'.findings

namespace Finding

variable {n n' : Nat}

lemma rendered_one {p p' : Problem} (hp : p' = p.rename τ.name) (hn : τ.Pins n n') :
    Forall₂ (Finding.Rendered τ) [⟨p, n⟩] [⟨p', n'⟩] := .cons ⟨hp, hn⟩ .nil

lemma rendered_append {fs gs fs' gs' : List Finding} (hf : Forall₂ (Finding.Rendered τ) fs fs')
    (hg : Forall₂ (Finding.Rendered τ) gs gs') :
    Forall₂ (Finding.Rendered τ) (fs ++ gs) (fs' ++ gs') := List.rel_append hf hg

/-- The same problems under other names. -/
lemma problems_rendered {fs fs' : List Finding} (h : Forall₂ (Finding.Rendered τ) fs fs') :
    fs'.map problem = (fs.map problem).map (Problem.rename τ.name) := by
  induction h with
  | nil => rfl
  | cons hf _ ih => rw [List.map_cons, List.map_cons, List.map_cons, ih, hf.problem]

/-- Types have no names in them. -/
lemma rendered_store (declared assigned : Ty) (hn : τ.Pins n n') :
    Forall₂ (Finding.Rendered τ) (storeFindings declared assigned n)
      (storeFindings declared assigned n') := by
  unfold storeFindings
  split
  · exact .nil
  · split
    · exact .nil
    · exact rendered_one rfl hn
    · exact rendered_one rfl hn

end Finding

/-! ### Expressions -/

namespace Expr

open Finding

variable {n n' : Nat} (t : SymbolTable)

lemma Rendered.type {e e' : Expr} (h : e.Rendered τ e') :
    e'.type (t.rename τ.name) = e.type t := by
  cases h with
  | lit l _ => rfl
  | var name _ =>
    unfold Expr.type
    rw [SymbolTable.resolve?_rename τ.name_injective]
  | bin op hl hr _ =>
    unfold Expr.type
    rw [hl.type, hr.type]
  | call name _ _ =>
    unfold Expr.type
    rw [SymbolTable.resolve?_rename τ.name_injective]
termination_by sizeOf e

lemma rendered_types {es es' : List Expr} (h : Forall₂ (Expr.Rendered τ) es es') :
    es'.map (type (t.rename τ.name)) = es.map (type t) := by
  induction h with
  | nil => rfl
  | cons h _ ih => rw [List.map_cons, List.map_cons, h.type, ih]

lemma rendered_nameFindings (name : String) (hn : τ.Pins n n') :
    Forall₂ (Finding.Rendered τ) (nameFindings t name n)
      (nameFindings (t.rename τ.name) (τ.name name) n') := by
  unfold nameFindings
  rw [SymbolTable.resolve?_rename τ.name_injective, SymbolTable.isGlobal_rename]
  split
  · exact .nil
  · exact rendered_one rfl hn
  · exact rendered_one rfl hn

lemma rendered_operandFindings (op : Operator) (left right : Ty) (hn : τ.Pins n n') :
    Forall₂ (Finding.Rendered τ) (operandFindings op left right n)
      (operandFindings op left right n') := by
  unfold operandFindings
  split
  · exact .nil
  · exact rendered_one rfl hn

lemma rendered_argumentFindings (name : String) (hn : τ.Pins n n') (index : Nat) (es rs : List Ty) :
    Forall₂ (Finding.Rendered τ) (argumentFindings name n index es rs)
      (argumentFindings (τ.name name) n' index es rs) := by
  induction es generalizing index rs with
  | nil => exact .nil
  | cons e es ih =>
    cases rs with
    | nil => exact .nil
    | cons r rs =>
      unfold argumentFindings
      refine rendered_append ?_ (ih (index + 1) rs)
      split
      · exact .nil
      · exact rendered_one rfl hn

lemma rendered_callFindings (name : String) (args : List Ty) (hn : τ.Pins n n') :
    Forall₂ (Finding.Rendered τ) (callFindings t name args n)
      (callFindings (t.rename τ.name) (τ.name name) args n') := by
  unfold callFindings
  rw [SymbolTable.resolve?_rename τ.name_injective]
  split
  · split
    · exact rendered_argumentFindings name hn 1 _ args
    · exact rendered_one rfl hn
  · exact rendered_one rfl hn
  · exact rendered_one rfl hn

mutual

lemma Rendered.findings {e e' : Expr} (h : e.Rendered τ e') :
    Forall₂ (Finding.Rendered τ) (e.findings t) (e'.findings (t.rename τ.name)) := by
  cases h with
  | lit l _ => exact .nil
  | var name hn => exact rendered_nameFindings t name hn
  | bin op hl hr hn =>
    unfold Expr.findings
    rw [hl.type, hr.type]
    exact rendered_append (rendered_append hl.findings hr.findings)
      (rendered_operandFindings op _ _ hn)
  | call name hargs hn =>
    unfold Expr.findings
    rw [rendered_types t hargs]
    exact rendered_append (rendered_argsFindings hargs) (rendered_callFindings t name _ hn)
termination_by sizeOf e

lemma rendered_argsFindings {es es' : List Expr} (h : Forall₂ (Expr.Rendered τ) es es') :
    Forall₂ (Finding.Rendered τ) (argsFindings t es) (argsFindings (t.rename τ.name) es') := by
  cases h with
  | nil => exact .nil
  | cons h hs => exact rendered_append h.findings (rendered_argsFindings hs)
termination_by sizeOf es

end

end Expr

/-! ### Statements -/

namespace Check

open Finding

variable {n n' : Nat}

/-- Two checks that come to the same from tables with the same symbols. -/
def Follows (τ : Rendering) (check check' : SymbolTable → Checked) : Prop :=
  ∀ t, (check t).Rendered τ (check' (t.rename τ.name))

namespace Follows

variable {check check' next next' : SymbolTable → Checked}

lemma andThen (h : Follows τ check check') (hn : Follows τ next next') :
    Follows τ (fun t => (check t).andThen next) fun t => (check' t).andThen next' := by
  intro t
  have hc := h t
  have hd := hn (check t).symbols
  unfold Checked.andThen
  dsimp only
  rw [hc.symbols]
  exact ⟨hd.symbols, rendered_append hc.findings hd.findings⟩

lemma inScope (label : ScopeLabel) (h : Follows τ check check') :
    Follows τ (inScope label check) (inScope (label.rename τ.name) check') := by
  intro t
  have hc := h (t.push label)
  unfold Check.inScope
  dsimp only
  rw [SymbolTable.push_rename]
  refine ⟨?_, hc.findings⟩
  rw [hc.symbols, SymbolTable.pop_rename]

/-- A check that leaves the table as it is. -/
lemma only {find find' : SymbolTable → List Finding}
    (h : ∀ t, Forall₂ (Finding.Rendered τ) (find t) (find' (t.rename τ.name))) :
    Follows τ (fun t => ⟨t, find t⟩) fun t => ⟨t, find' t⟩ := fun t => ⟨rfl, h t⟩

end Follows

lemma follows_declare (name : String) (symbol : Symbol) (hn : τ.Pins n n') :
    Follows τ (declare name symbol n) (declare (τ.name name) symbol n') := by
  intro t
  unfold declare
  rw [SymbolTable.declare_rename τ.name_injective]
  cases t.declare name symbol with
  | ok t' => exact ⟨rfl, .nil⟩
  | error e =>
    refine ⟨rfl, rendered_one ?_ hn⟩
    rw [SymbolTable.isGlobal_rename, SymbolError.problem_rename]

lemma follows_expr {e e' : Expr} (h : e.Rendered τ e') : Follows τ (expr e) (expr e') :=
  .only fun t => h.findings t

lemma follows_inits (type : Ty) {is is' : List Init} (h : Forall₂ (Init.Rendered τ) is is') :
    Follows τ (inits type is) (inits type is') := by
  induction h with
  | nil => exact fun t => ⟨rfl, .nil⟩
  | @cons i i' is is' hi _ ih =>
    have hvalue : Follows τ
        (fun t => ⟨t, i.value.findings t ++ storeFindings type (i.value.type t) i.line⟩)
        fun t => ⟨t, i'.value.findings t ++ storeFindings type (i'.value.type t) i'.line⟩ := by
      refine .only fun t => rendered_append (hi.value.findings t) ?_
      rw [hi.value.type]
      exact rendered_store type _ hi.line
    have hname : Follows τ (declare i.name (.var type) i.line)
        (declare i'.name (.var type) i'.line) := by
      rw [hi.name]
      exact follows_declare i.name (.var type) hi.line
    exact hvalue.andThen (hname.andThen ih)

lemma follows_params {ps ps' : List Param} (h : Forall₂ (Param.Rendered τ) ps ps') :
    Follows τ (params ps) (params ps') := by
  induction h with
  | nil => exact fun t => ⟨rfl, .nil⟩
  | @cons p p' ps ps' hp _ ih =>
    have hname : Follows τ (declare p.name (.var p.type) p.line)
        (declare p'.name (.var p'.type) p'.line) := by
      rw [hp.name, hp.type]
      exact follows_declare p.name (.var p.type) hp.line
    exact hname.andThen ih

lemma rendered_assignFindings (name : String) {e e' : Expr} (he : e.Rendered τ e')
    (hn : τ.Pins n n') (t : SymbolTable) :
    Forall₂ (Finding.Rendered τ) (assignFindings name e n t)
      (assignFindings (τ.name name) e' n' (t.rename τ.name)) := by
  unfold assignFindings
  rw [SymbolTable.resolve?_rename τ.name_injective, SymbolTable.isGlobal_rename, he.type]
  split
  · exact rendered_store _ _ hn
  · exact rendered_one rfl hn
  · exact rendered_one rfl hn

lemma rendered_ret (received : Ty) (hn : τ.Pins n n') (t : SymbolTable) :
    (ret received n t).Rendered τ (ret received n' (t.rename τ.name)) := by
  unfold ret
  rw [SymbolTable.enclosingFunction?_rename]
  cases t.enclosingFunction? with
  | none => exact ⟨rfl, rendered_one rfl hn⟩
  | some function =>
    dsimp only [Option.map_some]
    rw [SymbolTable.signature?_rename τ.name_injective]
    split
    · exact ⟨rfl, .nil⟩
    · refine ⟨SymbolTable.markReturned_rename τ.name_injective function, ?_⟩
      split
      · exact .nil
      · exact rendered_one rfl hn

lemma follows_jump {problem : Problem} (hp : problem.rename τ.name = problem) (hn : τ.Pins n n') :
    Follows τ (jump problem n) (jump problem n') := by
  refine .only fun t => ?_
  rw [SymbolTable.inLoop_rename]
  split
  · exact .nil
  · exact rendered_one hp.symm hn

lemma follows_missingReturn {h h' : FnHeader} (hh : h.Rendered τ h') :
    Follows τ (missingReturn h) (missingReturn h') := by
  intro t
  unfold missingReturn
  rw [hh.name, hh.returnType, SymbolTable.signature?_rename τ.name_injective]
  split
  · refine ⟨rfl, ?_⟩
    dsimp only
    split
    · exact .nil
    · exact rendered_one rfl hh.bodyLine
  · exact ⟨rfl, .nil⟩

lemma rendered_paramTypes {ps ps' : List Param} (h : Forall₂ (Param.Rendered τ) ps ps') :
    ps'.map Param.type = ps.map Param.type := by
  induction h with
  | nil => rfl
  | cons hp _ ih => rw [List.map_cons, List.map_cons, hp.type, ih]

lemma signatureOf_rendered {h h' : FnHeader} (hh : h.Rendered τ h') :
    signatureOf h' = signatureOf h := by
  unfold signatureOf
  rw [hh.returnType, rendered_paramTypes hh.params]

lemma follows_fn {h h' : FnHeader} {body body' : List Stmt} (hh : h.Rendered τ h')
    (hbody : Follows τ (stmts body) (stmts body')) :
    Follows τ (stmt (.fn h body)) (stmt (.fn h' body')) := by
  intro t
  unfold stmt
  rw [signatureOf_rendered hh, hh.name, SymbolTable.declare_rename τ.name_injective]
  cases t.declare h.name (.fn (signatureOf h)) with
  | error e =>
    refine ⟨rfl, rendered_one ?_ hh.line⟩
    rw [SymbolTable.isGlobal_rename, SymbolError.problem_rename]
  | ok t' =>
    exact (((follows_params hh.params).andThen hbody).inScope (.function h.name)).andThen
      (follows_missingReturn hh) t'

mutual

/-- **Renderings of a statement are checked alike.** -/
theorem follows_stmt {s s' : Stmt} (h : s.Rendered τ s') : Follows τ (stmt s) (stmt s') := by
  cases h with
  | decl type his _ => exact follows_inits type his
  | assign name he hn =>
    exact .only fun t => rendered_append (he.findings t) (rendered_assignFindings name he hn t)
  | cond htest hyes _ => exact (follows_expr htest).andThen (follows_stmt hyes)
  | condElse htest hyes hno _ =>
    exact ((follows_expr htest).andThen (follows_stmt hyes)).andThen (follows_stmt hno)
  | loop htest hbody _ => exact (follows_expr htest).andThen ((follows_stmt hbody).inScope .loop)
  | repeatUntil hbody htest _ =>
    exact ((follows_stmts hbody).inScope .loop).andThen (follows_expr htest)
  | fn hh hbody => exact follows_fn hh (follows_stmts hbody)
  | block hbody _ => exact (follows_stmts hbody).inScope .block
  | @ret e e' n n' he hn =>
    intro t
    have hret := Follows.andThen (follows_expr he) (rendered_ret (e.type t) hn) t
    unfold stmt
    rwa [he.type]
  | brk hn => exact follows_jump rfl hn
  | cont hn => exact follows_jump rfl hn
  | print he _ => exact follows_expr he
  | labeled _ hbody _ | dropped _ _ _ hbody | added _ _ _ hbody =>
    have hfollows := follows_stmt hbody
    exact hfollows
  | expr he _ => exact follows_expr he
termination_by sizeOf s + sizeOf s'

theorem follows_stmts {ss ss' : List Stmt} (h : Forall₂ (Stmt.Rendered τ) ss ss') :
    Follows τ (stmts ss) (stmts ss') := by
  cases h with
  | nil => exact fun t => ⟨rfl, .nil⟩
  | cons h hs => exact (follows_stmt h).andThen (follows_stmts hs)
termination_by sizeOf ss + sizeOf ss'

end

end Check

namespace Program.Rendered

variable {p p' : Program}

lemma check (h : p.Rendered τ p') :
    (Check.stmts p .initial).Rendered τ (Check.stmts p' .initial) := Check.follows_stmts h .initial

/-- **Of two renderings, both are valid or neither is.** -/
theorem isValid (h : p.Rendered τ p') (file file' : String) :
    (typeCheck p' file').isValid = (typeCheck p file).isValid := by
  have hall (fs : List Finding) : (fs.all fun f => !f.problem.isError) =
      (fs.map Finding.problem).all fun q => !q.isError := by
    rw [List.all_map]
    rfl
  rw [typeCheck_eq, typeCheck_eq]
  dsimp only
  rw [hall, hall, Finding.problems_rendered h.check.findings, List.all_map]
  simp only [Function.comp_def, Problem.isError_rename]

end Program.Rendered

end Imperative
