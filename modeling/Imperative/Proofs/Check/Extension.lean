import Imperative.Check.Stmt
import Imperative.Proofs.Scope.Extension

/-!
What a check does to the table of symbols: the statement leaves behind the names that it adds, in
the scope it stands in, and no scope of its own.
-/

namespace Imperative

/-- The names that a statement adds to the scope it stands in, whether or not it runs. -/
def Stmt.adds : Stmt → List (String × Symbol)
  | .decl type is _ => is.map fun i => (i.name, .var type)
  | .cond _ yes none _ => yes.adds
  | .cond _ yes (some no) _ => yes.adds ++ no.adds
  | .fn h _ => [(h.name, .fn (Check.signatureOf h))]
  | .labeled _ body _ => body.adds
  | _ => []

namespace Check

open SymbolTable

lemma declare_extends (name : String) (symbol : Symbol) (line : Nat) (t : SymbolTable) :
    t.Extends [(name, symbol)] (declare name symbol line t).symbols := by
  unfold declare
  split
  · next h => exact SymbolTable.declare_extends h
  · exact .refl _ t

lemma inits_extends (type : Ty) (is : List Init) (t : SymbolTable) :
    t.Extends (is.map fun i => (i.name, .var type)) (inits type is t).symbols := by
  induction is generalizing t with
  | nil => exact .refl _ t
  | cons i is ih => exact (declare_extends i.name (.var type) i.line t).append (ih _)

lemma params_extends (ps : List Param) (t : SymbolTable) :
    t.Extends (ps.map fun p => (p.name, .var p.type)) (params ps t).symbols := by
  induction ps generalizing t with
  | nil => exact .refl _ t
  | cons p ps ih => exact (declare_extends p.name (.var p.type) p.line t).append (ih _)

lemma ret_extends (received : Ty) (line : Nat) (t : SymbolTable) :
    t.Extends [] (ret received line t).symbols := by
  unfold ret
  split
  · exact .refl [] t
  · split
    · exact .refl [] t
    · exact markReturned_extends t _

lemma missingReturn_symbols (h : FnHeader) (t : SymbolTable) :
    (missingReturn h t).symbols = t := by
  unfold missingReturn
  split <;> rfl

mutual

/-- **What a statement leaves behind.** -/
theorem stmt_extends (s : Stmt) (t : SymbolTable) : t.Extends s.adds (stmt s t).symbols := by
  match s with
  | .decl type is _ => exact inits_extends type is t
  | .assign .. => exact .refl [] t
  | .cond _ yes none _ => exact stmt_extends yes t
  | .cond _ yes (some no) _ => exact (stmt_extends yes t).append (stmt_extends no _)
  | .loop _ body _ => exact (stmt_extends body (t.push .loop)).pop
  | .repeatUntil body _ _ => exact (stmts_extends body (t.push .loop)).pop
  | .fn h body =>
    unfold stmt Stmt.adds
    split
    · exact .refl _ t
    · next u hu =>
      have hbody := (params_extends h.params (u.push (.function h.name))).append
        (stmts_extends body _)
      rw [Checked.andThen, missingReturn_symbols]
      exact ((SymbolTable.declare_extends hu).trans
        (hbody.pop.mono (List.nil_subset _)) : t.Extends _ _)
  | .block body _ => exact (stmts_extends body (t.push .block)).pop
  | .ret value line => exact ret_extends (value.type t) line t
  | .brk _ | .cont _ | .print .. | .expr .. => exact .refl [] t
  | .labeled _ body _ => exact stmt_extends body t

theorem stmts_extends (ss : List Stmt) (t : SymbolTable) :
    t.Extends (ss.flatMap Stmt.adds) (stmts ss t).symbols := by
  match ss with
  | [] => exact .refl [] t
  | s :: rest =>
    rw [List.flatMap_cons]
    exact (stmt_extends s t).append (stmts_extends rest _)

end

end Check

end Imperative
