import Imperative.Proofs.Check.Inside

/-!
A check gives back the scopes that it was given.

A statement may add names to the scope it stands in, and may note returns. A block or a loop adds
none, so blocks and loops that follow one another can be checked in any order.
-/

namespace Imperative

/-- A block or a loop, whose parts stand in a scope of their own. -/
def Stmt.isScoped : Stmt → Bool
  | .block .. | .loop .. | .repeatUntil .. => true
  | _ => false

/-- The scopes of the second table are those of the first. The current one may have got further
names, and returns may have been noted in all of them. -/
structure SymbolTable.Restores (t u : SymbolTable) : Prop where
  depth : u.depth = t.depth
  labels : u.scopes.map Scope.label = t.scopes.map Scope.label
  outside : List.Forall₂ Scope.Settles t.scopes.tail u.scopes.tail
  current : ∀ x a, t.current.get? x = some a → ∃ b, u.current.get? x = some b ∧ a.Settles b

lemma SymbolTable.Extends.restores {t u : SymbolTable} {l : List (String × Symbol)}
    (h : t.Extends l u) : t.Restores u :=
  ⟨h.depth_eq, h.labels_eq, h.below, h.current.keep⟩

lemma Stmt.adds_eq_nil {s : Stmt} (hs : s.isScoped = true) : s.adds = [] := by
  cases s with
  | block | loop | repeatUntil => rfl
  | _ => cases hs

/-- **Scopes are restored**, whatever is found wrong. A statement leaves the scopes outside the
current one as they were, but for returns that it notes, and the current one as well if it is a
block or a loop; else the current one may have further names. An expression leaves all as it was. -/
theorem scopes_are_restored (c : Checker) :
    (∀ s, c.symbols.Restores (c.visitStmt s).symbols ∧
      (s.isScoped = true →
        List.Forall₂ Scope.Settles c.symbols.scopes (c.visitStmt s).symbols.scopes)) ∧
    ∀ e, (c.visitExpr e).2.symbols = c.symbols := by
  unfold Checker.visitStmt Checker.visitExpr
  simp only [Checker.follow_eq]
  refine ⟨fun s => ?_, fun _ => rfl⟩
  have hext := Check.stmt_extends s c.symbols
  refine ⟨hext.restores, fun hs => ?_⟩
  rw [s.adds_eq_nil hs] at hext
  exact hext.settles

/-- A checker in the body of a function that has no return so far. -/
def inBody : Checker :=
  { Checker.initial "f" with
    symbols := ⟨[⟨.function "f", ⟨[("x", .var .float)]⟩⟩],
      ⟨.global, ⟨[("f", .fn ⟨.int, [.float], false⟩)]⟩⟩⟩ }

/-- A block with a variable `x` of its own, which it returns. -/
def shadowing : Stmt :=
  .block [.decl .int [⟨"x", .lit ⟨.int, "1", 2⟩, 2⟩] 2, .fn ⟨"x", .int, [], 3, 3⟩ [],
    .ret (.var "x" 4) 4] 1

theorem scopes_are_restored_shadowing :
    inBody.symbols.Restores (inBody.visitStmt shadowing).symbols ∧
    List.Forall₂ Scope.Settles inBody.symbols.scopes (inBody.visitStmt shadowing).symbols.scopes ∧
    (inBody.visitStmt shadowing).symbols.base =
      ⟨.global, ⟨[("f", .fn ⟨.int, [.float], true⟩)]⟩⟩ ∧
    (inBody.visitStmt shadowing).diagnostics = [⟨.duplicateDeclaration "x", ⟨3, "f"⟩⟩] := by
  obtain ⟨hrestores, hscopes⟩ := (scopes_are_restored inBody).1 shadowing
  exact ⟨hrestores, hscopes rfl, by decide +kernel, by decide +kernel⟩

namespace Check

/-- A block or a loop does the same whatever returns have been noted, and at most notes some. -/
lemma scoped_makes {s : Stmt} (hs : s.isScoped = true) (t : SymbolTable) :
    ∃ names fs, Makes (stmt s) t [] [] names fs := by
  have outermost {c : SymbolTable → Checked} (hc : Inward c) (label : ScopeLabel) :
      ∃ names fs, Makes (inScope label c) t [] [] names fs := by
    obtain ⟨r', names, fs, hlen, hmakes⟩ := hc.inScope_makes label t []
    rw [List.eq_nil_of_length_eq_zero hlen] at hmakes
    exact ⟨names, fs, hmakes⟩
  have test (e : Expr) : Makes (expr e) t [] [] [] (e.findings t) :=
    .still (fun _ _ h => e.findings_settled h) t []
  cases s with
  | block body _ => exact outermost (stmts_inward body) .block
  | loop e body _ =>
    obtain ⟨names, fs, hbody⟩ := outermost (stmt_inward body) .loop
    exact ⟨_, _, (test e).andThen hbody⟩
  | repeatUntil body e _ =>
    obtain ⟨names, fs, hbody⟩ := outermost (stmts_inward body) .loop
    exact ⟨_, _, hbody.andThen (test e)⟩
  | _ => cases hs

end Check

/-- **Siblings are independent.** Of two blocks or loops that follow one another, each is reported
what is reported of it alone, and the order makes no difference to the table of symbols. -/
theorem siblings_are_independent (c : Checker) {a b : Stmt} (ha : a.isScoped = true)
    (hb : b.isScoped = true) : ∃ da db,
      (c.visitStmt a).diagnostics = c.diagnostics ++ da ∧
      (c.visitStmt b).diagnostics = c.diagnostics ++ db ∧
      ((c.visitStmt a).visitStmt b).diagnostics = c.diagnostics ++ (da ++ db) ∧
      ((c.visitStmt b).visitStmt a).diagnostics = c.diagnostics ++ (db ++ da) ∧
      ((c.visitStmt a).visitStmt b).symbols = ((c.visitStmt b).visitStmt a).symbols := by
  obtain ⟨names, fs, ha⟩ := Check.scoped_makes ha c.symbols
  obtain ⟨names', gs, hb⟩ := Check.scoped_makes hb c.symbols
  have after (names : List String) := c.symbols.noteAll_extends names
  have ha' : ∀ u, c.symbols.Extends [] u → Check.stmt a u = ⟨u.noteAll names, fs⟩ := ha
  have hb' : ∀ u, c.symbols.Extends [] u → Check.stmt b u = ⟨u.noteAll names', gs⟩ := hb
  simp only [Checker.visitStmt, Checker.follow_eq, ha' _ (.refl [] _), hb' _ (.refl [] _),
    ha' _ (after names'), hb' _ (after names), List.append_assoc]
  exact ⟨_, _, rfl, rfl, rfl, rfl, c.symbols.noteAll_comm names names'⟩

/-- A loop with a function of its own that returns a text; then it returns a float. -/
def mismatching : Stmt :=
  .loop (.var "n" 5) (.block [.fn ⟨"g", .int, [], 6, 6⟩ [.ret (.lit ⟨.string, "\"a\"", 7⟩) 7],
    .ret (.var "x" 8) 8] 5) 5

theorem siblings_are_independent_mismatching :
    ((inBody.visitStmt shadowing).visitStmt mismatching).diagnostics =
      [⟨.duplicateDeclaration "x", ⟨3, "f"⟩⟩, ⟨.undeclaredName "n" false, ⟨5, "f"⟩⟩,
        ⟨.returnTypeMismatch "g" .int .string, ⟨7, "f"⟩⟩,
        ⟨.returnTypeMismatch "f" .int .float, ⟨8, "f"⟩⟩] ∧
    ((inBody.visitStmt mismatching).visitStmt shadowing).diagnostics =
      [⟨.undeclaredName "n" false, ⟨5, "f"⟩⟩, ⟨.returnTypeMismatch "g" .int .string, ⟨7, "f"⟩⟩,
        ⟨.returnTypeMismatch "f" .int .float, ⟨8, "f"⟩⟩,
        ⟨.duplicateDeclaration "x", ⟨3, "f"⟩⟩] ∧
    ((inBody.visitStmt shadowing).visitStmt mismatching).symbols =
      ((inBody.visitStmt mismatching).visitStmt shadowing).symbols := by
  obtain ⟨da, db, ha, hb, hab, hba, hsymbols⟩ :=
    siblings_are_independent inBody (a := shadowing) (b := mismatching) rfl rfl
  have hda : (inBody.visitStmt shadowing).diagnostics =
      [⟨.duplicateDeclaration "x", ⟨3, "f"⟩⟩] := by decide +kernel
  have hdb : (inBody.visitStmt mismatching).diagnostics =
      [⟨.undeclaredName "n" false, ⟨5, "f"⟩⟩, ⟨.returnTypeMismatch "g" .int .string, ⟨7, "f"⟩⟩,
        ⟨.returnTypeMismatch "f" .int .float, ⟨8, "f"⟩⟩] := by decide +kernel
  obtain rfl := ha.symm.trans hda
  obtain rfl := hb.symm.trans hdb
  exact ⟨hab, hba, hsymbols⟩

end Imperative
