import Imperative.Proofs.Check.Expression

/-!
One mistake in an expression is explained once.

Where the type of an expression cannot be told, the reason has been reported; and what uses the
expression says nothing of its own, until a call gives it a type again.
-/

namespace Imperative

/-- The type of the variable, or the return type of the function, is known. -/
def Symbol.Known : Symbol → Prop
  | var type => type ≠ .unknown
  | fn signature => signature.returnType ≠ .unknown

/-- No variable in the table has the unknown type, and no function returns it. -/
def SymbolTable.Known (t : SymbolTable) : Prop :=
  ∀ s ∈ t.scopes, ∀ name a, s.get? name = some a → a.Known

lemma SymbolTable.Known.resolve? {t : SymbolTable} {name : String} {a : Symbol} (h : t.Known)
    (ha : t.resolve? name = some a) : a.Known := by
  obtain ⟨s, hs, hget⟩ := List.exists_of_findSome?_eq_some ha
  exact h s hs name a hget

namespace Expr

variable {t : SymbolTable}

/-- The expression calls no function. -/
def callFree : Expr → Bool
  | lit _ | var .. => true
  | bin _ l r _ => l.callFree && r.callFree
  | call .. => false

lemma callFree_of_mem_upward {e : Expr} (he : e.callFree = true) :
    ∀ a ∈ e.upward, a.callFree = true := by
  match e with
  | lit _ | var .. => exact List.forall_mem_singleton.2 rfl
  | bin _ l r _ =>
    have hlr := Bool.and_eq_true_iff.1 he
    refine List.forall_mem_append.2 ⟨List.forall_mem_append.2 ⟨?_, ?_⟩,
      List.forall_mem_singleton.2 he⟩
    · exact callFree_of_mem_upward hlr.1
    · exact callFree_of_mem_upward hlr.2

/-- The operator is reported just where its operands are known and it does not take them. -/
lemma reports_bin_eq_nil {op : Operator} {l r : Expr} {line : Nat} :
    reports t (bin op l r line) = [] ↔
      op.resultType (l.type t) (r.type t) ≠ none ∨ l.type t = .unknown ∨ r.type t = .unknown := by
  show operandFindings op (l.type t) (r.type t) line = [] ↔ _
  unfold operandFindings
  split <;> simp_all [Option.isSome_iff_ne_none]

/-- **A type that cannot be told is explained.** -/
theorem findings_ne_nil (hk : t.Known) {e : Expr} (h : e.type t = .unknown) :
    e.findings t ≠ [] := by
  match e with
  | lit l =>
    unfold type LiteralKind.type at h
    split at h <;> cases h
  | var name line =>
    unfold type at h
    simp only [findings, nameFindings]
    split at h
    · next hv => exact (hk.resolve? hv h).elim
    · next hv => split <;> simp_all
  | bin op l r line =>
    simp only [findings, ne_eq, List.append_eq_nil_iff, not_and, and_imp]
    intro hl hr hop
    rcases reports_bin_eq_nil.1 hop with hop | hunknown | hunknown
    · obtain ⟨type, htype⟩ := Option.ne_none_iff_exists'.1 hop
      rw [Expr.type, htype] at h
      exact (Operator.known_of_resultType htype).2.2 h
    · exact findings_ne_nil hk hunknown hl
    · exact findings_ne_nil hk hunknown hr
  | call name args line =>
    unfold type at h
    simp only [findings, callFindings, ne_eq, List.append_eq_nil_iff, not_and]
    intro _
    split at h
    · next hg => exact (hk.resolve? hg h).elim
    · next hg => split <;> simp_all

/-- **Without calls, a type that can be told leaves nothing to explain.** -/
theorem findings_eq_nil {e : Expr} (he : e.callFree = true) (h : e.type t ≠ .unknown) :
    e.findings t = [] := by
  match e with
  | lit _ => rfl
  | var name line =>
    unfold type at h
    simp only [findings, nameFindings]
    split at h
    · next hv => rw [hv]
    · contradiction
  | bin op l r line =>
    have hlr := Bool.and_eq_true_iff.1 he
    have hop : op.resultType (l.type t) (r.type t) ≠ none := by
      intro hn
      rw [Expr.type, hn] at h
      exact h rfl
    obtain ⟨type, htype⟩ := Option.ne_none_iff_exists'.1 hop
    obtain ⟨hl, hr, -⟩ := Operator.known_of_resultType htype
    rw [findings, findings_eq_nil hlr.1 hl, findings_eq_nil hlr.2 hr]
    exact reports_bin_eq_nil.2 (.inl hop)

/-- **Without calls, nothing is said above a mistake**: an expression that is reported itself has
nothing reported inside. -/
theorem reports_inner {a : Expr} (ha : a.callFree = true) (h : a.reports t ≠ []) :
    ∀ d ∈ a.inner, d.reports t = [] := by
  match a with
  | lit _ | var .. => exact List.forall_mem_nil _
  | bin op l r line =>
    have hlr := Bool.and_eq_true_iff.1 ha
    rw [ne_eq, reports_bin_eq_nil, not_or, not_or] at h
    have silent {e : Expr} (he : e.findings t = []) : ∀ d ∈ e.upward, d.reports t = [] := by
      rwa [findings_eq, List.flatMap_eq_nil_iff] at he
    exact List.forall_mem_append.2 ⟨silent (findings_eq_nil hlr.1 h.2.1),
      silent (findings_eq_nil hlr.2 h.2.2)⟩

end Expr

/-- What the checker reports of the expression itself, those inside it apart. -/
def Checker.remarks (c : Checker) (e : Expr) : List Diagnostic :=
  (e.reports c.symbols).map fun f => ⟨f.problem, ⟨f.line, c.file⟩⟩

namespace Checker

variable {c : Checker} {e : Expr}

lemma remarks_eq_nil : c.remarks e = [] ↔ e.reports c.symbols = [] := List.map_eq_nil_iff

/-- What is reported of an expression is what is found wrong with it. -/
lemma flatMap_remarks (c : Checker) (e : Expr) : e.upward.flatMap c.remarks =
    (e.findings c.symbols).map fun f => ⟨f.problem, ⟨f.line, c.file⟩⟩ := by
  rw [Expr.findings_eq, List.map_flatMap]
  rfl

end Checker

/-- **One mistake is explained once**, where the symbols are known: a visit reports what is to be
said of the expressions in the tree, one after the other; an unknown type comes with an error; and
without calls, something is reported just if the type is unknown, and nothing is reported of what
has a report inside it. -/
theorem mistakes_explained_once {c : Checker} (hk : c.symbols.Known) (e : Expr) :
    (c.visitExpr e).2.diagnostics = c.diagnostics ++ e.upward.flatMap c.remarks ∧
      ((c.visitExpr e).1 = .unknown → ∃ d ∈ e.upward.flatMap c.remarks, d.isError = true) ∧
      (e.callFree = true →
        ((c.visitExpr e).1 = .unknown ↔ e.upward.flatMap c.remarks ≠ []) ∧
        ∀ a ∈ e.upward, c.remarks a ≠ [] → ∀ d ∈ a.inner, c.remarks d = []) := by
  have hempty : e.upward.flatMap c.remarks = [] ↔ e.findings c.symbols = [] := by
    rw [c.flatMap_remarks, List.map_eq_nil_iff]
  refine ⟨?_, fun h => ?_, fun he => ⟨⟨fun h => ?_, fun h => ?_⟩, fun a ha hremarks => ?_⟩⟩
  · rw [c.flatMap_remarks]
    simp only [Checker.visitExpr, Checker.follow, Checker.reportAll_eq]
    rfl
  · obtain ⟨f, hf⟩ := List.exists_mem_of_ne_nil _ (Expr.findings_ne_nil hk h)
    rw [c.flatMap_remarks]
    exact ⟨_, List.mem_map_of_mem hf, Expr.isError_of_mem_findings hf⟩
  · exact hempty.not.2 (Expr.findings_ne_nil hk h)
  · by_contra hknown
    exact hempty.not.1 h (Expr.findings_eq_nil he hknown)
  · simp only [Checker.remarks_eq_nil, ne_eq] at hremarks ⊢
    exact Expr.reports_inner (Expr.callFree_of_mem_upward he a ha) hremarks

/-- A checker that knows a variable and a function. -/
def knowing : Checker := (Checker.initial "f").visitProgram
  [.decl .int [⟨"n", .lit ⟨.int, "1", 1⟩, 1⟩] 1,
    .fn ⟨"f", .float, [⟨"x", .unknown, 2⟩], 2, 2⟩ [.ret (.var "n" 2) 2]]

/-- A difference that cannot be formed, added to a sum with a name that is not declared. -/
def muddled : Expr :=
  .bin .add (.bin .sub (.lit ⟨.string, "\"a\"", 3⟩) (.var "n" 4) 5)
    (.bin .add (.var "m" 6) (.var "n" 7) 8) 9

theorem mistakes_explained_once_muddled :
    knowing.symbols.Known ∧
    (knowing.visitExpr muddled).1 = .unknown ∧
    (knowing.visitExpr muddled).2.diagnostics = knowing.diagnostics ++
      [⟨.illegalOperation .string "-" .int, ⟨5, "f"⟩⟩, ⟨.undeclaredName "m" true, ⟨6, "f"⟩⟩] ∧
    ∀ a ∈ muddled.upward, knowing.remarks a ≠ [] → ∀ d ∈ a.inner, knowing.remarks d = [] := by
  have hsymbols : knowing.symbols = ⟨[], ⟨.global, ⟨[("n", .var .int),
      ("f", .fn ⟨.float, [.unknown], true⟩)]⟩⟩⟩ := by decide +kernel
  have hk : knowing.symbols.Known := by
    intro s hs name a ha
    rw [hsymbols] at hs
    obtain rfl := List.mem_singleton.1 hs
    simp only [Scope.get?, Bindings.get?, Bindings.find] at ha
    split at ha
    · cases ha
      exact (by decide : Ty.int ≠ .unknown)
    · split at ha
      · cases ha
        exact (by decide : Ty.float ≠ .unknown)
      · cases ha
  obtain ⟨hreported, -, honce⟩ := mistakes_explained_once hk muddled
  have hremarks : muddled.upward.flatMap knowing.remarks =
      [⟨.illegalOperation .string "-" .int, ⟨5, "f"⟩⟩,
        ⟨.undeclaredName "m" true, ⟨6, "f"⟩⟩] := by decide +kernel
  obtain ⟨hiff, hinner⟩ := honce rfl
  exact ⟨hk, hiff.2 (hremarks ▸ List.cons_ne_nil _ _), hremarks ▸ hreported, hinner⟩

end Imperative
