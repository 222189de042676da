import Imperative.Proofs.Check.Report

/-!
What is said of a task, with all that it takes: one case for each thing that can be wrong.
-/

namespace Imperative

namespace Task

variable {t : SymbolTable} {k : Task} {f : Finding} {name : String} {line : Nat}

/-- The finding tells what is wrong with the task itself. -/
inductive Found (t : SymbolTable) : Task → Finding → Prop
  | undeclared {name : String} {line : Nat} (h : t.resolve? name = none) :
    Found t (expr (.var name line)) ⟨.undeclaredName name t.isGlobal, line⟩
  | functionRead {name : String} {line : Nat} {g : Signature}
    (h : t.resolve? name = some (.fn g)) :
    Found t (expr (.var name line)) ⟨.functionUsedAsVariable name, line⟩
  | operands {op : Operator} {l r : Expr} {line : Nat}
    (hop : op.resultType (l.type t) (r.type t) = none) (hl : l.type t ≠ .unknown)
    (hr : r.type t ≠ .unknown) :
    Found t (expr (.bin op l r line)) ⟨.illegalOperation (l.type t) op.symbol (r.type t), line⟩
  | undefined {name : String} {es : List Expr} {line : Nat} (h : t.resolve? name = none) :
    Found t (expr (.call name es line)) ⟨.undefinedFunction name, line⟩
  | variableCalled {name : String} {es : List Expr} {line : Nat} {type : Ty}
    (h : t.resolve? name = some (.var type)) :
    Found t (expr (.call name es line)) ⟨.notAFunction name, line⟩
  | arity {name : String} {es : List Expr} {line : Nat} {g : Signature}
    (h : t.resolve? name = some (.fn g)) (hlen : g.params.length ≠ es.length) :
    Found t (expr (.call name es line)) ⟨.arity name g.params.length es.length, line⟩
  | argument {name : String} {es : List Expr} {line : Nat} {g : Signature} {i : Nat} {e : Expr}
    {type : Ty} (h : t.resolve? name = some (.fn g)) (hi : g.params[i]? = some type)
    (he : es[i]? = some e) (hne : type ≠ e.type t) (hk : e.type t ≠ .unknown) :
    Found t (expr (.call name es line)) ⟨.argumentType name (i + 1) type (e.type t), line⟩
  | initValue {type : Ty} {i : Init} {is : List Init} {f : Finding}
    (hf : f ∈ storeFindings type (i.value.type t) i.line) : Found t (inits type (i :: is)) f
  | initName {type : Ty} {i : Init} {is : List Init} {f : Finding}
    (hf : f ∈ (Check.declare i.name (.var type) i.line t).findings) :
    Found t (inits type (i :: is)) f
  | assigned {name : String} {e : Expr} {line : Nat} {type : Ty} {f : Finding}
    (h : t.resolve? name = some (.var type)) (hf : f ∈ storeFindings type (e.type t) line) :
    Found t (stmt (.assign name e line)) f
  | functionAssigned {name : String} {e : Expr} {line : Nat} {g : Signature}
    (h : t.resolve? name = some (.fn g)) :
    Found t (stmt (.assign name e line)) ⟨.functionUsedAsVariable name, line⟩
  | undeclaredAssigned {name : String} {e : Expr} {line : Nat} (h : t.resolve? name = none) :
    Found t (stmt (.assign name e line)) ⟨.undeclaredName name t.isGlobal, line⟩
  | fnName {h : FnHeader} {body : List Stmt} (hc : t.current.contains h.name = true) :
    Found t (stmt (.fn h body)) ⟨.duplicateDeclaration h.name, h.line⟩
  | param {h : FnHeader} {body : List Stmt} {q : Param} {u : SymbolTable} {f : Finding}
    (hq : q ∈ h.params) (hf : f ∈ (Check.declare q.name (.var q.type) q.line u).findings) :
    Found t (stmt (.fn h body)) f
  | unreturned {h : FnHeader} {body : List Stmt} :
    Found t (stmt (.fn h body)) ⟨.missingReturn h.name h.returnType, h.bodyLine⟩
  | outside {e : Expr} {line : Nat} (h : t.enclosingFunction? = none) :
    Found t (stmt (.ret e line)) ⟨.returnOutsideFunction, line⟩
  | returned {e : Expr} {line : Nat} {name : String} {g : Signature}
    (h : t.enclosingFunction? = some name) (hg : t.signature? name = some g)
    (hne : g.returnType ≠ e.type t) (hk : g.returnType ≠ .unknown) (he : e.type t ≠ .unknown) :
    Found t (stmt (.ret e line)) ⟨.returnTypeMismatch name g.returnType (e.type t), line⟩
  | brk {line : Nat} (h : t.inLoop = false) : Found t (stmt (.brk line)) ⟨.breakOutsideLoop, line⟩
  | cont {line : Nat} (h : t.inLoop = false) :
    Found t (stmt (.cont line)) ⟨.continueOutsideLoop, line⟩

/-- What is said of storing a value compares two types that are known. -/
lemma mem_storeFindings {declared assigned : Ty} (hf : f ∈ storeFindings declared assigned line) :
    f.line = line ∧ declared ≠ .unknown ∧ assigned ≠ .unknown ∧
      (f.problem = .precisionLoss declared assigned ∨
        f.problem = .typeMismatch declared assigned) := by
  unfold storeFindings at hf
  split at hf
  · cases hf
  · next hknown =>
    simp only [not_or] at hknown
    split at hf
    · cases hf
    · cases List.mem_singleton.1 hf
      exact ⟨rfl, hknown.2.1, hknown.2.2, .inl rfl⟩
    · cases List.mem_singleton.1 hf
      exact ⟨rfl, hknown.2.1, hknown.2.2, .inr rfl⟩

/-- Only a variable is refused a name for the sake of a function. -/
lemma mem_declare {a : Symbol} (hf : f ∈ (Check.declare name a line t).findings) :
    f.line = line ∧ (f.problem = .duplicateDeclaration name ∨
      f.problem = .functionNameShadowed name) := by
  unfold Check.declare at hf
  split at hf
  · cases hf
  · next e he =>
    cases List.mem_singleton.1 hf
    rcases SymbolTable.declare_error he with ⟨-, rfl⟩ | ⟨-, rfl⟩
    · exact ⟨rfl, .inr rfl⟩
    · exact ⟨rfl, .inl rfl⟩

lemma mem_params {ps : List Param} (hf : f ∈ (Check.params ps t).findings) :
    ∃ q ∈ ps, ∃ u, f ∈ (Check.declare q.name (.var q.type) q.line u).findings := by
  induction ps generalizing t with
  | nil => cases hf
  | cons q ps ih =>
    rcases List.mem_append.1 hf with hf | hf
    · exact ⟨q, .head _, t, hf⟩
    · obtain ⟨q', hq', u, hf⟩ := ih hf
      exact ⟨q', .tail _ hq', u, hf⟩

/-- Arguments are counted from the number of the first one. -/
lemma mem_argumentFindings {index : Nat} {es rs : List Ty}
    (hf : f ∈ Expr.argumentFindings name line index es rs) :
    ∃ i e r, es[i]? = some e ∧ rs[i]? = some r ∧ e ≠ r ∧ r ≠ .unknown ∧
      f = ⟨.argumentType name (index + i) e r, line⟩ := by
  induction es generalizing index rs with
  | nil => cases hf
  | cons e es ih =>
    cases rs with
    | nil => cases hf
    | cons r rs =>
      rcases List.mem_append.1 hf with hf | hf
      · split at hf
        · cases hf
        · next hknown =>
          rw [not_or] at hknown
          exact ⟨0, e, r, rfl, rfl, hknown.1, hknown.2, List.mem_singleton.1 hf⟩
      · obtain ⟨i, e', r', he', hr', hne, hk, rfl⟩ := ih hf
        refine ⟨i + 1, e', r', he', hr', hne, hk, ?_⟩
        rw [Nat.add_right_comm, Nat.add_assoc]

lemma found_call {es : List Expr} (hf : f ∈ Expr.callFindings t name (es.map (Expr.type t)) line) :
    Found t (expr (.call name es line)) f := by
  unfold Expr.callFindings at hf
  split at hf
  · next g hg =>
    split at hf
    · obtain ⟨i, type, r, hi, hr, hne, hk, rfl⟩ := mem_argumentFindings hf
      rw [List.getElem?_map, Option.map_eq_some_iff] at hr
      obtain ⟨e, he, rfl⟩ := hr
      rw [Nat.add_comm]
      exact .argument hg hi he hne hk
    · next hlen =>
      rw [List.length_map] at hlen hf
      cases List.mem_singleton.1 hf
      exact .arity hg hlen
  · next hv =>
    cases List.mem_singleton.1 hf
    exact .variableCalled hv
  · next hn =>
    cases List.mem_singleton.1 hf
    exact .undefined hn

lemma found_ret {e : Expr} (hf : f ∈ (Check.ret (e.type t) line t).findings) :
    Found t (stmt (.ret e line)) f := by
  unfold Check.ret at hf
  split at hf
  · next hnone =>
    cases List.mem_singleton.1 hf
    exact .outside hnone
  · next hname =>
    split at hf
    · cases hf
    · next g hg =>
      dsimp only at hf
      split at hf
      · cases hf
      · next hknown =>
        simp only [not_or] at hknown
        cases List.mem_singleton.1 hf
        exact .returned hname hg hknown.1 hknown.2.1 hknown.2.2

lemma found_fn {h : FnHeader} {body : List Stmt} (hf : f ∈ (stmt (.fn h body)).reports t) :
    Found t (stmt (.fn h body)) f := by
  simp only [reports] at hf
  split at hf
  · next e he =>
    cases List.mem_singleton.1 hf
    rcases SymbolTable.declare_error he with ⟨hs, -⟩ | ⟨hc, rfl⟩
    · cases hs
    · exact .fnName hc
  · rcases List.mem_append.1 hf with hf | hf
    · obtain ⟨q, hq, u, hf⟩ := mem_params hf
      exact .param hq hf
    · unfold Check.missingReturn at hf
      split at hf
      · dsimp only at hf
        split at hf
        · cases hf
        · cases List.mem_singleton.1 hf
          exact .unreturned
      · cases hf

/-- **Nothing else is said of a task.** -/
theorem found_of_mem (hf : f ∈ k.reports t) : Found t k f := by
  match k with
  | expr (.lit _) | args _ | inits _ [] | stmts _ => cases hf
  | expr (.var name line) =>
    simp only [reports, Expr.nameFindings] at hf
    split at hf
    · cases hf
    · next hg => cases List.mem_singleton.1 hf; exact .functionRead hg
    · next hn => cases List.mem_singleton.1 hf; exact .undeclared hn
  | expr (.bin op l r line) =>
    simp only [reports, Expr.operandFindings] at hf
    split at hf
    · cases hf
    · next hknown =>
      simp only [not_or, Option.not_isSome_iff_eq_none] at hknown
      cases List.mem_singleton.1 hf
      exact .operands hknown.1 hknown.2.1 hknown.2.2
  | expr (.call ..) => exact found_call hf
  | inits type (i :: is) =>
    rcases List.mem_append.1 hf with hf | hf
    · exact .initValue hf
    · exact .initName hf
  | stmt (.assign name e line) =>
    simp only [reports, Check.assignFindings] at hf
    split at hf
    · next hv => exact .assigned hv hf
    · next hg => cases List.mem_singleton.1 hf; exact .functionAssigned hg
    · next hn => cases List.mem_singleton.1 hf; exact .undeclaredAssigned hn
  | stmt (.fn ..) => exact found_fn hf
  | stmt (.ret ..) => exact found_ret hf
  | stmt (.brk line) | stmt (.cont line) =>
    simp only [reports, Check.jump] at hf
    split at hf
    · cases hf
    · next hn =>
      rw [Bool.not_eq_true] at hn
      cases List.mem_singleton.1 hf
      constructor
      exact hn
  | stmt (.decl ..) | stmt (.cond ..) | stmt (.loop ..) | stmt (.repeatUntil ..)
  | stmt (.block ..) | stmt (.print ..) | stmt (.labeled ..) | stmt (.expr ..) => cases hf

end Task

end Imperative
