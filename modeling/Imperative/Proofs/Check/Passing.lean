import Imperative.Proofs.Check.Seen

/-!
What a construct must be like to pass the check, where it stands.
-/

namespace Imperative

namespace Task

variable {t : SymbolTable}

/-- A value of the one type may be stored in a variable of the other, with a loss perhaps. -/
def Storable (declared assigned : Ty) : Prop :=
  declared = assigned ∨ declared = .unknown ∨ assigned = .unknown ∨
    declared = .float ∧ assigned = .int ∨ declared = .int ∧ assigned = .float

lemma storable_of_passes {declared assigned : Ty} {line : Nat}
    (h : (Checked.mk t (storeFindings declared assigned line)).Passes) :
    Storable declared assigned := by
  unfold Storable
  by_contra hn
  simp only [not_or] at hn
  obtain ⟨hne, hd, ha, hfi, hif⟩ := hn
  unfold Checked.Passes storeFindings at h
  rw [if_neg (by simp [hne, hd, ha])] at h
  cases declared <;> cases assigned <;>
    first
      | exact hne rfl
      | exact hd rfl
      | exact ha rfl
      | exact hfi ⟨rfl, rfl⟩
      | exact hif ⟨rfl, rfl⟩
      | cases h _ (.head _)

lemma declare_of_passes {name : String} {symbol : Symbol} {line : Nat}
    (h : (Check.declare name symbol line t).Passes) :
    t.declare name symbol = .ok (Check.declare name symbol line t).symbols := by
  unfold Check.declare at h ⊢
  split
  · next hu => exact hu
  · next e he =>
    rw [he] at h
    have := h _ (.head _)
    cases e <;> cases this

lemma Passes.var {name : String} {line : Nat} (h : (expr (.var name line)).Passes t) :
    ∃ type, t.resolve? name = some (.var type) := by
  have hname : (Checked.mk t (Expr.nameFindings t name line)).Passes := h
  unfold Expr.nameFindings at hname
  split at hname
  · next type hr => exact ⟨type, hr⟩
  · cases hname _ (.head _)
  · cases hname _ (.head _)

lemma Passes.bin {op : Operator} {l r : Expr} {line : Nat}
    (h : (expr (.bin op l r line)).Passes t) :
    (op.resultType (l.type t) (r.type t)).isSome ∨ l.type t = .unknown ∨ r.type t = .unknown := by
  have hop := (Checked.passes_append.1 h).2
  unfold Expr.operandFindings at hop
  split at hop
  · next hc => exact hc
  · cases hop _ (.head _)

lemma arguments_of_passes {name : String} {line : Nat} (es rs : List Ty) (index : Nat)
    (hlen : es.length = rs.length)
    (h : (Checked.mk t (Expr.argumentFindings name line index es rs)).Passes) :
    List.Forall₂ (fun e r => e = r ∨ r = .unknown) es rs := by
  induction es generalizing rs index with
  | nil =>
    obtain rfl : rs = [] := List.length_eq_zero_iff.1 hlen.symm
    exact .nil
  | cons e es ih =>
    cases rs with
    | nil => cases hlen
    | cons r rs =>
      obtain ⟨hhead, htail⟩ := Checked.passes_append.1 h
      refine .cons ?_ (ih rs (index + 1) (Nat.succ.inj hlen) htail)
      by_contra hn
      rw [if_neg hn] at hhead
      cases hhead _ (.head _)

lemma Passes.call {name : String} {es : List Expr} {line : Nat}
    (h : (expr (.call name es line)).Passes t) :
    ∃ f, t.resolve? name = some (.fn f) ∧
      List.Forall₂ (fun e r => e = r ∨ r = .unknown) f.params (es.map (Expr.type t)) := by
  have hcall := (Checked.passes_append.1 h).2
  unfold Expr.callFindings at hcall
  split at hcall
  · next f hr =>
    split at hcall
    · next hlen => exact ⟨f, hr, arguments_of_passes _ _ 1 hlen hcall⟩
    · cases hcall _ (.head _)
  · cases hcall _ (.head _)
  · cases hcall _ (.head _)

lemma Passes.init {type : Ty} {i : Init} {is : List Init} (h : (inits type (i :: is)).Passes t) :
    Storable type (i.value.type t) ∧ t.declare i.name (.var type) =
      .ok (Check.declare i.name (.var type) i.line t).symbols := by
  unfold Passes at h
  simp only [check, Check.inits, Checked.passes_andThen] at h
  exact ⟨storable_of_passes (Checked.passes_append.1 h.1).2, declare_of_passes h.2.1⟩

lemma Passes.assign {name : String} {e : Expr} {line : Nat}
    (h : (stmt (.assign name e line)).Passes t) :
    ∃ type, t.resolve? name = some (.var type) ∧ Storable type (e.type t) := by
  have hassign := (Checked.passes_append.1 h).2
  unfold Check.assignFindings at hassign
  split at hassign
  · next type hr => exact ⟨type, hr, storable_of_passes hassign⟩
  · cases hassign _ (.head _)
  · cases hassign _ (.head _)

/-- Parameters that pass are all known, each with its type. -/
lemma params_of_passes {ps : List Param} (h : (Check.params ps t).Passes) :
    ∀ q ∈ ps, (Check.params ps t).symbols.current.get? q.name = some (.var q.type) := by
  induction ps generalizing t with
  | nil => exact List.forall_mem_nil _
  | cons p ps ih =>
    obtain ⟨hp, hps⟩ := Checked.passes_andThen.1 h
    refine List.forall_mem_cons.2 ⟨?_, ih hps⟩
    have hp := SymbolTable.declare_current (declare_of_passes hp)
    obtain ⟨b, hb, hab⟩ := (Check.params_extends ps _).current.keep p.name _ hp
    rw [hab.var_left] at hb
    exact hb

lemma Passes.fn {header : FnHeader} {body : List Stmt} (h : (stmt (.fn header body)).Passes t) :
    ∃ u, t.declare header.name (.fn (Check.signatureOf header)) = .ok u ∧
      (Check.params header.params (u.push (.function header.name))).Passes := by
  unfold Passes at h
  simp only [check, Check.stmt] at h
  split at h
  · next e he =>
    have := h _ (.head _)
    cases e <;> cases this
  · next u hu =>
    simp only [Checked.passes_andThen] at h
    exact ⟨u, hu, (Checked.passes_andThen.1 h.1).1⟩

lemma Passes.ret {e : Expr} {line : Nat} (h : (stmt (.ret e line)).Passes t) :
    ∃ f, t.enclosingFunction? = some f ∧ ∀ g, t.signature? f = some g →
      g.returnType = e.type t ∨ g.returnType = .unknown ∨ e.type t = .unknown := by
  have hret := (Checked.passes_andThen.1 h).2
  unfold Check.ret at hret
  split at hret
  · cases hret _ (.head _)
  · next f hf =>
    refine ⟨f, hf, fun g hg => ?_⟩
    simp only [Check.expr] at hret
    rw [hg] at hret
    by_contra hn
    simp only [if_neg hn] at hret
    cases hret _ (.head _)

lemma Passes.brk {line : Nat} (h : (stmt (.brk line)).Passes t) : t.inLoop = true := by
  by_contra hn
  unfold Passes at h
  simp only [check, Check.stmt, Check.jump, if_neg hn] at h
  cases h _ (.head _)

lemma Passes.cont {line : Nat} (h : (stmt (.cont line)).Passes t) : t.inLoop = true := by
  by_contra hn
  unfold Passes at h
  simp only [check, Check.stmt, Check.jump, if_neg hn] at h
  cases h _ (.head _)

end Task

end Imperative
