import Imperative.Proofs.Check.Report
import Imperative.Proofs.Typing.Agreement
import Imperative.Proofs.Typing.Context

/-!
The check decides the type system.

By recursion on the tree, what passes is well typed and what is well typed passes, where the table
of symbols says what the context says. The two agree on the return types of functions because no
function is defined within one of the same name.
-/

namespace Imperative

open Stmt

variable {p : Program} {t u : SymbolTable} {Γ Γ' : Context} {ahead : List Stmt}

/-- No function in the function at the node has the name of that one. -/
def Node.Apart : Node → Prop
  | stmt (.fn h body) => ∀ n ∈ (program body).walk, ∀ g ∈ n.headers, g.name ≠ h.name
  | _ => True

instance : DecidablePred Node.Apart
  | .stmt (.fn h body) => inferInstanceAs
      (Decidable (∀ n ∈ (Node.program body).walk, ∀ g ∈ n.headers, g.name ≠ h.name))
  | .stmt (.decl ..) | .stmt (.assign ..) | .stmt (.cond ..) | .stmt (.loop ..)
  | .stmt (.repeatUntil ..) | .stmt (.block ..) | .stmt (.ret ..) | .stmt (.brk _)
  | .stmt (.cont _) | .stmt (.print ..) | .stmt (.labeled ..) | .stmt (.expr ..)
  | .program _ | .expr _ => inferInstanceAs (Decidable True)

/-- No function is defined within one of the same name, at any depth. -/
def NamesApart (p : Program) : Prop := ∀ n ∈ (Node.program p).walk, n.Apart

instance (p : Program) : Decidable (NamesApart p) :=
  inferInstanceAs (Decidable (∀ n ∈ (Node.program p).walk, n.Apart))

mutual

/-- The statements of a function are nodes of it. -/
theorem Node.own_mem_walk {r : Node} (s : Stmt) (h : .stmt s ∈ r.walk) :
    ∀ s' ∈ s.own, .stmt s' ∈ r.walk := by
  refine List.forall_mem_cons.2 ⟨h, ?_⟩
  match s with
  | .decl .. | .assign .. | .fn .. | .ret .. | .brk _ | .cont _ | .print .. | .expr .. =>
    exact List.forall_mem_nil _
  | .cond _ yes none _ => exact own_mem_walk yes (child_mem_walk h (.tail _ (.head _)))
  | .cond _ yes (some no) _ =>
    exact List.forall_mem_append.2 ⟨own_mem_walk yes (child_mem_walk h (.tail _ (.head _))),
      own_mem_walk no (child_mem_walk h (.tail _ (.tail _ (.head _))))⟩
  | .loop _ body _ => exact own_mem_walk body (child_mem_walk h (.tail _ (.head _)))
  | .labeled _ body _ => exact own_mem_walk body (child_mem_walk h (.head _))
  | .repeatUntil body _ _ =>
    exact ownIn_mem_walk body fun s hs =>
      child_mem_walk h (List.mem_append_left _ (List.mem_map_of_mem hs))
  | .block body _ =>
    exact ownIn_mem_walk body fun s hs => child_mem_walk h (List.mem_map_of_mem hs)

theorem Node.ownIn_mem_walk {r : Node} (ss : List Stmt) (h : ∀ s ∈ ss, .stmt s ∈ r.walk) :
    ∀ s ∈ ownIn ss, .stmt s ∈ r.walk := by
  match ss with
  | [] => exact List.forall_mem_nil _
  | s :: ss =>
    obtain ⟨hs, hss⟩ := List.forall_mem_cons.1 h
    exact List.forall_mem_append.2 ⟨own_mem_walk s hs, ownIn_mem_walk ss hss⟩

end

/-- A function defines none of its own name. -/
lemma NamesApart.clear (ha : NamesApart p) {h : FnHeader} {body : List Stmt}
    (hs : Seen p t (.stmt (.fn h body))) : Clear h.name (ownIn body) := by
  have hapart : Node.Apart (.stmt (.fn h body)) := ha _ hs.within
  intro s hin
  have hwalk := Node.ownIn_mem_walk body (Node.stmt_mem_walk body) s hin
  cases s with
  | fn g b => simpa [defines] using hapart _ hwalk g (.head _)
  | _ => rfl

namespace NoUnknown

lemma source_var (hn : NoUnknown p) {name : String} {type : Ty}
    (h : Source p name (.var type)) : type ≠ .unknown := by
  cases h with
  | var h => exact hn.init h
  | param hs hq =>
    intro hk
    exact hn _ hs.within (.tail _ (hk ▸ List.mem_map_of_mem hq))
  | fn _ hsettles => cases hsettles

lemma source_fn (hn : NoUnknown p) {name : String} {g : Signature}
    (h : Source p name (.fn g)) : g.returnType ≠ .unknown := by
  obtain ⟨t, header, body, hs, -, hreturn, -⟩ := h.definition
  rw [hreturn]
  exact hn.returns hs

end NoUnknown

lemma eq_of_forall₂_known {es rs : List Ty}
    (h : List.Forall₂ (fun e r => e = r ∨ r = .unknown) es rs) (hk : .unknown ∉ rs) : es = rs := by
  induction h with
  | nil => rfl
  | cons hr _ ih =>
    rw [List.mem_cons, not_or] at hk
    rw [hr.resolve_right (Ne.symm hk.1), ih hk.2]

lemma takes_of_storable {declared assigned : Ty} (h : Task.Storable declared assigned)
    (hd : declared ≠ .unknown) (ha : assigned ≠ .unknown) : Takes declared assigned := by
  rcases h with h | h | h | h | h
  · exact .inl h
  · exact (hd h).elim
  · exact (ha h).elim
  · exact .inr (.inl h)
  · exact .inr (.inr h)

lemma Takes.findings {declared assigned : Ty} (h : Takes declared assigned) (line : Nat) :
    ∀ f ∈ storeFindings declared assigned line, f.problem.isError = false := by
  rcases h with rfl | ⟨rfl, rfl⟩ | ⟨rfl, rfl⟩
  · simp [storeFindings]
  · exact List.forall_mem_nil _
  · exact List.forall_mem_singleton.2 rfl

lemma argumentFindings_self (name : String) (line index : Nat) (types : List Ty) :
    Expr.argumentFindings name line index types types = [] := by
  induction types generalizing index with
  | nil => rfl
  | cons type types ih => simp [Expr.argumentFindings, ih]

namespace Models

mutual

/-- An expression that passes has the type that the check gives it. -/
theorem expr_sound (hn : NoUnknown p) (hm : Models t Γ ahead) (e : Expr)
    (hs : Seen p t (.expr e)) (hp : (Task.expr e).Passes t) :
    HasType Γ e (e.type t) ∧ e.type t ≠ .unknown := by
  match e with
  | .lit l => exact ⟨.lit, by show l.kind.type ≠ _; cases l.kind <;> exact Ty.noConfusion⟩
  | .var name line =>
    obtain ⟨type, hr⟩ := hp.var
    have htype : Expr.type t (.var name line) = type := by simp [Expr.type, hr]
    rw [htype]
    exact ⟨.var (hm.resolve?_var.1 hr), hn.source_var (hs.proper.sourced.resolve? hr)⟩
  | .bin op l r line =>
    obtain ⟨hl, hlk⟩ := expr_sound hn hm l (hs.part (.head _)) (hp.parts _ (.head _))
    obtain ⟨hr, hrk⟩ := expr_sound hn hm r (hs.part (.tail _ (.head _)))
      (hp.parts _ (.tail _ (.head _)))
    obtain ⟨type, hop⟩ := Option.isSome_iff_exists.1
      (hp.bin.resolve_right (not_or.2 ⟨hlk, hrk⟩))
    have htype : Expr.type t (.bin op l r line) = type := by simp [Expr.type, hop]
    rw [htype]
    exact ⟨.bin hl hr hop, (Operator.known_of_resultType hop).2.2⟩
  | .call name args line =>
    obtain ⟨g, hg, hparams⟩ := hp.call
    obtain ⟨hargs, hk⟩ := args_sound hn hm args (hs.part (.head _)) (hp.parts _ (.head _))
    have heq := eq_of_forall₂_known hparams hk
    have htype : Expr.type t (.call name args line) = g.returnType := by simp [Expr.type, hg]
    rw [htype]
    rw [← heq] at hargs
    exact ⟨.call (hm.resolve?_fn hg) hargs, hn.source_fn (hs.proper.sourced.resolve? hg)⟩

theorem args_sound (hn : NoUnknown p) (hm : Models t Γ ahead) (es : List Expr)
    (hs : Seen p t (.args es)) (hp : (Task.args es).Passes t) :
    HaveTypes Γ es (es.map (Expr.type t)) ∧ .unknown ∉ es.map (Expr.type t) := by
  match es with
  | [] => exact ⟨.nil, List.not_mem_nil⟩
  | e :: es =>
    obtain ⟨he, hk⟩ := expr_sound hn hm e (hs.part (.head _)) (hp.parts _ (.head _))
    obtain ⟨hes, hks⟩ := args_sound hn hm es (hs.part (.tail _ (.head _)))
      (hp.parts _ (.tail _ (.head _)))
    refine ⟨.cons he hes, ?_⟩
    rw [List.map_cons, List.mem_cons, not_or]
    exact ⟨Ne.symm hk, hks⟩

end

mutual

/-- An expression of a type passes, and the check gives it the type. -/
theorem expr_complete (hm : Models t Γ ahead) (e : Expr) {type : Ty} (h : HasType Γ e type) :
    e.type t = type ∧ (Task.expr e).Passes t := by
  match e with
  | .lit l =>
    cases h
    exact ⟨rfl, List.forall_mem_nil _⟩
  | .var name line =>
    cases h with
    | var hname =>
      have hr := hm.resolve?_var.2 hname
      refine ⟨by simp [Expr.type, hr], Task.passes_iff_parts.2 ⟨?_, List.forall_mem_nil _⟩⟩
      simp [Task.reports, Expr.nameFindings, hr]
  | .bin op l r line =>
    cases h with
    | bin hl hr hop =>
      obtain ⟨rfl, hpl⟩ := expr_complete hm l hl
      obtain ⟨rfl, hpr⟩ := expr_complete hm r hr
      refine ⟨by simp [Expr.type, hop], Task.passes_iff_parts.2 ⟨?_, Task.forall_mem_pair hpl hpr⟩⟩
      simp [Task.reports, Expr.operandFindings, hop]
  | .call name args line =>
    cases h with
    | call hname hargs =>
      obtain ⟨g, hg, rfl, rfl⟩ := hm.resolve?_of_fn hname
      obtain ⟨htypes, hpargs⟩ := args_complete hm args hargs
      refine ⟨by simp [Expr.type, hg],
        Task.passes_iff_parts.2 ⟨?_, List.forall_mem_singleton.2 hpargs⟩⟩
      simp [Task.reports, Expr.callFindings, hg, htypes, argumentFindings_self]

theorem args_complete (hm : Models t Γ ahead) (es : List Expr) {types : List Ty}
    (h : HaveTypes Γ es types) : es.map (Expr.type t) = types ∧ (Task.args es).Passes t := by
  match es with
  | [] =>
    cases h
    exact ⟨rfl, List.forall_mem_nil _⟩
  | e :: es =>
    cases h with
    | cons he hes =>
      obtain ⟨rfl, hpe⟩ := expr_complete hm e he
      obtain ⟨rfl, hpes⟩ := args_complete hm es hes
      exact ⟨rfl, Task.passes_iff_parts.2 ⟨List.forall_mem_nil _, Task.forall_mem_pair hpe hpes⟩⟩

end

section Inits

variable {type : Ty}

lemma declareVar {name : String} (hm : Models t Γ ahead)
    (hu : t.declare name (.var type) = .ok u) :
    Models u (Γ.declare name (.var type)) ahead :=
  hm.declare hu (by simp)

theorem inits_sound (hn : NoUnknown p) {is : List Init} (hs : Seen p t (.inits type is))
    (hm : Models t Γ ahead) (hp : (Task.inits type is).Passes t) :
    ∃ Γ', InitsTyped type Γ is Γ' ∧ Models (Check.inits type is t).symbols Γ' ahead := by
  induction is generalizing t Γ with
  | nil => exact ⟨Γ, .nil, hm⟩
  | cons i is ih =>
    obtain ⟨hstore, hu⟩ := hp.init
    obtain ⟨hvalue, hk⟩ := hm.expr_sound hn i.value (hs.part (.head _)) (hp.parts _ (.head _))
    have htakes := takes_of_storable hstore (hn.init hs) hk
    obtain ⟨Γ', his, hm'⟩ := ih (hs.part (.tail _ (.head _))) (hm.declareVar hu)
      (hp.parts _ (.tail _ (.head _)))
    exact ⟨Γ', .cons hvalue htakes (hm.admits.1 ⟨_, hu⟩) his, hm'⟩

theorem inits_complete {is : List Init} (hm : Models t Γ ahead) (h : InitsTyped type Γ is Γ') :
    (Task.inits type is).Passes t ∧ Models (Check.inits type is t).symbols Γ' ahead := by
  induction is generalizing t Γ with
  | nil =>
    cases h
    exact ⟨List.forall_mem_nil _, hm⟩
  | cons i is ih =>
    cases h with
    | cons hvalue htakes hname his =>
      obtain ⟨rfl, hpv⟩ := hm.expr_complete i.value hvalue
      obtain ⟨u, hu⟩ := (hm.admits (a := .var type)).2 hname
      have hdeclare : Check.declare i.name (.var type) i.line t = ⟨u, []⟩ := by
        rw [Check.declare, hu]
      obtain ⟨hpis, hm'⟩ := ih (hm.declareVar hu) his
      have hself : ∀ f ∈ (Task.inits type (i :: is)).reports t, f.problem.isError = false := by
        simp only [Task.reports, hdeclare, List.append_nil]
        exact htakes.findings i.line
      constructor
      · refine Task.passes_iff_parts.2 ⟨hself, Task.forall_mem_pair hpv ?_⟩
        rw [hdeclare]
        exact hpis
      · simp only [Check.inits, Checked.andThen, hdeclare]
        exact hm'

end Inits

theorem params_sound {ps : List Param} (hm : Models t Γ ahead) (hp : (Check.params ps t).Passes) :
    ∃ Γ', ParamsDeclared Γ ps Γ' ∧ Models (Check.params ps t).symbols Γ' ahead := by
  induction ps generalizing t Γ with
  | nil => exact ⟨Γ, .nil, hm⟩
  | cons q ps ih =>
    obtain ⟨hpq, hpps⟩ := Checked.passes_andThen.1 hp
    have hu := Task.declare_of_passes hpq
    obtain ⟨Γ', hps, hm'⟩ := ih (hm.declareVar hu) hpps
    exact ⟨Γ', .cons (hm.admits.1 ⟨_, hu⟩) hps, hm'⟩

theorem params_complete {ps : List Param} (hm : Models t Γ ahead) (h : ParamsDeclared Γ ps Γ') :
    (Check.params ps t).Passes ∧ Models (Check.params ps t).symbols Γ' ahead := by
  induction ps generalizing t Γ with
  | nil =>
    cases h
    exact ⟨List.forall_mem_nil _, hm⟩
  | cons q ps ih =>
    cases h with
    | cons hname hps =>
      obtain ⟨u, hu⟩ := (hm.admits (a := .var q.type)).2 hname
      have hdeclare : Check.declare q.name (.var q.type) q.line t = ⟨u, []⟩ := by
        rw [Check.declare, hu]
      obtain ⟨hpps, hm'⟩ := ih (hm.declareVar hu) hps
      simp only [Check.params, hdeclare, Checked.passes_andThen]
      exact ⟨⟨List.forall_mem_nil _, hpps⟩, hm'⟩

/-- The definition of a function, for all that comes after it. -/
lemma declareFn {h : FnHeader} {body : List Stmt} (hm : Models t Γ ahead)
    (hl : (Stmt.fn h body).own ⊆ ahead)
    (hu : t.declare h.name (.fn (Check.signatureOf h)) = .ok u) :
    Models u (Γ.declare h.name h.entry) ahead := by
  refine hm.declare hu fun f g hc hin => ?_
  have hname := hc _ (hl (.head _))
  cases List.mem_singleton.1 hin
  simp [defines] at hname

/-- A return that passes is compared with what the function at hand returns. -/
lemma of_ret {e : Expr} {line : Nat} (hm : Models t Γ ahead)
    (hp : (Task.stmt (.ret e line)).Passes t) :
    ∃ f g, t.signature? f = some g ∧ Γ.returnType = some g.returnType ∧
      (g.returnType = e.type t ∨ g.returnType = .unknown ∨ e.type t = .unknown) := by
  obtain ⟨f, hf, hreturn⟩ := hp.ret
  have hr := hm.returns
  cases hΓ : Γ.returnType with
  | none =>
    rw [hΓ] at hr
    cases hf.symm.trans hr
  | some type =>
    rw [hΓ] at hr
    obtain ⟨f', ⟨hf', g, hg, rfl⟩, -⟩ := hr
    cases hf.symm.trans hf'
    exact ⟨f, g, hg, rfl, hreturn g hg⟩

mutual

/-- A statement that passes is well typed. -/
theorem stmt_sound (hn : NoUnknown p) (ha : NamesApart p) (s : Stmt) {t : SymbolTable}
    {Γ : Context} {ahead : List Stmt} (hs : Seen p t (.stmt s)) (hm : Models t Γ ahead)
    (hl : s.own ⊆ ahead) (hp : (Task.stmt s).Passes t) :
    ∃ Γ', WellTyped Γ s Γ' ∧ Models (Check.stmt s t).symbols Γ' ahead := by
  -- The list is that of the whole function: it stays the same until a body is entered.
  have hl' := (List.cons_subset.1 hl).2
  match s with
  | .decl type is _ =>
    obtain ⟨Γ', his, hm'⟩ := inits_sound hn (hs.part (.head _)) hm (hp.parts _ (.head _))
    exact ⟨Γ', .decl his, hm'⟩
  | .assign name e line =>
    obtain ⟨type, hr, hstore⟩ := hp.assign
    obtain ⟨he, hk⟩ := hm.expr_sound hn e (hs.part (.head _)) (hp.parts _ (.head _))
    have hd := hn.source_var (hs.proper.sourced.resolve? hr)
    exact ⟨Γ, .assign (hm.resolve?_var.1 hr) he (takes_of_storable hstore hd hk), hm⟩
  | .cond test yes none _ =>
    obtain ⟨htest, -⟩ := hm.expr_sound hn test (hs.part (.head _)) (hp.parts _ (.head _))
    obtain ⟨Γ', hyes, hm'⟩ := stmt_sound hn ha yes (hs.part (.tail _ (.head _))) hm hl'
      (hp.parts _ (.tail _ (.head _)))
    exact ⟨Γ', .cond htest hyes, hm'⟩
  | .cond test yes (some no) _ =>
    obtain ⟨hlyes, hlno⟩ := List.append_subset.1 hl'
    obtain ⟨htest, -⟩ := hm.expr_sound hn test (hs.part (.head _)) (hp.parts _ (.head _))
    obtain ⟨Γ', hyes, hm'⟩ := stmt_sound hn ha yes (hs.part (.tail _ (.head _))) hm hlyes
      (hp.parts _ (.tail _ (.head _)))
    obtain ⟨Γ'', hno, hm''⟩ := stmt_sound hn ha no (hs.part (.tail _ (.tail _ (.head _)))) hm' hlno
      (hp.parts _ (.tail _ (.tail _ (.head _))))
    exact ⟨Γ'', .condElse htest hyes hno, hm''⟩
  | .loop test body line =>
    obtain ⟨htest, -⟩ := hm.expr_sound hn test (hs.part (.head _)) (hp.parts _ (.head _))
    obtain ⟨_, hbody, -⟩ := stmt_sound hn ha body (hs.part (.tail _ (.head _))) hm.loop hl'
      (hp.parts _ (.tail _ (.head _)))
    exact ⟨Γ, .loop htest hbody, hm.settle (Check.stmt_extends (.loop test body line) t)⟩
  | .repeatUntil body test _ =>
    have hext := (Check.stmts_extends body (t.push .loop)).pop
    obtain ⟨_, hbody, -⟩ := stmts_sound hn ha body (hs.part (.head _)) hm.loop hl'
      (hp.parts _ (.head _))
    obtain ⟨htest, -⟩ := (hm.settle hext).expr_sound hn test (hs.part (.tail _ (.head _)))
      (hp.parts _ (.tail _ (.head _)))
    exact ⟨Γ, .repeatUntil hbody htest, hm.settle hext⟩
  | .fn h body =>
    obtain ⟨u, hu, hpparams⟩ := hp.fn
    have hin : (Check.entry h u, .stmts body) ∈ (Task.stmt (.fn h body)).parts t := by
      simp [Task.parts, hu]
    have hmu := hm.declareFn hl hu
    obtain ⟨_, hparams, hmbody⟩ := params_sound (hmu.function hu (ha.clear hs)) hpparams
    obtain ⟨_, hbody, -⟩ := stmts_sound hn ha body (hs.part hin) hmbody (List.Subset.refl _)
      (hp.parts _ hin)
    exact ⟨_, .fn (hm.admits.1 ⟨u, hu⟩) hparams hbody (hp.returns hu),
      hmu.settle (Check.fn_extends body hu)⟩
  | .block body _ =>
    obtain ⟨_, hbody, -⟩ := stmts_sound hn ha body (hs.part (.head _)) hm.block hl'
      (hp.parts _ (.head _))
    exact ⟨Γ, .block hbody, hm.settle (Check.stmts_extends body (t.push .block)).pop⟩
  | .ret e line =>
    obtain ⟨he, hk⟩ := hm.expr_sound hn e (hs.part (.head _)) (hp.parts _ (.head _))
    obtain ⟨f, g, hg, hreturn, htype⟩ := hm.of_ret hp
    have hknown := hn.source_fn (hs.proper.sourced.signature? hg)
    rw [← htype.resolve_right (not_or.2 ⟨hknown, hk⟩)] at he
    exact ⟨Γ, .ret hreturn he, hm.settle (Check.stmt_extends (.ret e line) t)⟩
  | .brk _ => exact ⟨Γ, .brk (hm.inLoop.symm.trans hp.brk), hm⟩
  | .cont _ => exact ⟨Γ, .cont (hm.inLoop.symm.trans hp.cont), hm⟩
  | .print e _ =>
    obtain ⟨he, -⟩ := hm.expr_sound hn e (hs.part (.head _)) (hp.parts _ (.head _))
    exact ⟨Γ, .print he, hm⟩
  | .expr e _ =>
    obtain ⟨he, -⟩ := hm.expr_sound hn e (hs.part (.head _)) (hp.parts _ (.head _))
    exact ⟨Γ, .expr he, hm⟩
  | .labeled _ body _ =>
    obtain ⟨Γ', hbody, hm'⟩ := stmt_sound hn ha body (hs.part (.head _)) hm hl'
      (hp.parts _ (.head _))
    exact ⟨Γ', .labeled hbody, hm'⟩

theorem stmts_sound (hn : NoUnknown p) (ha : NamesApart p) (ss : List Stmt) {t : SymbolTable}
    {Γ : Context} {ahead : List Stmt} (hs : Seen p t (.stmts ss)) (hm : Models t Γ ahead)
    (hl : ownIn ss ⊆ ahead) (hp : (Task.stmts ss).Passes t) :
    ∃ Γ', AllWellTyped Γ ss Γ' ∧ Models (Check.stmts ss t).symbols Γ' ahead := by
  match ss with
  | [] => exact ⟨Γ, .nil, hm⟩
  | s :: ss =>
    obtain ⟨hls, hlss⟩ := List.append_subset.1 hl
    obtain ⟨Γ', hs', hm'⟩ := stmt_sound hn ha s (hs.part (.head _)) hm hls (hp.parts _ (.head _))
    obtain ⟨Γ'', hss', hm''⟩ := stmts_sound hn ha ss (hs.part (.tail _ (.head _))) hm' hlss
      (hp.parts _ (.tail _ (.head _)))
    exact ⟨Γ'', .cons hs' hss', hm''⟩

end

/-- A return of the type of the function is noted, and nothing is said of it. -/
lemma ret_reports {e : Expr} {line : Nat} (hm : Models t Γ ahead)
    (hreturn : Γ.returnType = some (e.type t)) : (Task.stmt (.ret e line)).reports t = [] := by
  have hr := hm.returns
  rw [hreturn] at hr
  obtain ⟨f, ⟨hf, g, hg, htype⟩, -⟩ := hr
  simp only [Task.reports, Check.ret, hf, hg, htype, true_or, if_true]

mutual

/-- A well-typed statement passes. -/
theorem stmt_complete (ha : NamesApart p) (s : Stmt) {t : SymbolTable} {Γ Γ' : Context}
    {ahead : List Stmt} (hs : Seen p t (.stmt s)) (hm : Models t Γ ahead) (hl : s.own ⊆ ahead)
    (h : WellTyped Γ s Γ') : (Task.stmt s).Passes t ∧ Models (Check.stmt s t).symbols Γ' ahead := by
  have hl' := (List.cons_subset.1 hl).2
  rw [Task.passes_iff_parts]
  match s with
  | .decl .. =>
    cases h with
    | decl his =>
      obtain ⟨hpis, hm'⟩ := hm.inits_complete his
      exact ⟨⟨List.forall_mem_nil _, List.forall_mem_singleton.2 hpis⟩, hm'⟩
  | .assign name e line =>
    cases h with
    | assign hname he htakes =>
      obtain ⟨rfl, hpe⟩ := hm.expr_complete e he
      refine ⟨⟨?_, List.forall_mem_singleton.2 hpe⟩, hm⟩
      simp only [Task.reports, Check.assignFindings, hm.resolve?_var.2 hname]
      exact htakes.findings line
  | .cond test yes none _ =>
    cases h with
    | cond htest hyes =>
      obtain ⟨-, hptest⟩ := hm.expr_complete test htest
      obtain ⟨hpyes, hm'⟩ := stmt_complete ha yes (hs.part (.tail _ (.head _))) hm hl' hyes
      exact ⟨⟨List.forall_mem_nil _, Task.forall_mem_pair hptest hpyes⟩, hm'⟩
  | .cond test yes (some no) _ =>
    obtain ⟨hlyes, hlno⟩ := List.append_subset.1 hl'
    cases h with
    | condElse htest hyes hno =>
      obtain ⟨-, hptest⟩ := hm.expr_complete test htest
      obtain ⟨hpyes, hm'⟩ := stmt_complete ha yes (hs.part (.tail _ (.head _))) hm hlyes hyes
      obtain ⟨hpno, hm''⟩ := stmt_complete ha no (hs.part (.tail _ (.tail _ (.head _)))) hm' hlno
        hno
      exact ⟨⟨List.forall_mem_nil _,
        List.forall_mem_cons.2 ⟨hptest, Task.forall_mem_pair hpyes hpno⟩⟩, hm''⟩
  | .loop test body line =>
    cases h with
    | loop htest hbody =>
      obtain ⟨-, hptest⟩ := hm.expr_complete test htest
      obtain ⟨hpbody, -⟩ := stmt_complete ha body (hs.part (.tail _ (.head _))) hm.loop hl' hbody
      exact ⟨⟨List.forall_mem_nil _, Task.forall_mem_pair hptest hpbody⟩,
        hm.settle (Check.stmt_extends (.loop test body line) t)⟩
  | .repeatUntil body test _ =>
    have hm' := hm.settle (Check.stmts_extends body (t.push .loop)).pop
    cases h with
    | repeatUntil hbody htest =>
      obtain ⟨hpbody, -⟩ := stmts_complete ha body (hs.part (.head _)) hm.loop hl' hbody
      obtain ⟨-, hptest⟩ := hm'.expr_complete test htest
      exact ⟨⟨List.forall_mem_nil _, Task.forall_mem_pair hpbody hptest⟩, hm'⟩
  | .fn header body =>
    cases h with
    | fn hname hparams hbody hreturns =>
      obtain ⟨u, hu⟩ := (hm.admits (a := .fn (Check.signatureOf header))).2 hname
      have hin : (Check.entry header u, .stmts body) ∈ (Task.stmt (.fn header body)).parts t := by
        simp [Task.parts, hu]
      have hc := ha.clear hs
      have hmu := hm.declareFn hl hu
      obtain ⟨hpparams, hmbody⟩ := params_complete (hmu.function hu hc) hparams
      obtain ⟨hpbody, -⟩ := stmts_complete ha body (hs.part hin) hmbody (List.Subset.refl _) hbody
      refine ⟨⟨?_, ?_⟩, hmu.settle (Check.fn_extends body hu)⟩
      · simp only [Task.reports, hu, Check.missingReturn_findings hu hc, if_pos hreturns,
          List.append_nil]
        exact hpparams
      · simp only [Task.parts, hu]
        exact List.forall_mem_singleton.2 hpbody
  | .block body _ =>
    cases h with
    | block hbody =>
      obtain ⟨hpbody, -⟩ := stmts_complete ha body (hs.part (.head _)) hm.block hl' hbody
      exact ⟨⟨List.forall_mem_nil _, List.forall_mem_singleton.2 hpbody⟩,
        hm.settle (Check.stmts_extends body (t.push .block)).pop⟩
  | .ret e line =>
    cases h with
    | ret hreturn he =>
      obtain ⟨rfl, hpe⟩ := hm.expr_complete e he
      refine ⟨⟨?_, List.forall_mem_singleton.2 hpe⟩,
        hm.settle (Check.stmt_extends (.ret e line) t)⟩
      rw [hm.ret_reports hreturn]
      exact List.forall_mem_nil _
  | .brk line =>
    cases h with
    | brk hloop =>
      refine ⟨⟨?_, List.forall_mem_nil _⟩, hm⟩
      simp [Task.reports, Check.jump, hm.inLoop, hloop]
  | .cont line =>
    cases h with
    | cont hloop =>
      refine ⟨⟨?_, List.forall_mem_nil _⟩, hm⟩
      simp [Task.reports, Check.jump, hm.inLoop, hloop]
  | .print e _ =>
    cases h with
    | print he =>
      obtain ⟨-, hpe⟩ := hm.expr_complete e he
      exact ⟨⟨List.forall_mem_nil _, List.forall_mem_singleton.2 hpe⟩, hm⟩
  | .expr e _ =>
    cases h with
    | expr he =>
      obtain ⟨-, hpe⟩ := hm.expr_complete e he
      exact ⟨⟨List.forall_mem_nil _, List.forall_mem_singleton.2 hpe⟩, hm⟩
  | .labeled _ body _ =>
    cases h with
    | labeled hbody =>
      obtain ⟨hpbody, hm'⟩ := stmt_complete ha body (hs.part (.head _)) hm hl' hbody
      exact ⟨⟨List.forall_mem_nil _, List.forall_mem_singleton.2 hpbody⟩, hm'⟩

theorem stmts_complete (ha : NamesApart p) (ss : List Stmt) {t : SymbolTable} {Γ Γ' : Context}
    {ahead : List Stmt} (hs : Seen p t (.stmts ss)) (hm : Models t Γ ahead) (hl : ownIn ss ⊆ ahead)
    (h : AllWellTyped Γ ss Γ') :
    (Task.stmts ss).Passes t ∧ Models (Check.stmts ss t).symbols Γ' ahead := by
  match ss with
  | [] =>
    cases h
    exact ⟨List.forall_mem_nil _, hm⟩
  | s :: ss =>
    obtain ⟨hls, hlss⟩ := List.append_subset.1 hl
    cases h with
    | cons h hss =>
      obtain ⟨hp, hm'⟩ := stmt_complete ha s (hs.part (.head _)) hm hls h
      obtain ⟨hps, hm''⟩ := stmts_complete ha ss (hs.part (.tail _ (.head _))) hm' hlss hss
      exact ⟨Task.passes_iff_parts.2 ⟨List.forall_mem_nil _, Task.forall_mem_pair hp hps⟩, hm''⟩

end

end Models

/-- **The check decides the type system**, for programs that leave no type open and define no
function within one of the same name. -/
theorem check_decides_typing (file : String) (hn : NoUnknown p) (ha : NamesApart p) :
    (typeCheck p file).isValid = true ↔ ∃ Γ, AllWellTyped .initial p Γ := by
  rw [← passes_iff]
  have hm := Models.initial (ownIn p)
  constructor
  · intro hp
    obtain ⟨Γ, h, -⟩ := hm.stmts_sound hn ha p .program (List.Subset.refl _) hp
    exact ⟨Γ, h⟩
  · rintro ⟨Γ, h⟩
    exact (hm.stmts_complete ha p .program (List.Subset.refl _) h).1

/-- A function with another one inside, whose parameter is a float, and a loop whose variable hides
the parameter. -/
def measuring : Program :=
  [.decl .float [⟨"total", .lit ⟨.int, "0", 1⟩, 1⟩] 1,
    .fn ⟨"scale", .int, [⟨"n", .int, 2⟩], 2, 2⟩
      [.fn ⟨"unit", .string, [⟨"x", .float, 3⟩], 3, 3⟩ [.ret (.lit ⟨.string, "\"m\"", 3⟩) 3],
        .print (.call "unit" [.var "total" 4] 4) 4,
        .loop (.var "n" 5)
          (.block [.decl .float [⟨"n", .var "n" 5, 5⟩] 5, .assign "total" (.var "n" 5) 5, .brk 5] 5)
          5,
        .ret (.var "n" 6) 6],
    .print (.call "scale" [.lit ⟨.int, "3", 7⟩] 7) 7]

theorem check_decides_typing_measuring :
    (NoUnknown measuring ∧ NamesApart measuring ∧ ∃ Γ, AllWellTyped .initial measuring Γ) ∧
    ¬ ∃ Γ, AllWellTyped .initial (measuring ++ [.expr (.call "scale" [.var "total" 8] 8) 8]) Γ := by
  have hn : NoUnknown measuring := by decide +kernel
  have ha : NamesApart measuring := by decide +kernel
  have hv : (typeCheck measuring "f").isValid = true := by decide +kernel
  refine ⟨⟨hn, ha, (check_decides_typing "f" hn ha).1 hv⟩, fun h => ?_⟩
  have hv := (check_decides_typing "f" (by decide +kernel) (by decide +kernel)).2 h
  exact absurd hv (by decide +kernel)

end Imperative
