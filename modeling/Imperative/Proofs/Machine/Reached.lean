import Imperative.Proofs.Machine.Invariant

/-!
The places that a run comes to, and what an invariant says there.

The places are followed in the run and in the check at once, so each comes with the table of symbols
that the check has at it.
-/

namespace Imperative

/-- The expression that a statement evaluates before it does anything else. -/
def Stmt.first? : Stmt → Option Expr
  | .assign _ e _ | .ret e _ | .print e _ | .expr e _ | .cond e _ _ _ | .loop e _ _ => some e
  | _ => none

/-- A run of the program from the machine `m₀` comes to the task with the last machine. The check
has the table there; calls are under way from places with the tables of the list, the latest
first. -/
inductive Reached (p : Program) (m₀ : Machine) :
    List SymbolTable → SymbolTable → Task → Machine → Prop
  | program : Reached p m₀ [] .initial (.stmts p) m₀
  | head {cs t s ss m} : Reached p m₀ cs t (.stmts (s :: ss)) m → Reached p m₀ cs t (.stmt s) m
  | tail {cs t s ss m n m'} : Reached p m₀ cs t (.stmts (s :: ss)) m →
      (execStmt n s).run m = .done .normal m' →
      Reached p m₀ cs (Check.stmt s t).symbols (.stmts ss) m'
  | decl {cs t type is line m} : Reached p m₀ cs t (.stmt (.decl type is line)) m →
      Reached p m₀ cs t (.inits type is) m
  | init {cs t type i is m} : Reached p m₀ cs t (.inits type (i :: is)) m →
      Reached p m₀ cs t (.expr i.value) m
  | nextInit {cs t type i is m n v m'} : Reached p m₀ cs t (.inits type (i :: is)) m →
      (evalExpr n i.value).run m = .done v m' →
      Reached p m₀ cs (Check.declare i.name (.var type) i.line t).symbols (.inits type is)
        { m' with memory := m'.memory.declare i.name (v.coerce type) }
  | first {cs t s e m} : Reached p m₀ cs t (.stmt s) m → s.first? = some e →
      Reached p m₀ cs t (.expr e) m
  | yes {cs t test yes no line m n v m'} : Reached p m₀ cs t (.stmt (.cond test yes no line)) m →
      (evalExpr n test).run m = .done v m' → v.truthy = true → Reached p m₀ cs t (.stmt yes) m'
  | no {cs t test yes no line m n v m'} :
      Reached p m₀ cs t (.stmt (.cond test yes (some no) line)) m →
      (evalExpr n test).run m = .done v m' → v.truthy = false →
      Reached p m₀ cs (Check.stmt yes t).symbols (.stmt no) m'
  | body {cs t test body line m n v m'} : Reached p m₀ cs t (.stmt (.loop test body line)) m →
      (evalExpr n test).run m = .done v m' → v.truthy = true →
      Reached p m₀ cs (t.push .loop) (.stmt body) (m'.enter (.block "while"))
  | again {cs t test body line m n v m' n' s m''} :
      Reached p m₀ cs t (.stmt (.loop test body line)) m →
      (evalExpr n test).run m = .done v m' → v.truthy = true →
      (execStmt n' body).run (m'.enter (.block "while")) = .done s m'' → s = .normal ∨ s = .cont →
      Reached p m₀ cs t (.stmt (.loop test body line)) m''.leave
  | repeatBody {cs t body test line m} :
      Reached p m₀ cs t (.stmt (.repeatUntil body test line)) m →
      Reached p m₀ cs (t.push .loop) (.stmts body) (m.enter (.block "repeat"))
  | repeatTest {cs t body test line m n s m'} :
      Reached p m₀ cs t (.stmt (.repeatUntil body test line)) m →
      (execStmts n body).run (m.enter (.block "repeat")) = .done s m' → s = .normal ∨ s = .cont →
      Reached p m₀ cs (Check.stmts body (t.push .loop)).symbols.pop (.expr test) m'.leave
  | repeatAgain {cs t body test line m n s m' n' v m''} :
      Reached p m₀ cs t (.stmt (.repeatUntil body test line)) m →
      (execStmts n body).run (m.enter (.block "repeat")) = .done s m' → s = .normal ∨ s = .cont →
      (evalExpr n' test).run m'.leave = .done v m'' → v.truthy = false →
      Reached p m₀ cs t (.stmt (.repeatUntil body test line)) m''
  | block {cs t body line m} : Reached p m₀ cs t (.stmt (.block body line)) m →
      Reached p m₀ cs (t.push .block) (.stmts body) (m.enter (.block "block"))
  | labeled {cs t label body line m} : Reached p m₀ cs t (.stmt (.labeled label body line)) m →
      Reached p m₀ cs t (.stmt body) m
  | left {cs t op l r line m} : Reached p m₀ cs t (.expr (.bin op l r line)) m →
      Reached p m₀ cs t (.expr l) m
  | right {cs t op l r line m n a m'} : Reached p m₀ cs t (.expr (.bin op l r line)) m →
      (evalExpr n l).run m = .done a m' → Reached p m₀ cs t (.expr r) m'
  | args {cs t name es line m d} : Reached p m₀ cs t (.expr (.call name es line)) m →
      m.functions.get? name = some d → Reached p m₀ cs t (.args es) m
  | arg {cs t e es m} : Reached p m₀ cs t (.args (e :: es)) m → Reached p m₀ cs t (.expr e) m
  | nextArg {cs t e es m n v m'} : Reached p m₀ cs t (.args (e :: es)) m →
      (evalExpr n e).run m = .done v m' → Reached p m₀ cs t (.args es) m'
  | call {cs t name es line m d n vs m' u v} : Reached p m₀ cs t (.expr (.call name es line)) m →
      m.functions.get? name = some d → (evalArgs n es).run m = .done vs m' →
      Seen p u (.stmt (.fn d.header d.body)) →
      u.declare d.header.name (.fn (Check.signatureOf d.header)) = .ok v →
      Reached p m₀ (t :: cs) (Check.entry d.header v) (.stmts d.body)
        (m'.enter (callFrame d.header vs))

/-- A run comes to places that the check comes by. -/
lemma Reached.seen {p : Program} {m₀ m : Machine} {cs : List SymbolTable} {t : SymbolTable}
    {k : Task} (h : Reached p m₀ cs t k m) : Seen p t k := by
  induction h with
  | program => exact .program
  | head _ ih | decl _ ih | init _ ih | block _ ih | labeled _ ih | left _ ih | args _ _ ih
  | arg _ ih | repeatBody _ ih => exact ih.part (.head _)
  | tail _ _ ih | nextInit _ _ ih | body _ _ _ ih | repeatTest _ _ _ ih | right _ _ ih
  | nextArg _ _ ih => exact ih.part (.tail _ (.head _))
  | again _ _ _ _ _ ih | repeatAgain _ _ _ _ _ ih => exact ih
  | @first _ _ s _ _ _ hf ih =>
    refine ih.part ?_
    cases s with
    | assign | ret | print | expr | loop => cases hf; exact .head _
    | cond _ _ no => cases hf; cases no <;> exact .head _
    | _ => cases hf
  | @yes _ _ _ _ no _ _ _ _ _ _ _ _ ih =>
    exact ih.part (by cases no <;> exact .tail _ (.head _))
  | no _ _ _ ih => exact ih.part (.tail _ (.tail _ (.head _)))
  | call _ _ _ hu hv => exact hu.part (by simp [Task.parts, hv])

/-- The check comes by each function definition once. -/
def Unambiguous (p : Program) : Prop :=
  ∀ t u h body, Seen p t (.stmt (.fn h body)) → Seen p u (.stmt (.fn h body)) → t = u

namespace Invariant

variable {p : Program} (I : Invariant p)

/-- The invariant holds at a place of the task that is the given one, unless the program is
ambiguous. -/
def At (cs : List SymbolTable) (t : SymbolTable) (k : Task) (m : Machine) : Prop :=
  ∃ cs' t', (Unambiguous p → cs' = cs ∧ t' = t) ∧ Seen p t' k ∧ I.Holds cs' t' m

variable {I} {m₀ m m' : Machine} {cs : List SymbolTable} {t : SymbolTable} {k j : Task}

/-- A step to a part of the task, in the same scope or in a scope inside. -/
lemma At.part (h : I.At cs t k m) (next : SymbolTable → SymbolTable)
    (hj : ∀ t, (next t, j) ∈ k.parts t)
    (hm : ∀ cs t, Seen p t k → I.Holds cs t m → I.Holds cs (next t) m') :
    I.At cs (next t) j m' := by
  obtain ⟨cs', t', heq, hs, h⟩ := h
  refine ⟨cs', next t', fun hu => ?_, hs.part (hj t'), hm cs' t' hs h⟩
  obtain ⟨rfl, rfl⟩ := heq hu
  exact ⟨rfl, rfl⟩

/-- A step to the same task once more. -/
lemma At.again (h : I.At cs t k m) (hm : ∀ cs t, Seen p t k → I.Holds cs t m → I.Holds cs t m') :
    I.At cs t k m' := by
  obtain ⟨cs', t', heq, hs, h⟩ := h
  exact ⟨cs', t', heq, hs, hm cs' t' hs h⟩

/-- The call of a function: of all places with its definition, only the run can tell which. -/
lemma At.call {name : String} {es : List Expr} {line : Nat} {d : FnDecl} {n : Nat}
    {vs : List Value} {u v : SymbolTable} (hp : Passes p)
    (h : I.At cs t (.expr (.call name es line)) m) (hd : m.functions.get? name = some d)
    (hr : (evalArgs n es).run m = .done vs m') (hu : Seen p u (.stmt (.fn d.header d.body)))
    (hv : u.declare d.header.name (.fn (Check.signatureOf d.header)) = .ok v) :
    I.At (t :: cs) (Check.entry d.header v) (.stmts d.body)
      (m'.enter (callFrame d.header vs)) := by
  obtain ⟨cs', t', heq, hs, h⟩ := h
  obtain ⟨h', hvs⟩ := ((I.keeps hp n).args (hs.part (.head _)) h).done hr
  have hgrow := ((growsAt n).args es m).done hr
  obtain ⟨u', v', hu', hv', hentry⟩ := I.call hs h hd hgrow h' hvs
  refine ⟨t' :: cs', _, fun ha => ?_, hu'.part (by simp [Task.parts, hv']), hentry⟩
  obtain ⟨rfl, rfl⟩ := heq ha
  obtain rfl := ha _ _ _ _ hu hu'
  rw [hv] at hv'
  cases hv'
  exact ⟨rfl, rfl⟩

/-- **The invariant holds at every place that a run comes to.** -/
theorem reached (hp : Passes p) (hm : I.Holds [] .initial m₀) (h : Reached p m₀ cs t k m) :
    I.At cs t k m := by
  have keeps := I.keeps hp
  induction h with
  | program => exact ⟨[], .initial, fun _ => ⟨rfl, rfl⟩, .program, hm⟩
  | head _ ih => exact ih.part id (fun _ => .head _) fun _ _ _ h => h
  | @tail cs t s ss m n m' _ hr ih =>
    refine ih.part (fun t => (Check.stmt s t).symbols) (fun _ => .tail _ (.head _)) ?_
    exact fun cs t hs h => (((keeps n).stmt (hs.part (.head _)) h).done hr).holds
  | decl _ ih => exact ih.part id (fun _ => .head _) fun _ _ _ h => h
  | init _ ih => exact ih.part id (fun _ => .head _) fun _ _ _ h => h
  | @nextInit cs t type i is m n v m' _ hr ih =>
    refine ih.part (fun t => (Check.declare i.name (.var type) i.line t).symbols)
      (fun _ => .tail _ (.head _)) fun cs t hs h => ?_
    obtain ⟨h', hv⟩ := ((keeps n).expr (hs.part (.head _)) h).done hr
    exact I.declare hs h' hv
  | @first cs t s e m _ hf ih =>
    refine ih.part id (fun t => ?_) fun _ _ _ h => h
    cases s with
    | assign | ret | print | expr | loop => cases hf; exact .head _
    | cond _ _ no => cases hf; cases no <;> exact .head _
    | _ => cases hf
  | @yes cs t test yes no line m n v m' _ hr _ ih =>
    refine ih.part id (fun _ => by cases no <;> exact .tail _ (.head _)) fun cs t hs h => ?_
    have htest : Seen p t (.expr test) := hs.part (by cases no <;> exact .head _)
    exact (((keeps n).expr htest h).done hr).1
  | @no cs t test yes no line m n v m' _ hr _ ih =>
    refine ih.part (fun t => (Check.stmt yes t).symbols) (fun _ => .tail _ (.tail _ (.head _)))
      fun cs t hs h => ?_
    have h' := (((keeps n).expr (hs.part (.head _)) h).done hr).1
    exact I.skip hs (.inl rfl) (hs.part (.tail _ (.head _))) h'
  | @body cs t test body line m n v m' _ hr _ ih =>
    refine ih.part (fun t => t.push .loop) (fun _ => .tail _ (.head _)) fun cs t hs h => ?_
    exact I.enterScope (by simp) (((keeps n).expr (hs.part (.head _)) h).done hr).1
  | @again cs t test body line m n v m' n' s m'' _ hr _ hb _ ih =>
    refine ih.again fun cs t hs h => ?_
    have h' : I.Holds cs (t.push .loop) (m'.enter (.block "while")) :=
      I.enterScope (by simp) (((keeps n).expr (hs.part (.head _)) h).done hr).1
    exact (((keeps n').stmt (hs.part (.tail _ (.head _))) h').done hb).leaveScope (by simp)
  | repeatBody _ ih =>
    exact ih.part (fun t => t.push .loop) (fun _ => .head _) fun _ _ _ h =>
      I.enterScope (by simp) h
  | @repeatTest cs t body test line m n s m' _ hr _ ih =>
    refine ih.part (fun t => (Check.stmts body (t.push .loop)).symbols.pop)
      (fun _ => .tail _ (.head _)) fun cs t hs h => ?_
    have h' := ((keeps n).stmts (hs.part (.head _)) (I.enterScope (by simp) h)).done hr
    exact (I.settle (Check.stmts_extends body _).pop).1 (h'.leaveScope (by simp))
  | @repeatAgain cs t body test line m n s m' n' v m'' _ hr _ ht _ ih =>
    refine ih.again fun cs t hs h => ?_
    have hext := (Check.stmts_extends body (t.push .loop)).pop
    have h' := ((keeps n).stmts (hs.part (.head _)) (I.enterScope (by simp) h)).done hr
    have htest := (I.settle hext).1 (h'.leaveScope (by simp))
    exact (I.settle hext).2 (((keeps n').expr (hs.part (.tail _ (.head _))) htest).done ht).1
  | block _ ih =>
    exact ih.part (fun t => t.push .block) (fun _ => .head _) fun _ _ _ h =>
      I.enterScope (by simp) h
  | labeled _ ih => exact ih.part id (fun _ => .head _) fun _ _ _ h => h
  | left _ ih => exact ih.part id (fun _ => .head _) fun _ _ _ h => h
  | @right cs t op l r line m n a m' _ hr ih =>
    exact ih.part id (fun _ => .tail _ (.head _)) fun cs t hs h =>
      (((keeps n).expr (hs.part (.head _)) h).done hr).1
  | args _ _ ih => exact ih.part id (fun _ => .head _) fun _ _ _ h => h
  | arg _ ih => exact ih.part id (fun _ => .head _) fun _ _ _ h => h
  | @nextArg cs t e es m n v m' _ hr ih =>
    exact ih.part id (fun _ => .tail _ (.head _)) fun cs t hs h =>
      (((keeps n).expr (hs.part (.head _)) h).done hr).1
  | call _ hd hr hu hv ih => exact ih.call hp hd hr hu hv

end Invariant

end Imperative
