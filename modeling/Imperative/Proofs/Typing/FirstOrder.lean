import Imperative.Proofs.Typing.Agreement

/-!
Programs in which the check and a run cannot take a name for different things: all functions are
defined by statements of the program itself, and no branch of a condition is a declaration.
-/

namespace Imperative

variable {p : Program}

def Node.definesFunction : Node → Bool
  | stmt (.fn ..) => true
  | _ => false

/-- A branch of the condition is a declaration. -/
def Node.declaresInBranch : Node → Bool
  | stmt (.cond _ yes no _) => yes.declares || no.any Stmt.declares
  | _ => false

/-- All types are known, only statements of the program itself define functions, and no branch of a
condition is a declaration. -/
structure Plain (p : Program) : Prop where
  noUnknown : NoUnknown p
  firstOrder : ∀ s ∈ p, ∀ c ∈ (Node.stmt s).children, ∀ r ∈ c.walk, r.definesFunction = false
  unconditional : ∀ n ∈ (Node.program p).walk, n.declaresInBranch = false

instance (p : Program) : Decidable (Plain p) :=
  decidable_of_iff (NoUnknown p ∧
      (∀ s ∈ p, ∀ c ∈ (Node.stmt s).children, ∀ r ∈ c.walk, r.definesFunction = false) ∧
      ∀ n ∈ (Node.program p).walk, n.declaresInBranch = false)
    ⟨fun ⟨h, h', h''⟩ => ⟨h, h', h''⟩, fun ⟨h, h', h''⟩ => ⟨h, h', h''⟩⟩

/-- No function is defined at the node or below. -/
def FunctionFree (n : Node) : Prop := ∀ r ∈ n.walk, r.definesFunction = false

namespace FunctionFree

lemma child {n c : Node} (h : FunctionFree n) (hc : c ∈ n.children) : FunctionFree c := by
  intro r hr
  refine h r ?_
  rw [Node.walk_eq]
  exact .tail _ (List.mem_flatMap.2 ⟨c, hc, hr⟩)

lemma of_children {n : Node} (hn : n.definesFunction = false)
    (h : ∀ c ∈ n.children, FunctionFree c) : FunctionFree n := by
  intro r hr
  rw [Node.walk_eq] at hr
  rcases List.mem_cons.1 hr with rfl | hr
  · exact hn
  · obtain ⟨c, hc, hr⟩ := List.mem_flatMap.1 hr
    exact h c hc r hr

/-- Without declarations and functions, a branch adds nothing. -/
lemma adds_eq_nil (s : Stmt) (h : FunctionFree (.stmt s)) (hd : s.declares = false) :
    s.adds = [] := by
  match s with
  | .decl .. => cases hd
  | .cond _ yes none _ => exact adds_eq_nil yes (h.child (.tail _ (.head _))) hd
  | .cond _ yes (some no) _ =>
    obtain ⟨hyes, hno⟩ := Bool.or_eq_false_iff.1 hd
    unfold Stmt.adds
    rw [adds_eq_nil yes (h.child (.tail _ (.head _))) hyes,
      adds_eq_nil no (h.child (.tail _ (.tail _ (.head _)))) hno]
    rfl
  | .fn .. => cases h _ (Node.self_mem_walk _)
  | .labeled _ body _ => exact adds_eq_nil body (h.child (.head _)) hd
  | .assign .. | .loop .. | .repeatUntil .. | .block .. | .ret .. | .brk .. | .cont ..
  | .print .. | .expr .. => rfl

end FunctionFree

namespace SymbolTable

variable {t u : SymbolTable} {l : List (String × Symbol)}

/-- The function at hand is defined by a statement of the program itself. -/
def Flat (t : SymbolTable) : Prop := t.own = t.inner

lemma upToFunction_initial (r : List Scope) : upToFunction r <+: r := by
  induction r with
  | nil => exact List.prefix_refl []
  | cons s r ih =>
    unfold upToFunction
    split
    · exact ⟨r, rfl⟩
    · exact List.cons_prefix_cons.2 ⟨rfl, ih⟩

namespace Flat

lemma of_global (h : t.inner = []) : t.Flat := by
  unfold Flat own
  rw [h]
  rfl

lemma extend (h : t.Flat) (he : t.Extends l u) : u.Flat := by
  refine (upToFunction_initial u.inner).eq_of_length ?_
  have hown := (own_extends he).length_eq
  have hinner := he.inner_extends.length_eq
  unfold Flat at h
  rw [h, hinner] at hown
  exact hown.symm

lemma push {label : ScopeLabel} (h : t.Flat) (hl : ∀ f, label ≠ .function f) :
    (t.push label).Flat := by
  unfold Flat at h ⊢
  rw [own_push hl, h]
  rfl

lemma entry {header : FnHeader} (h : u.inner = []) : (Check.entry header u).Flat := by
  refine Flat.extend (t := u.push (.function header.name)) ?_ (Check.params_extends _ _)
  unfold Flat own SymbolTable.push
  rw [h]
  rfl

/-- What is known is visible. -/
lemma visible?_eq (h : t.Flat) (name : String) : t.visible? name = t.resolve? name := by
  unfold visible? resolve? scopes
  rw [h]

/-- Within a task that defines no function, the function at hand stays the same. -/
lemma onward {k : Task} (h : t.Flat) (hk : k.Within FunctionFree) (hu : Onward p t k u) :
    u.Flat := by
  cases hu with
  | extend he _ => exact h.extend he
  | push hl => exact h.push hl
  | enter hfn _ =>
    subst hfn
    cases hk _ (Node.self_mem_walk _)

end Flat

end SymbolTable

/-- Where a task stands in a plain program: it is a statement of the program itself, or some of the
last ones, or lies inside one of them. -/
inductive Placed (p : Program) : SymbolTable → Task → Prop
  | program {before ss : List Stmt} (h : p = before ++ ss) :
      Placed p (Check.stmts before .initial).symbols (.stmts ss)
  | fn {before after : List Stmt} {header : FnHeader} {body : List Stmt}
      (h : p = before ++ .fn header body :: after) :
      Placed p (Check.stmts before .initial).symbols (.stmt (.fn header body))
  | inside {t : SymbolTable} {k : Task} (ht : t.Flat) (hk : k.Within FunctionFree) : Placed p t k

lemma Check.stmts_append (ss ss' : List Stmt) (t : SymbolTable) :
    (Check.stmts (ss ++ ss') t).symbols = (Check.stmts ss' (Check.stmts ss t).symbols).symbols := by
  induction ss generalizing t with
  | nil => rfl
  | cons s ss ih => exact ih _

lemma Check.stmts_inner (ss : List Stmt) : (Check.stmts ss .initial).symbols.inner = [] :=
  List.forall₂_nil_left_iff.1 (Check.stmts_extends ss .initial).inner_extends

lemma Check.declared {t u : SymbolTable} {header : FnHeader} (body : List Stmt)
    (hu : t.declare header.name (.fn (Check.signatureOf header)) = .ok u) :
    ∃ a, (Check.stmt (.fn header body) t).symbols.current.get? header.name = some a := by
  have hdeclared := SymbolTable.declare_current hu
  obtain ⟨a, ha, -⟩ := (Check.fn_extends body hu).current.keep _ _ hdeclared
  exact ⟨a, ha⟩

namespace Placed

variable {t : SymbolTable} {k : Task} {header : FnHeader} {body : List Stmt}

lemma flat (h : Placed p t k) : t.Flat := by
  cases h with
  | program | fn => exact .of_global (Check.stmts_inner _)
  | inside ht _ => exact ht

lemma fn_inv (h : Placed p t (.stmt (.fn header body))) : ∃ before after,
    p = before ++ .fn header body :: after ∧ t = (Check.stmts before .initial).symbols := by
  cases h with
  | fn h => exact ⟨_, _, h, rfl⟩
  | inside _ hk => cases hk _ (Node.self_mem_walk _)

lemma functionFree {s : Stmt} (h : Placed p t (.stmt s))
    (hs : (Node.stmt s).definesFunction = false) : FunctionFree (.stmt s) := by
  cases h with
  | fn => cases hs
  | inside _ hk => exact hk

end Placed

namespace Plain

variable {t u : SymbolTable} {k : Task} {header header' : FnHeader} {body body' : List Stmt}

lemma placed_stmt (h : Plain p) {before ss : List Stmt} {s : Stmt} (hp : p = before ++ s :: ss) :
    Placed p (Check.stmts before .initial).symbols (.stmt s) := by
  have hs : s ∈ p := by rw [hp]; exact List.mem_append_right _ (.head _)
  by_cases hd : (Node.stmt s).definesFunction = true
  · match s with
    | .fn .. => exact .fn hp
  · rw [Bool.not_eq_true] at hd
    have hfree : FunctionFree (.stmt s) := .of_children hd (h.firstOrder s hs)
    exact .inside (.of_global (Check.stmts_inner before)) hfree

lemma placed_next {before ss : List Stmt} {s : Stmt} (hp : p = before ++ s :: ss) :
    Placed p (Check.stmt s (Check.stmts before .initial).symbols).symbols (.stmts ss) := by
  have hnext : Placed p (Check.stmts (before ++ [s]) .initial).symbols (.stmts ss) :=
    .program (by rw [hp, List.append_assoc]; rfl)
  rw [Check.stmts_append] at hnext
  exact hnext

lemma placed_body (h : Plain p) {before after : List Stmt} {v : SymbolTable}
    (hp : p = before ++ .fn header body :: after)
    (hv : (Check.stmts before .initial).symbols.declare header.name
      (.fn (Check.signatureOf header)) = .ok v) :
    Placed p (Check.entry header v) (.stmts body) := by
  have hfn : .fn header body ∈ p := by rw [hp]; exact List.mem_append_right _ (.head _)
  have hinner := (SymbolTable.declare_extends hv).inner_extends
  rw [Check.stmts_inner] at hinner
  refine .inside (.entry (List.forall₂_nil_left_iff.1 hinner)) ?_
  exact fun s hs => h.firstOrder _ hfn _ (List.mem_map_of_mem hs)

/-- **A plain program has all its functions at its own level.** -/
theorem placed (h : Plain p) (hs : Seen p t k) : Placed p t k := by
  induction hs with
  | program => exact @Placed.program p [] p rfl
  | @part t u k j hs hj ih =>
    cases ih with
    | @program before ss hp =>
      cases ss with
      | nil => cases hj
      | cons s ss =>
        exact Task.forall_mem_pair (P := fun q => Placed p q.1 q.2) (h.placed_stmt hp)
          (placed_next hp) (u, j) hj
    | @fn before after header body hp =>
      simp only [Task.parts] at hj
      split at hj
      · next v hv =>
        cases List.mem_singleton.1 hj
        exact h.placed_body hp hv
      · cases hj
    | inside ht hk =>
      have hflat := ht.onward hk (hs.onward _ hj)
      exact .inside hflat (hk.parts (fun _ _ => .child) _ hj)

/-- A function whose definition comes later has another name. -/
lemma defined_before (hp : Passes p) {before after : List Stmt}
    (hs : Seen p (Check.stmts before .initial).symbols (.stmt (.fn header body)))
    (hs' : Seen p (Check.stmts (before ++ .fn header body :: after) .initial).symbols
      (.stmt (.fn header' body'))) : header.name ≠ header'.name := by
  intro hname
  obtain ⟨u, hu, -⟩ := (hs.passes hp).fn
  obtain ⟨v, hv, -⟩ := (hs'.passes hp).fn
  obtain ⟨a, ha⟩ := Check.declared body hu
  rw [Check.stmts_append] at hv
  obtain ⟨b, hb, -⟩ := (Check.stmts_extends after _).current.keep _ _ ha
  have hfresh := SymbolTable.declare_fresh hv
  rw [← hname] at hfresh
  cases hb.symm.trans hfresh

/-- **No name of a function is defined twice.** -/
theorem unique (h : Plain p) (hp : Passes p) (hs : Seen p t (.stmt (.fn header body)))
    (hs' : Seen p u (.stmt (.fn header' body'))) (hname : header.name = header'.name) :
    t = u ∧ header = header' := by
  obtain ⟨before, after, hsplit, rfl⟩ := (h.placed hs).fn_inv
  obtain ⟨before', after', hsplit', rfl⟩ := (h.placed hs').fn_inv
  rw [hsplit] at hsplit'
  rcases List.append_eq_append_iff.1 hsplit' with ⟨as, rfl, has⟩ | ⟨as, rfl, has⟩
  · cases as with
    | nil => cases has; exact ⟨by rw [List.append_nil], rfl⟩
    | cons a as =>
      cases has
      exact absurd hname (defined_before hp hs hs')
  · cases as with
    | nil => cases has; exact ⟨by rw [List.append_nil], rfl⟩
    | cons a as =>
      cases has
      exact absurd hname.symm (defined_before hp hs' hs)

lemma unambiguous (h : Plain p) (hp : Passes p) : Unambiguous p :=
  fun _ _ _ _ hs hs' => (h.unique hp hs hs' rfl).1

lemma not_conditional (h : Plain p) {x : String} {a : Symbol} : ¬ Conditional p x a := by
  rintro ⟨t, test, yes, no, line, s, hs, hb, hadds⟩
  have hd : s.declares = false := by
    have hbranch := h.unconditional _ hs.within
    simp only [Node.declaresInBranch, Bool.or_eq_false_iff] at hbranch
    rcases hb with rfl | rfl
    · exact hbranch.1
    · exact hbranch.2
  have hfree := (h.placed hs).functionFree rfl
  have hmem : Node.stmt s ∈ (Node.stmt (.cond test yes no line)).children := by
    rcases hb with rfl | rfl
    · exact .tail _ (.head _)
    · exact .tail _ (.tail _ (.head _))
  rw [(hfree.child hmem).adds_eq_nil s hd] at hadds
  cases hadds

lemma not_loose (h : Plain p) (hp : Passes p) {x : String} : ¬ Loose p x := by
  rintro (⟨_, hc⟩ | ⟨t, k, hs, hk, hv⟩ | ⟨t, u, f, f', b, b', hs, hs', hname, hx⟩)
  · exact h.not_conditional hc
  · obtain ⟨type, hr⟩ := hs.variable hp hk
    exact hv type (((h.placed hs).flat.visible?_eq x).trans hr)
  · obtain ⟨-, rfl⟩ := h.unique hp hs' hs hname
    rw [List.drop_length] at hx
    cases hx

lemma not_mixed (h : Plain p) {x : String} : ¬ Mixed p x := by
  rintro (⟨_, hc⟩ | ⟨t, k, hs, -, hv⟩)
  · exact h.not_conditional hc
  · exact hv ((h.placed hs).flat.visible?_eq x)

/-- **In a plain program no name is taken for different things.** -/
theorem uniform (h : Plain p) (hp : Passes p) : Uniform p where
  names _ hm := absurd hm h.not_mixed
  assigned _ hl := absurd hl (h.not_loose hp)
  functions _ _ _ _ _ _ hs hs' hname := by
    obtain ⟨-, rfl⟩ := h.unique hp hs hs' hname
    exact ⟨rfl, rfl⟩

end Plain

end Imperative
