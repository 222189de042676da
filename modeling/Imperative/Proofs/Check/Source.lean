import Imperative.Proofs.Check.Seen

/-!
Where the names in a table of symbols come from.

Every symbol comes from a declaration that the check has come by, a function whose body is checked
is in some scope around the body, and the global scope only grows.
-/

namespace Imperative

namespace SymbolTable

variable {t t' t'' : SymbolTable} {l : List (String × Symbol)}

/-- The global scope of the second table is that of the first one with some names added. -/
def Grows (t t' : SymbolTable) : Prop := ∃ l, t.base.Extends l t'.base

namespace Grows

lemma refl (t : SymbolTable) : t.Grows t := ⟨[], .refl [] t.base⟩

lemma trans (h : t.Grows t') (h' : t'.Grows t'') : t.Grows t'' := by
  obtain ⟨l, hl⟩ := h
  obtain ⟨l', hl'⟩ := h'
  exact ⟨l ++ l', (hl.mono (List.subset_append_left l l')).trans
    (hl'.mono (List.subset_append_right l l'))⟩

lemma of_extends (h : t.Extends l t') : t.Grows t' := by
  cases h with
  | base h => exact ⟨_, h⟩
  | inner _ _ h => exact ⟨_, h⟩

end Grows

lemma current_mem_scopes (t : SymbolTable) : t.current ∈ t.scopes := by
  rcases t with ⟨_ | ⟨s, r⟩, b⟩ <;> simp [current, scopes]

/-- Each scope of a function stands, going outward, before one that holds a function of its name. -/
def Headed : List Scope → Prop
  | [] => True
  | s :: rest =>
    (∀ f, s.function? = some f → ∃ r ∈ rest, (r.signature? f).isSome) ∧ Headed rest

lemma signature?_isSome {s s' : Scope} {f : String} (h : s.Extends l s')
    (hf : (s.signature? f).isSome) : (s'.signature? f).isSome := by
  unfold Scope.signature? at hf ⊢
  split at hf
  · next a ha =>
    obtain ⟨b, hb, hab⟩ := h.keep f _ ha
    obtain ⟨g, rfl, -⟩ := hab.fn_left
    rw [hb]; rfl
  · cases hf

lemma Headed.extend {r r' : List Scope} (h : List.Forall₂ (Scope.Extends l) r r')
    (hr : Headed r) : Headed r' := by
  induction h with
  | nil => trivial
  | @cons s s' r r' hs hrest ih =>
    refine ⟨fun f hf => ?_, ih hr.2⟩
    rw [Extends.function?_eq hs] at hf
    obtain ⟨q, hq, hqf⟩ := hr.1 f hf
    obtain ⟨i, hi, rfl⟩ := List.getElem_of_mem hq
    have hlen := hrest.length_eq
    exact ⟨r'[i], List.getElem_mem _, signature?_isSome (hrest.get hi (hlen ▸ hi)) hqf⟩

lemma Headed.signature?_isSome {r : List Scope} {f : String} (h : Headed r)
    (hf : r.findSome? Scope.function? = some f) :
    ((r.findSome? fun s => s.signature? f)).isSome := by
  induction r with
  | nil => cases hf
  | cons s r ih =>
    rw [List.findSome?_cons] at hf ⊢
    cases hs : s.signature? f with
    | some g => rfl
    | none =>
      simp only
      cases hn : s.function? with
      | some g =>
        rw [hn] at hf; cases hf
        obtain ⟨q, hq, hqf⟩ := h.1 f hn
        exact List.findSome?_isSome_iff.2 ⟨q, hq, hqf⟩
      | none =>
        rw [hn] at hf
        exact ih h.2 hf

end SymbolTable

variable {p : Program} {t u : SymbolTable} {k : Task}

/-- The program declares the name as the symbol. -/
inductive Source (p : Program) : String → Symbol → Prop
  | var {t : SymbolTable} {type : Ty} {i : Init} {is : List Init}
      (h : Seen p t (.inits type (i :: is))) : Source p i.name (.var type)
  | param {t : SymbolTable} {h : FnHeader} {body : List Stmt} {q : Param}
      (hs : Seen p t (.stmt (.fn h body))) (hq : q ∈ h.params) : Source p q.name (.var q.type)
  | fn {t : SymbolTable} {h : FnHeader} {body : List Stmt} {a : Symbol}
      (hs : Seen p t (.stmt (.fn h body))) (ha : (Symbol.fn (Check.signatureOf h)).Settles a) :
      Source p h.name a

/-- The variable has somewhere been declared with the type. -/
abbrev Declares (p : Program) (name : String) (type : Ty) : Prop := Source p name (.var type)

lemma Source.settles {name : String} {a b : Symbol} (h : Source p name a) (hab : a.Settles b) :
    Source p name b := by
  cases h with
  | var h => cases hab; exact .var h
  | param h hq => cases hab; exact .param h hq
  | fn h ha => exact .fn h (ha.trans hab)

/-- A function is declared with the return type and the parameters that its definition has. -/
lemma Source.definition {name : String} {f : Signature} (h : Source p name (.fn f)) :
    ∃ t g body, Seen p t (.stmt (.fn g body)) ∧ g.name = name ∧ f.returnType = g.returnType ∧
      f.params = g.params.map Param.type := by
  cases h with
  | @fn t g body a hs ha =>
    obtain ⟨f', hf, hret, hparams⟩ := ha.fn_left
    cases hf
    exact ⟨t, g, body, hs, rfl, hret, hparams⟩

/-- All symbols of the table come from declarations of the program. -/
def Sourced (p : Program) (t : SymbolTable) : Prop :=
  ∀ s ∈ t.scopes, ∀ name a, s.get? name = some a → Source p name a

namespace Sourced

open SymbolTable

lemma initial : Sourced p .initial := by
  intro s hs name a ha
  obtain rfl : s = .opened .global := by simpa [SymbolTable.scopes, SymbolTable.initial] using hs
  cases ha

lemma push {label : ScopeLabel} (h : Sourced p t) : Sourced p (t.push label) := by
  intro s hs name a ha
  rw [scopes_push] at hs
  rcases List.mem_cons.1 hs with rfl | hs
  · cases ha
  · exact h s hs name a ha

lemma extend {l : List (String × Symbol)} (h : Sourced p t) (he : t.Extends l u)
    (hl : ∀ q ∈ l, Source p q.1 q.2) : Sourced p u := by
  intro s' hs' name b hb
  obtain ⟨s, hs, hscope⟩ := forall₂_mem_right he.scopes hs'
  rcases hscope.source name b hb with ⟨a, ha, hab⟩ | ⟨a, ha, hab⟩
  · exact (h s hs name a ha).settles hab
  · exact (hl _ ha).settles hab

lemma resolve? {name : String} {a : Symbol} (h : Sourced p t) (ha : t.resolve? name = some a) :
    Source p name a := by
  obtain ⟨s, hs, hget⟩ := List.exists_of_findSome?_eq_some ha
  exact h s hs name a hget

lemma signature? {name : String} {f : Signature} (h : Sourced p t)
    (hf : t.signature? name = some f) : Source p name (.fn f) := by
  obtain ⟨s, hs, hget⟩ := List.exists_of_findSome?_eq_some hf
  unfold Scope.signature? at hget
  split at hget
  · next ha => cases hget; exact h s hs name _ ha
  · cases hget

end Sourced

/-- What a list of initial values declares. -/
lemma Seen.inits_source {type : Ty} {is : List Init} (h : Seen p t (.inits type is)) :
    ∀ q ∈ is.map (fun i => (i.name, Symbol.var type)), Source p q.1 q.2 := by
  induction is generalizing t with
  | nil => exact List.forall_mem_nil _
  | cons i is ih =>
    exact List.forall_mem_cons.2 ⟨.var h, ih (h.part (List.mem_cons_of_mem _ (.head _)))⟩

lemma Seen.params_source {h : FnHeader} {body : List Stmt} (hs : Seen p t (.stmt (.fn h body))) :
    ∀ q ∈ h.params.map (fun q => (q.name, Symbol.var q.type)), Source p q.1 q.2 := by
  rw [List.forall_mem_map]
  exact fun q hq => .param hs hq

/-- **Whatever a statement adds has been declared within it.** -/
theorem Seen.adds_source (s : Stmt) {t : SymbolTable} (h : Seen p t (.stmt s)) :
    ∀ q ∈ s.adds, Source p q.1 q.2 := by
  match s with
  | .decl .. => exact (h.part (.head _)).inits_source
  | .cond _ yes none _ => exact adds_source yes (h.part (.tail _ (.head _)))
  | .cond _ yes (some no) _ =>
    unfold Stmt.adds
    rw [List.forall_mem_append]
    exact ⟨adds_source yes (h.part (.tail _ (.head _))),
      adds_source no (h.part (.tail _ (.tail _ (.head _))))⟩
  | .fn .. => exact List.forall_mem_singleton.2 (.fn h (.refl _))
  | .labeled _ body _ => exact adds_source body (h.part (.head _))
  | .assign .. | .loop .. | .repeatUntil .. | .block .. | .ret .. | .brk .. | .cont ..
  | .print .. | .expr .. => exact List.forall_mem_nil _

/-- How a part gets its table: names of the program are added to the table of the whole, or a scope
is opened in it, that of a function with its parameters. -/
inductive Onward (p : Program) (t : SymbolTable) (k : Task) : SymbolTable → Prop
  | extend {l : List (String × Symbol)} {u : SymbolTable} (he : t.Extends l u)
      (hl : ∀ q ∈ l, Source p q.1 q.2) : Onward p t k u
  | push {label : ScopeLabel} (hl : ∀ f, label ≠ .function f) : Onward p t k (t.push label)
  | enter {h : FnHeader} {body : List Stmt} {u : SymbolTable} (hk : k = .stmt (.fn h body))
      (hu : t.declare h.name (.fn (Check.signatureOf h)) = .ok u) : Onward p t k (Check.entry h u)

lemma Onward.same : Onward p t k t := .extend (.refl [] t) (List.forall_mem_nil _)

/-- **The table of a part is that of the whole with names added or a scope opened.** -/
theorem Seen.onward (h : Seen p t k) : ∀ q ∈ k.parts t, Onward p t k q.1 := by
  have after (s : Stmt) (hs : Seen p t (.stmt s)) : Onward p t k (Check.stmt s t).symbols :=
    .extend (Check.stmt_extends s t) (hs.adds_source s)
  match k with
  | .expr (.lit _) | .expr (.var ..) | .args [] | .inits _ [] | .stmts [] =>
    exact List.forall_mem_nil _
  | .stmt (.brk _) | .stmt (.cont _) => exact List.forall_mem_nil _
  | .expr (.bin ..) | .args (_ :: _) => exact Task.forall_mem_pair .same .same
  | .inits type (i :: is) =>
    exact Task.forall_mem_pair .same (.extend (Check.declare_extends _ _ _ _)
      (List.forall_mem_singleton.2 (.var h)))
  | .stmts (s :: ss) => exact Task.forall_mem_pair .same (after s (h.part (.head _)))
  | .expr (.call ..) | .stmt (.decl ..) | .stmt (.assign ..) | .stmt (.ret ..) | .stmt (.print ..)
  | .stmt (.expr ..) | .stmt (.labeled ..) => exact List.forall_mem_singleton.2 .same
  | .stmt (.cond _ _ none _) => exact Task.forall_mem_pair .same .same
  | .stmt (.cond _ yes (some no) _) =>
    exact List.forall_mem_cons.2 ⟨.same, Task.forall_mem_pair .same
      (after yes (h.part (.tail _ (.head _))))⟩
  | .stmt (.loop ..) => exact Task.forall_mem_pair .same (.push (by simp))
  | .stmt (.repeatUntil body test _) =>
    exact Task.forall_mem_pair (.push (by simp))
      (.extend (Check.stmts_extends body (t.push .loop)).pop (List.forall_mem_nil _))
  | .stmt (.block ..) => exact List.forall_mem_singleton.2 (.push (by simp))
  | .stmt (.fn header body) =>
    simp only [Task.parts]
    split
    · next hu => exact List.forall_mem_singleton.2 (.enter rfl hu)
    · exact List.forall_mem_nil _

/-- What holds of a table at any place of a program. -/
structure Proper (p : Program) (t : SymbolTable) : Prop where
  sourced : Sourced p t
  headed : SymbolTable.Headed t.scopes

namespace Proper

open SymbolTable

lemma initial : Proper p .initial :=
  ⟨.initial, ⟨fun _ hf => by simp [Scope.function?, SymbolTable.initial, Scope.opened] at hf,
    trivial⟩⟩

lemma extend {l : List (String × Symbol)} (h : Proper p t) (he : t.Extends l u)
    (hl : ∀ q ∈ l, Source p q.1 q.2) : Proper p u :=
  ⟨h.sourced.extend he hl, h.headed.extend he.scopes⟩

lemma push {label : ScopeLabel} (h : Proper p t) (hl : ∀ f, label ≠ .function f) :
    Proper p (t.push label) := by
  refine ⟨h.sourced.push, ⟨fun f hf => ?_, h.headed⟩⟩
  unfold Scope.function? at hf
  split at hf
  · next hlabel => exact absurd hlabel (hl _)
  · cases hf

lemma enter {h : FnHeader} {body : List Stmt} (ht : Proper p t)
    (hs : Seen p t (.stmt (.fn h body)))
    (hu : t.declare h.name (.fn (Check.signatureOf h)) = .ok u) : Proper p (Check.entry h u) := by
  have hext := declare_extends hu
  have hfn : Proper p u := ht.extend hext (List.forall_mem_singleton.2 (.fn hs (.refl _)))
  refine Proper.extend (t := u.push (.function h.name)) ?_ (Check.params_extends _ _)
    hs.params_source
  refine ⟨hfn.sourced.push, ⟨fun f hf => ?_, hfn.headed⟩⟩
  cases hf
  refine ⟨u.current, ?_, ?_⟩
  · exact current_mem_scopes u
  · unfold Scope.signature?
    rw [declare_current hu]
    rfl

end Proper

/-- **Every table that a check comes by is proper.** -/
theorem Seen.proper (h : Seen p t k) : Proper p t := by
  induction h with
  | program => exact .initial
  | part h hj ih =>
    cases h.onward _ hj with
    | extend he hl => exact ih.extend he hl
    | push hl => exact ih.push hl
    | enter hk hu =>
      subst hk
      exact ih.enter h hu

/-- The global scope at the end of the check. -/
def globals (p : Program) : Scope := (Check.stmts p .initial).symbols.base

namespace Task

open SymbolTable

lemma check_extends (t : SymbolTable) (k : Task) : ∃ l, t.Extends l (k.check t).symbols := by
  match k with
  | expr _ | args _ => exact ⟨[], .refl [] t⟩
  | inits type is => exact ⟨_, Check.inits_extends type is t⟩
  | stmt s => exact ⟨_, Check.stmt_extends s t⟩
  | stmts ss => exact ⟨_, Check.stmts_extends ss t⟩

lemma parts_grow (t : SymbolTable) (k : Task) :
    ∀ q ∈ k.parts t, (q.2.check q.1).symbols.Grows (k.check t).symbols := by
  match k with
  | .expr (.lit _) | .expr (.var ..) | .args [] | .inits _ [] | .stmts [] =>
    exact List.forall_mem_nil _
  | .stmt (.brk _) | .stmt (.cont _) => exact List.forall_mem_nil _
  | .expr (.bin ..) | .args (_ :: _) => exact forall_mem_pair (.refl t) (.refl t)
  | .inits type (i :: is) =>
    exact forall_mem_pair (.of_extends (Check.inits_extends type (i :: is) t)) (.refl _)
  | .stmts (s :: ss) =>
    exact forall_mem_pair (.of_extends (Check.stmts_extends ss _)) (.refl _)
  | .expr (.call ..) | .stmt (.decl ..) | .stmt (.assign ..) | .stmt (.print ..)
  | .stmt (.expr ..) | .stmt (.labeled ..) | .stmt (.block ..) =>
    exact List.forall_mem_singleton.2 (.refl _)
  | .stmt (.ret e line) =>
    exact List.forall_mem_singleton.2 (.of_extends (Check.stmt_extends (.ret e line) t))
  | .stmt (.cond _ yes none _) =>
    exact forall_mem_pair (.of_extends (Check.stmt_extends yes t)) (.refl _)
  | .stmt (.cond _ yes (some no) _) =>
    have hno := Check.stmt_extends no (Check.stmt yes t).symbols
    exact List.forall_mem_cons.2 ⟨.of_extends ((Check.stmt_extends yes t).append hno),
      forall_mem_pair (.of_extends hno) (.refl _)⟩
  | .stmt (.loop test body line) =>
    exact forall_mem_pair (.of_extends (Check.stmt_extends (.loop test body line) t)) (.refl _)
  | .stmt (.repeatUntil ..) => exact forall_mem_pair (.refl _) (.refl _)
  | .stmt (.fn header body) =>
    simp only [parts]
    split
    · next u hu =>
      refine List.forall_mem_singleton.2 ?_
      simp only [check, Check.stmt, hu, Checked.andThen, Check.missingReturn_symbols]
      exact .refl _
    · exact List.forall_mem_nil _

end Task

/-- What the global scope holds at any place, it holds at the end. -/
lemma Seen.globals_extends (h : Seen p t k) : ∃ l, t.base.Extends l (globals p) := by
  have hend : (k.check t).symbols.Grows (Check.stmts p .initial).symbols := by
    induction h with
    | program => exact .refl _
    | part _ hj ih => exact (Task.parts_grow _ _ _ hj).trans ih
  obtain ⟨_, hl⟩ := k.check_extends t
  exact (SymbolTable.Grows.of_extends hl).trans hend

/-- What is declared at the level of the program is a global variable for good. -/
lemma Seen.init_global {type : Ty} {i : Init} {is : List Init}
    (h : Seen p t (.inits type (i :: is))) (ht : t.inner = [])
    (hu : t.declare i.name (.var type) =
      .ok (Check.declare i.name (.var type) i.line t).symbols) :
    (globals p).get? i.name = some (.var type) := by
  have hnext : Seen p (Check.declare i.name (.var type) i.line t).symbols (.inits type is) :=
    h.part (.tail _ (.head _))
  obtain ⟨_, hend⟩ := hnext.globals_extends
  have hcur := SymbolTable.declare_current hu
  have hext := SymbolTable.declare_extends hu
  generalize (Check.declare i.name (.var type) i.line t).symbols = t' at hcur hext hend
  rcases t with ⟨r, b⟩
  cases ht
  cases hext
  obtain ⟨a, ha, hab⟩ := hend.keep i.name _ hcur
  rw [hab.var_left] at ha
  exact ha

end Imperative
