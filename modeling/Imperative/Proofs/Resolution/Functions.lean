import Imperative.Proofs.Program.Own
import Imperative.Proofs.Resolution.Variables
import Imperative.Proofs.Scope.Height

/-!
Which definition a call runs.

The check binds the name of a call to the definition in the innermost scope that holds the name. A
run keeps one definition for each name, the last that it has come by, whatever scope it stands in.
The two agree on a name that has one definition and is defined by no bare branch of a condition.
-/

namespace Imperative

/-- The functions that a statement defines in the scope it stands in. -/
def Stmt.definitions : Stmt → List FnDecl
  | .cond _ yes none _ => yes.definitions
  | .cond _ yes (some no) _ => yes.definitions ++ no.definitions
  | .fn h body => [⟨h, body⟩]
  | .labeled _ body _ => body.definitions
  | _ => []

lemma Stmt.definition_of_adds (s : Stmt) {f : String} {g : Signature} (h : (f, .fn g) ∈ s.adds) :
    ∃ d ∈ s.definitions, d.header.name = f ∧ Check.signatureOf d.header = g := by
  match s with
  | .decl .. => simp [Stmt.adds] at h
  | .cond _ yes none _ => exact definition_of_adds yes h
  | .cond _ yes (some no) _ =>
    rcases List.mem_append.1 h with h | h
    · obtain ⟨d, hd, hname⟩ := definition_of_adds yes h
      exact ⟨d, List.mem_append_left _ hd, hname⟩
    · obtain ⟨d, hd, hname⟩ := definition_of_adds no h
      exact ⟨d, List.mem_append_right _ hd, hname⟩
  | .fn header body =>
    cases List.mem_singleton.1 h
    exact ⟨⟨header, body⟩, .head _, rfl, rfl⟩
  | .labeled _ body _ => exact definition_of_adds body h
  | .assign .. | .loop .. | .repeatUntil .. | .block .. | .ret .. | .brk .. | .cont ..
  | .print .. | .expr .. => cases h

variable {p : Program}

lemma Stmt.definitions_stand (s : Stmt) (h : .stmt s ∈ (Node.program p).walk) :
    ∀ d ∈ s.definitions, d.Stands p := by
  match s with
  | .cond _ yes none _ => exact definitions_stand yes (Node.child_mem_walk h (.tail _ (.head _)))
  | .cond _ yes (some no) _ =>
    exact List.forall_mem_append.2
      ⟨definitions_stand yes (Node.child_mem_walk h (.tail _ (.head _))),
        definitions_stand no (Node.child_mem_walk h (.tail _ (.tail _ (.head _))))⟩
  | .fn header body => exact List.forall_mem_singleton.2 h
  | .labeled _ body _ => exact definitions_stand body (Node.child_mem_walk h (.head _))
  | .decl .. | .assign .. | .loop .. | .repeatUntil .. | .block .. | .ret .. | .brk .. | .cont ..
  | .print .. | .expr .. => exact List.forall_mem_nil _

/-- At a place of the program, the definition stands in the scope of the height, in front of the
place or around it. -/
inductive InScope (p : Program) (d : FnDecl) (i : Nat) : SymbolTable → Task → Prop
  | body {t u : SymbolTable} (hs : Seen p t (.stmt (.fn d.header d.body)))
      (hu : t.declare d.header.name (.fn (Check.signatureOf d.header)) = .ok u)
      (hi : i = t.inner.length) : InScope p d i (Check.entry d.header u) (.stmts d.body)
  | rest {t : SymbolTable} {s : Stmt} {ss : List Stmt} (hs : Seen p t (.stmts (s :: ss)))
      (hd : d ∈ s.definitions) (hi : i = t.inner.length) :
      InScope p d i (Check.stmt s t).symbols (.stmts ss)
  | no {t : SymbolTable} {test : Expr} {yes no : Stmt} {line : Nat}
      (hs : Seen p t (.stmt (.cond test yes (some no) line))) (hd : d ∈ yes.definitions)
      (hi : i = t.inner.length) : InScope p d i (Check.stmt yes t).symbols (.stmt no)
  | part {t u : SymbolTable} {k j : Task} (h : InScope p d i t k) (hj : (u, j) ∈ k.parts t) :
      InScope p d i u j

lemma InScope.stands {d : FnDecl} {i : Nat} {t : SymbolTable} {k : Task} (h : InScope p d i t k) :
    d.Stands p := by
  induction h with
  | body hs => exact hs.within
  | rest hs hd => exact Stmt.definitions_stand _ (hs.within _ (.head _)) _ hd
  | no hs hd =>
    have hyes : .stmt _ ∈ (Node.program p).walk :=
      Node.child_mem_walk hs.within (.tail _ (.head _))
    exact Stmt.definitions_stand _ hyes _ hd
  | part _ _ ih => exact ih

/-- The check binds the name to the definition: it stands in the innermost scope that holds the
name, and has the signature that the check finds for the name. -/
structure Binds (p : Program) (t : SymbolTable) (k : Task) (name : String) (d : FnDecl) :
    Prop where
  named : d.header.name = name
  inScope : ∃ i, Scope.height? name t.scopes = some i ∧ InScope p d i t k
  resolved : ∃ g, t.resolve? name = some (.fn g) ∧ (Check.signatureOf d.header).Settles g

/-- Every function that the table holds at a place comes from a definition in that scope. -/
def Grounded (p : Program) (t : SymbolTable) (k : Task) : Prop :=
  ∀ i f g, t.FnAt i f g → ∃ d : FnDecl, d.header.name = f ∧ InScope p d i t k ∧
    (Check.signatureOf d.header).Settles g

namespace Grounded

variable {t u : SymbolTable} {k j : Task} {l : List (String × Symbol)}

lemma initial : Grounded p .initial (.stmts p) := by
  rintro i f g ⟨s, hs, hg⟩
  have hi : i = 0 := Nat.lt_one_iff.1 (Scope.at?_lt hs)
  subst hi
  cases hs
  cases hg

/-- A part in the same scope, where functions have been added by definitions in it. -/
lemma extend (h : Grounded p t k) (hj : (u, j) ∈ k.parts t) (he : t.Extends l u)
    (hl : ∀ f g, (f, .fn g) ∈ l → ∃ d : FnDecl, d.header.name = f ∧
      Check.signatureOf d.header = g ∧ InScope p d t.inner.length u j) : Grounded p u j := by
  intro i f g hg
  rcases he.fnAt hg with ⟨g₀, hg₀, hgg⟩ | ⟨rfl, g₀, hg₀, hgg⟩
  · obtain ⟨d, hname, hd, hsettles⟩ := h i f g₀ hg₀
    exact ⟨d, hname, hd.part hj, hsettles.trans hgg⟩
  · obtain ⟨d, hname, rfl, hd⟩ := hl f g₀ hg₀
    exact ⟨d, hname, hd, hgg⟩

lemma same (h : Grounded p t k) (hj : (t, j) ∈ k.parts t) : Grounded p t j :=
  h.extend hj (.refl [] t) fun _ _ h => nomatch h

lemma push {label : ScopeLabel} (h : Grounded p t k) (hj : (t.push label, j) ∈ k.parts t) :
    Grounded p (t.push label) j := by
  intro i f g hg
  obtain ⟨d, hname, hd, hsettles⟩ := h i f g (SymbolTable.fnAt_push hg)
  exact ⟨d, hname, hd.part hj, hsettles⟩

/-- In its own body a function is known from the start. -/
lemma enter {h : FnHeader} {body : List Stmt} (hp : Grounded p t (.stmt (.fn h body)))
    (hs : Seen p t (.stmt (.fn h body)))
    (hu : t.declare h.name (.fn (Check.signatureOf h)) = .ok u) :
    Grounded p (Check.entry h u) (.stmts body) := by
  have hj : (Check.entry h u, .stmts body) ∈ (Task.stmt (.fn h body)).parts t := by
    simp [Task.parts, hu]
  intro i f g hg
  have hparams := (Check.params_extends h.params (u.push (.function h.name))).fnAt hg
  obtain ⟨g₁, hg₁, hgg⟩ := hparams.resolve_right (by simp)
  rcases (SymbolTable.declare_extends hu).fnAt (SymbolTable.fnAt_push hg₁) with
    ⟨g₀, hg₀, hgg₀⟩ | ⟨rfl, g₀, hg₀, hgg₀⟩
  · obtain ⟨d, hname, hd, hsettles⟩ := hp i f g₀ hg₀
    exact ⟨d, hname, hd.part hj, (hsettles.trans hgg₀).trans hgg⟩
  · cases List.mem_singleton.1 hg₀
    exact ⟨⟨h, body⟩, rfl, .body hs hu rfl, hgg₀.trans hgg⟩

end Grounded

variable {t : SymbolTable} {k : Task}

lemma Grounded.parts (h : Grounded p t k) (hs : Seen p t k) :
    ∀ q ∈ k.parts t, Grounded p q.1 q.2 := by
  match k with
  | .expr (.lit _) | .expr (.var ..) | .args [] | .inits _ [] | .stmts [] =>
    exact List.forall_mem_nil _
  | .stmt (.brk _) | .stmt (.cont _) => exact List.forall_mem_nil _
  | .expr (.bin ..) | .args (_ :: _) | .stmt (.cond _ _ none _) =>
    exact Task.forall_mem_pair (h.same (.head _)) (h.same (.tail _ (.head _)))
  | .expr (.call ..) | .stmt (.decl ..) | .stmt (.assign ..) | .stmt (.ret ..) | .stmt (.print ..)
  | .stmt (.expr ..) | .stmt (.labeled ..) =>
    exact List.forall_mem_singleton.2 (h.same (.head _))
  | .inits type (i :: is) =>
    have hext := Check.declare_extends i.name (.var type) i.line t
    exact Task.forall_mem_pair (h.same (.head _))
      (h.extend (.tail _ (.head _)) hext fun f g hg => by simp at hg)
  | .stmts (s :: ss) =>
    refine Task.forall_mem_pair (h.same (.head _))
      (h.extend (.tail _ (.head _)) (Check.stmt_extends s t) fun f g hg => ?_)
    obtain ⟨d, hd, hname, hsignature⟩ := s.definition_of_adds hg
    exact ⟨d, hname, hsignature, .rest hs hd rfl⟩
  | .stmt (.cond _ yes (some no) _) =>
    refine List.forall_mem_cons.2 ⟨h.same (.head _), Task.forall_mem_pair
      (h.same (.tail _ (.head _)))
      (h.extend (.tail _ (.tail _ (.head _))) (Check.stmt_extends yes t) fun f g hg => ?_)⟩
    obtain ⟨d, hd, hname, hsignature⟩ := yes.definition_of_adds hg
    exact ⟨d, hname, hsignature, .no hs hd rfl⟩
  | .stmt (.loop ..) =>
    exact Task.forall_mem_pair (h.same (.head _)) (h.push (.tail _ (.head _)))
  | .stmt (.repeatUntil body _ _) =>
    exact Task.forall_mem_pair (h.push (.head _)) (h.extend (.tail _ (.head _))
      (Check.stmts_extends body (t.push .loop)).pop fun _ _ hg => nomatch hg)
  | .stmt (.block ..) => exact List.forall_mem_singleton.2 (h.push (.head _))
  | .stmt (.fn header body) =>
    simp only [Task.parts]
    split
    · next hu => exact List.forall_mem_singleton.2 (h.enter hs hu)
    · exact List.forall_mem_nil _

/-- **Every function that is known at a place comes from a definition in its scope.** -/
theorem Seen.grounded (h : Seen p t k) : Grounded p t k := by
  induction h with
  | program => exact .initial
  | part hs hj ih => exact ih.parts hs _ hj

/-- The check binds each call to some definition. -/
lemma Seen.binds {name : String} {args : List Expr} {line : Nat} (hp : Passes p)
    (h : Seen p t (.expr (.call name args line))) :
    ∃ d, Binds p t (.expr (.call name args line)) name d := by
  obtain ⟨g, hg, -⟩ := (h.passes hp).call
  obtain ⟨i, hi, hat⟩ := SymbolTable.fnAt_of_resolve? hg
  obtain ⟨d, hname, hd, hsettles⟩ := h.grounded i name g hat
  exact ⟨d, hname, ⟨i, hi, hd⟩, g, hg, hsettles⟩

/-- The program has different definitions of the name. -/
def Contested (p : Program) (name : String) : Prop :=
  ∃ d d' : FnDecl, d.Stands p ∧ d'.Stands p ∧ d.header.name = name ∧ d'.header.name = name ∧ d ≠ d'

namespace Node

/-- The definition of the name at the node, if there is one. -/
def definition? (name : String) : Node → Option FnDecl
  | stmt (.fn h body) => if h.name = name then some ⟨h, body⟩ else none
  | _ => none

/-- The names that the branches of a condition declare without a block of their own. -/
def branchNames : Node → List String
  | stmt (.cond _ yes no _) => (yes.adds ++ no.toList.flatMap Stmt.adds).map Prod.fst
  | _ => []

end Node

/-- The name has no two definitions in the program, and no bare branch of a condition declares
it. -/
def Undisputed (p : Program) (name : String) : Prop :=
  ((Node.program p).walk.filterMap (Node.definition? name)).length ≤ 1 ∧
    ∀ n ∈ (Node.program p).walk, name ∉ n.branchNames

instance (p : Program) (name : String) : Decidable (Undisputed p name) :=
  inferInstanceAs (Decidable (_ ∧ _))

namespace Undisputed

variable {name : String}

lemma not_contested (h : Undisputed p name) : ¬ Contested p name := by
  rintro ⟨d, d', hd, hd', rfl, hname, hne⟩
  have hmem {e : FnDecl} (he : e.Stands p) (hn : e.header.name = d.header.name) :
      e ∈ (Node.program p).walk.filterMap (Node.definition? d.header.name) :=
    List.mem_filterMap.2 ⟨_, he, by simp [Node.definition?, hn]⟩
  have hin := hmem hd rfl
  have hin' := hmem hd' hname
  have hlen := h.1
  generalize (Node.program p).walk.filterMap (Node.definition? d.header.name) = l at hin hin' hlen
  match l, hlen with
  | [e], _ =>
    rw [List.mem_singleton] at hin hin'
    exact hne (hin.trans hin'.symm)

lemma not_conditional (h : Undisputed p name) (a : Symbol) : ¬ Conditional p name a := by
  rintro ⟨t, test, yes, no, line, s, hs, hbranch, ha⟩
  have hin : (name, a) ∈ yes.adds ++ no.toList.flatMap Stmt.adds := by
    rcases hbranch with rfl | rfl
    · exact List.mem_append_left _ ha
    · exact List.mem_append_right _ (by simpa using ha)
  exact h.2 _ hs.within (List.mem_map.2 ⟨_, hin, rfl⟩)

end Undisputed

/-- The call runs the definition: it evaluates its arguments and executes the body in a frame that
binds the parameters to them, and its value is the one that the body returns. -/
def Machine.Calls (m : Machine) (d : FnDecl) (f : String) (args : List Expr) (line : Nat) : Prop :=
  ∀ n, (evalExpr (n + 1) (.call f args line)).run m = (do
    let vs ← evalArgs n args
    Exec.taken d line (← Exec.inFrame (callFrame d.header vs) (execStmts n d.body))).run m

/-- The definition that is kept for a name is the one that runs. -/
lemma Machine.calls_of_get? {m : Machine} {d : FnDecl} {f : String}
    (h : m.functions.get? f = some d) (args : List Expr) (line : Nat) : m.Calls d f args line := by
  intro n
  rw [evalExpr_call, Exec.run_bind, Exec.callee, Exec.run_find, h]
  rfl

/-- **A call runs the definition that the check binds it to**, unless a bare branch of a condition
defines the name or another definition contests it. In a run of a valid program, only names of the
former kind are not found. -/
theorem calls_run_what_is_bound {file : String} (hv : (typeCheck p file).isValid = true)
    (sink : Sink) :
    (∀ n f, (interpret n p file sink).fault? = some (.undefinedFunction f) →
      ∃ g, Conditional p f (.fn g)) ∧
    ∀ cs t f args line m, Reached p (.initial file sink) cs t (.expr (.call f args line)) m →
      (∃ d, Binds p t (.expr (.call f args line)) f d) ∧
      ∀ d, Binds p t (.expr (.call f args line)) f d →
        m.functions.get? f = some d ∧ m.Calls d f args line ∨
          (∃ g, Conditional p f (.fn g)) ∨ Contested p f := by
  have hp := (passes_iff p file).2 hv
  have hstart := Agrees.initial (p := p) file sink
  refine ⟨fun n f hf => ?_, fun cs t f args line m hreach => ⟨hreach.seen.binds hp, fun d hd => ?_⟩⟩
  · obtain ⟨e, m, hr, he⟩ := Outcome.fault?_eq_some hf
    have hblame := (((agreement hp).interpret_ends hp n hstart).failed hr).faults
    rw [he] at hblame
    exact hblame
  · obtain ⟨cs', t', -, hs, hm⟩ := Invariant.reached (I := agreement hp) hp hstart hreach
    cases hf : m.functions.get? f with
    | none =>
      obtain ⟨g, hg, -⟩ := (hs.passes hp).call
      exact .inr (.inl (hm.undefined hg hf))
    | some d' =>
      obtain ⟨hname, u, v, hu, -⟩ := hm.known f d' hf
      by_cases hdd : d' = d
      · exact .inl ⟨congrArg some hdd, Machine.calls_of_get? (hdd ▸ hf) args line⟩
      · obtain ⟨i, -, hin⟩ := hd.inScope
        exact .inr (.inr ⟨d', d, hu.within, hin.stands, hname, hd.named, hdd⟩)

/-- A function that calls one of its own. -/
def helper : FnDecl :=
  ⟨⟨"f", .int, [⟨"n", .int, 1⟩], 1, 1⟩,
    [.fn ⟨"g", .int, [], 2, 2⟩ [.ret (.lit ⟨.int, "1", 3⟩) 3],
      .ret (.bin .add (.call "g" [] 5) (.var "n" 5) 5) 5]⟩

/-- The program defines the function and calls it. -/
def calling (d : FnDecl) : Program :=
  [.fn d.header d.body, .print (.call d.header.name [.lit ⟨.int, "2", 8⟩] 8) 8]

/-- The call runs the body of the function, which calls its own function and adds two to one. -/
theorem calls_run_what_is_bound_helper : (typeCheck (calling helper) "f").isValid = true ∧
    ∃ t m, Reached (calling helper) (.initial "f" .unlimited) [] t
        (.expr (.call "f" [.lit ⟨.int, "2", 8⟩] 8)) m ∧
      ∃ d, Binds (calling helper) t (.expr (.call "f" [.lit ⟨.int, "2", 8⟩] 8)) "f" d ∧
        m.functions.get? "f" = some d ∧
        (evalExpr 9 (.call "f" [.lit ⟨.int, "2", 8⟩] 8)).run m =
          (Exec.inFrame (callFrame d.header [.int 2]) (execStmts 8 d.body) >>=
            Exec.taken d 8).run m ∧
        ∃ m', (evalExpr 9 (.call "f" [.lit ⟨.int, "2", 8⟩] 8)).run m = .done (.int 3) m' := by
  have hv : (typeCheck (calling helper) "f").isValid = true := by decide +kernel
  have hname : Undisputed (calling helper) "f" := by decide +kernel
  have hreach : Reached (calling helper) (.initial "f" .unlimited) [] _
      (.expr (.call "f" [.lit ⟨.int, "2", 8⟩] 8)) _ :=
    .first (.head (.tail (n := 1) .program rfl)) rfl
  obtain ⟨-, hcalls⟩ := calls_run_what_is_bound hv .unlimited
  obtain ⟨⟨d, hd⟩, hruns⟩ := hcalls _ _ _ _ _ _ hreach
  obtain ⟨hfound, hbody⟩ := (hruns d hd).resolve_right
    (not_or.2 ⟨fun ⟨g, hg⟩ => hname.not_conditional _ hg, hname.not_contested⟩)
  obtain rfl : helper = d := Option.some.inj hfound
  exact ⟨hv, _, _, hreach, _, hd, hfound, hbody 8, _, (hbody 8).trans rfl⟩

/-- A function in the branch of a condition that does not hold. -/
def leftUndefined : Program :=
  [.cond (.lit ⟨.int, "0", 1⟩) (.fn ⟨"f", .int, [], 1, 1⟩ [.ret (.lit ⟨.int, "1", 1⟩) 1]) none 1,
    .print (.call "f" [] 2) 2]

/-- A function that defines another one of the name of a global function. -/
def overriding : Program :=
  [.fn ⟨"g", .int, [], 1, 1⟩ [.ret (.lit ⟨.int, "1", 1⟩) 1],
    .fn ⟨"f", .int, [], 2, 2⟩
      [.fn ⟨"g", .int, [], 3, 3⟩ [.ret (.lit ⟨.int, "2", 3⟩) 3], .ret (.lit ⟨.int, "0", 4⟩) 4],
    .expr (.call "f" [] 6) 6,
    .print (.call "g" [] 7) 7]

/-- A valid program may call a function that has not been defined. It may also run the body of
another function than the one that the call is bound to: the last call is one of the global
function, which returns one, and gives two. -/
theorem valid_unresolved : Slips leftUndefined (.undefinedFunction "f") ∧
    (typeCheck overriding "f").isValid = true ∧
    ∃ t m d d', Reached overriding (.initial "f" .unlimited) [] t (.expr (.call "g" [] 7)) m ∧
      Binds overriding t (.expr (.call "g" [] 7)) "g" d ∧
      m.functions.get? "g" = some d' ∧ d.header.line = 1 ∧ d'.header.line = 3 ∧
      d.body = [.ret (.lit ⟨.int, "1", 1⟩) 1] ∧ m.Calls d' "g" [] 7 ∧
      ∃ m', (evalExpr 9 (.call "g" [] 7)).run m = .done (.int 2) m' := by
  refine ⟨by decide +kernel, by decide +kernel, ?_⟩
  have hreach : Reached overriding (.initial "f" .unlimited) [] _ (.expr (.call "g" [] 7)) _ :=
    .first (.head (.tail (n := 9) (.tail (n := 9) (.tail (n := 9) .program rfl) rfl) rfl)) rfl
  have hscope : InScope overriding ⟨⟨"g", .int, [], 1, 1⟩, [.ret (.lit ⟨.int, "1", 1⟩) 1]⟩ 0 _
      (.expr (.call "g" [] 7)) :=
    ((((InScope.rest .program (.head _) rfl).part (.tail _ (.head _))).part
      (.tail _ (.head _))).part (.head _)).part (.head _)
  have hbinds : Binds overriding _ (.expr (.call "g" [] 7)) "g" _ :=
    ⟨rfl, ⟨0, rfl, hscope⟩, _, rfl, Symbol.Settles.returned _⟩
  exact ⟨_, _, _, _, hreach, hbinds, rfl, rfl, rfl, rfl, Machine.calls_of_get? rfl _ _, _, rfl⟩

end Imperative
