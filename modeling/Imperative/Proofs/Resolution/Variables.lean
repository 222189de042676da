import Imperative.Proofs.Check.Nodes
import Imperative.Proofs.Machine.Reached
import Imperative.Proofs.Memory.Laws
import Imperative.Proofs.Resolution.Agreement

/-!
The check and a run agree on which variables there are, loose names apart.
-/

namespace Imperative

variable {p : Program}

/-- A function that has been checked, and what was known where it stands is bound. -/
def Known (p : Program) (m : Machine) (d : FnDecl) : Prop :=
  ∃ u v, Seen p u (.stmt (.fn d.header d.body)) ∧
    u.declare d.header.name (.fn (Check.signatureOf d.header)) = .ok v ∧ Bound p v m

lemma Known.grows {m m' : Machine} {d : FnDecl} (h : Known p m d) (hm : m.Grows m') :
    Known p m' d := by
  obtain ⟨u, v, hs, hv, hb⟩ := h
  exact ⟨u, v, hs, hv, hb.grows hm⟩

/-- The machine binds what is known at a place and at the calls under way. -/
structure Agrees (p : Program) (cs : List SymbolTable) (t : SymbolTable) (m : Machine) : Prop where
  tracks : m.memory.Tracks (Frame.Binds p) cs t
  bound : Bound p t m
  callers : ∀ u ∈ cs, Bound p u m
  known : ∀ name d, m.functions.get? name = some d → d.header.name = name ∧ Known p m d

namespace Agrees

open SymbolTable

variable {cs : List SymbolTable} {t u v : SymbolTable} {m m' : Machine}
  {l : List (String × Symbol)} {label : ScopeLabel} {name : String}

lemma initial (file : String) (sink : Sink) : Agrees p [] .initial (.initial file sink) :=
  ⟨.initial, .initial _, List.forall_mem_nil _, fun _ _ h => (nomatch h)⟩

lemma known_grows (h : Agrees p cs t m) (hg : m.Grows m') (hf : m'.functions = m.functions) :
    ∀ name d, m'.functions.get? name = some d → d.header.name = name ∧ Known p m' d := by
  intro name d hd
  rw [hf] at hd
  exact ⟨(h.known name d hd).1, (h.known name d hd).2.grows hg⟩

lemma callers_grow (h : Agrees p cs t m) (hg : m.Grows m') : ∀ u ∈ cs, Bound p u m' :=
  fun u hu => (h.callers u hu).grows hg

/-- A machine with other frames and the same functions. -/
lemma update (h : Agrees p cs t m) (ht : m'.memory.Tracks (Frame.Binds p) cs t)
    (hg : m.Grows m') (hf : m'.functions = m.functions) : Agrees p cs t m' :=
  ⟨ht, h.bound.grows hg, h.callers_grow hg, h.known_grows hg hf⟩

lemma extend (h : Agrees p cs t m) (he : t.Extends l u)
    (hv : ∀ x type, (x, .var type) ∈ l → Loose p x)
    (hf : ∀ f g, (f, .fn g) ∈ l → ∃ g', Conditional p f (.fn g')) : Agrees p cs u m := by
  have htracks := h.tracks.extend he fun f s s' hs hb => hb.extend hs hv
  refine ⟨htracks, h.bound.extend he ?_ ?_, h.callers, h.known⟩
  · exact fun x type hx _ => .inl (hv x type hx)
  · exact fun f g hg => .inl (hf f g hg)

lemma back (h : Agrees p cs u m) (he : t.Extends l u) : Agrees p cs t m := by
  have htracks := h.tracks.back he fun f s s' hs hb => hb.back hs
  exact ⟨htracks, h.bound.back he, h.callers, h.known⟩

lemma settle (he : t.Extends [] u) : Agrees p cs t m ↔ Agrees p cs u m :=
  ⟨fun h => h.extend he (fun _ _ h => (nomatch h)) fun _ _ h => (nomatch h), fun h => h.back he⟩

lemma enterScope (hl : ∀ f, label ≠ .function f) (h : Agrees p cs t m) :
    Agrees p cs (t.push label) (m.enter (.block name)) := by
  have hg := Machine.Grows.enter m (.block name)
  have htracks := h.tracks.enterScope hl (.opened name hl)
  exact ⟨htracks, (h.bound.grows hg).push, h.callers_grow hg, h.known_grows hg rfl⟩

lemma leaveScope (hl : ∀ f, label ≠ .function f) (he : (t.push label).Extends l u)
    (h : Agrees p cs u m) : Agrees p cs t m.leave := by
  have hg := Machine.Grows.leave m
  have htracks := h.tracks.leaveScope hl he fun f s s' hs hb => hb.back hs
  have hbound : Bound p t m := h.bound.pop.back he.pop
  exact ⟨htracks, hbound.grows hg, h.callers_grow hg, h.known_grows hg rfl⟩

lemma leaveCall (he : (u.push (.function name)).Extends l v) (h : Agrees p (t :: cs) v m) :
    Agrees p cs t m.leave := by
  have hg := Machine.Grows.leave m
  obtain ⟨hbound, hcallers⟩ := List.forall_mem_cons.1 (h.callers_grow hg)
  exact ⟨h.tracks.leaveCall he, hbound, hcallers, h.known_grows hg rfl⟩

lemma declare {type : Ty} {value : Value} (h : Agrees p cs t m)
    (hu : t.declare name (.var type) = .ok u) :
    Agrees p cs u { m with memory := m.memory.declare name value } := by
  have hg := Machine.Grows.declare m name value
  have htracks : (m.memory.declare name value).Tracks (Frame.Binds p) cs u :=
    h.tracks.declare hu fun _ _ hb _ => hb.declare
  refine ⟨htracks, ?_, h.callers_grow hg, h.known_grows hg rfl⟩
  refine (h.bound.grows hg).extend (declare_extends hu) ?_ ?_
  · intro x σ hx hinner
    obtain ⟨rfl, -⟩ : x = name ∧ _ := by simpa using hx
    refine .inr ?_
    unfold Memory.declare
    rw [h.tracks.inner_nil hinner]
    exact m.memory.base.contains_declare (.inl rfl)
  · intro f g hf
    simp at hf

lemma print {s : Sink} (h : Agrees p cs t m) : Agrees p cs t { m with sink := s } :=
  h.update h.tracks (.print m s) rfl

/-- What a branch adds that is not taken is loose. -/
lemma skip {test : Expr} {yes s : Stmt} {no : Option Stmt} {line : Nat} (h : Agrees p cs t m)
    (hc : Seen p u (.stmt (.cond test yes no line))) (hs : s = yes ∨ no = some s) :
    Agrees p cs (Check.stmt s t).symbols m := by
  refine h.extend (Check.stmt_extends s t) (fun x type hx => ?_) fun f g hf => ?_
  · exact .inl ⟨type, u, test, yes, no, line, s, hc, hs, hx⟩
  · exact ⟨g, u, test, yes, no, line, s, hc, hs, hf⟩

lemma store {value : Value} (h : Agrees p cs t m) :
    Agrees p cs t { m with memory := m.memory.store name value } :=
  h.update (h.tracks.store fun _ _ _ _ _ hw hb => hb.writes hw) (.store m name value) rfl

lemma define {header : FnHeader} {body : List Stmt} (h : Agrees p cs t m)
    (hs : Seen p t (.stmt (.fn header body)))
    (hu : t.declare header.name (.fn (Check.signatureOf header)) = .ok u) :
    Agrees p cs u { m with functions := m.functions.insert header.name ⟨header, body⟩ } := by
  have hg := Machine.Grows.define m header.name ⟨header, body⟩
  have hbu : Bound p u { m with functions := m.functions.insert header.name ⟨header, body⟩ } := by
    refine (h.bound.grows hg).extend (declare_extends hu) (fun x type hx _ => by simp at hx) ?_
    intro f g hf
    obtain ⟨rfl, -⟩ : f = header.name ∧ _ := by simpa using hf
    exact .inr (by simp [Bindings.contains])
  have htracks : m.memory.Tracks (Frame.Binds p) cs u := by
    refine h.tracks.extend (declare_extends hu) fun f s s' hs hb => hb.extend hs fun x type hx => ?_
    simp at hx
  refine ⟨htracks, hbu, h.callers_grow hg, fun name d hd => ?_⟩
  simp only [Bindings.get?_insert] at hd
  split at hd
  · next hname =>
    cases hd
    exact ⟨hname, t, u, hs, hu, hbu⟩
  · exact ⟨(h.known name d hd).1, (h.known name d hd).2.grows hg⟩

/-- A parameter of the function that a call runs has an argument or is loose: the call has been
checked against some definition of the name, if not against this one. -/
lemma spare {args : List Expr} {line : Nat} {header : FnHeader} {body : List Stmt}
    {vs : List Value} (hp : Passes p) (hs : Seen p t (.expr (.call name args line)))
    (hu : Seen p u (.stmt (.fn header body))) (hname : header.name = name)
    (hlen : args.length = vs.length) :
    ∀ x ∈ (header.params.drop vs.length).map Param.name, Loose p x := by
  obtain ⟨t', h₁, b₁, hs₁, hname₁, -, hargs⟩ := hs.definition hp
  have hcount := hargs.length_eq
  rw [List.length_map, hlen] at hcount
  intro x hx
  rw [← hcount] at hx
  have hspare : Spare p x := ⟨u, t', header, h₁, body, b₁, hu, hs₁, hname₁.trans hname.symm, hx⟩
  exact .inr (.inr hspare)

/-- **A call finds what is known at the definition that it runs.** -/
theorem call {args : List Expr} {line : Nat} {d : FnDecl} {vs : List Value} (hp : Passes p)
    (hs : Seen p t (.expr (.call name args line))) (h : Agrees p cs t m)
    (hd : m.functions.get? name = some d) (hg : m.Grows m') (h' : Agrees p cs t m')
    (hlen : args.length = vs.length) : ∃ u v, Seen p u (.stmt (.fn d.header d.body)) ∧
      u.declare d.header.name (.fn (Check.signatureOf d.header)) = .ok v ∧
      Agrees p (t :: cs) (Check.entry d.header v) (m'.enter (callFrame d.header vs)) := by
  obtain ⟨hname, u, v, hu, hv, hb⟩ := h.known name d hd
  have hentry : (v.push (.function d.header.name)).Extends _ (Check.entry d.header v) :=
    Check.params_extends d.header.params _
  have henter := Machine.Grows.enter m' (callFrame d.header vs)
  have hframe : (callFrame d.header vs).Binds p (Check.entry d.header v).current :=
    .callFrame (spare hp hs hu hname hlen) (own_call hentry).2
  have hbound : Bound p (Check.entry d.header v) (m'.enter (callFrame d.header vs)) := by
    refine (hb.grows (hg.trans henter)).push.extend hentry (fun _ _ _ h => (nomatch h)) ?_
    intro f g hf
    simp at hf
  have hcallers : ∀ w ∈ t :: cs, Bound p w (m'.enter (callFrame d.header vs)) :=
    List.forall_mem_cons.2 ⟨h'.bound.grows henter, h'.callers_grow henter⟩
  exact ⟨u, v, hu, hv, h'.tracks.enterCall hentry hframe, hbound, hcallers,
    h'.known_grows henter rfl⟩

/-- **A variable that is visible and not loose is bound.** -/
theorem lookup_isSome {type : Ty} (h : Agrees p cs t m)
    (hx : t.visible? name = some (.var type)) (hl : m.memory.lookup name = none) :
    Loose p name := by
  obtain ⟨fs, hfs, heq⟩ := h.tracks.lookup (fun _ _ hb => hb.mirrors) name
  have hbase := h.bound.vars name type
  rw [heq] at hl
  unfold visible? at hx
  generalize t.own = ss at hfs hx
  clear heq
  induction hfs with
  | nil =>
    simp only [List.nil_append, List.findSome?_cons, List.findSome?_nil] at hl hx
    cases hb : t.base.get? name with
    | none => rw [hb] at hx; cases hx
    | some a =>
      rw [hb] at hx
      cases hx
      refine (hbase hb).resolve_right fun hc => ?_
      rw [Frame.contains_eq] at hc
      cases hf : m.memory.base.get? name with
      | none => rw [hf] at hc; cases hc
      | some v => rw [hf] at hl; cases hl
  | @cons f s fs ss hb _ ih =>
    rw [List.cons_append, List.findSome?_cons] at hl hx
    cases hf : f.get? name with
    | some v => rw [hf] at hl; cases hl
    | none =>
      rw [hf] at hl
      cases hs : s.get? name with
      | none => rw [hs] at hx; exact ih hl hx
      | some a =>
        rw [hs] at hx
        cases hx
        refine (hb.binds name type hs).resolve_right fun hc => ?_
        rw [Frame.contains_eq, hf] at hc
        cases hc

/-- A variable that a passing task uses is bound, or loose. -/
lemma unbound {k : Task} (h : Agrees p cs t m) (hs : Seen p t k) (hk : k.variable? = some name)
    (hl : m.memory.lookup name = none) : Loose p name := by
  by_cases hv : ∃ type, t.visible? name = some (.var type)
  · obtain ⟨type, hv⟩ := hv
    exact h.lookup_isSome hv hl
  · exact .inr (.inl ⟨t, k, hs, hk, fun type ht => hv ⟨type, ht⟩⟩)

lemma undefined {g : Signature} (h : Agrees p cs t m) (hf : t.resolve? name = some (.fn g))
    (hn : m.functions.get? name = none) : ∃ g', Conditional p name (.fn g') := by
  obtain ⟨s, hs, hget⟩ := List.exists_of_findSome?_eq_some hf
  refine (h.bound.fns s hs name g hget).resolve_right fun hc => ?_
  simp [Bindings.contains, hn] at hc

end Agrees

/-- What a run may stop with where names are concerned: only loose ones are not found. -/
def Fault.Blames (p : Program) : Fault → Prop
  | undefinedVariable name => Loose p name
  | undefinedFunction name => ∃ g, Conditional p name (.fn g)
  | _ => True

/-- That the check and the run agree on names is an invariant. -/
def agreement (hp : Passes p) : Invariant p where
  Holds := Agrees p
  Yields _ _ _ := True
  Returns _ _ := True
  Faults f := f.Blames p
  ordinary {f} hf := by cases f <;> trivial
  lit _ := trivial
  var _ _ _ _ := trivial
  unbound hs h hl := h.unbound hs rfl hl
  bin _ _ _ := by
    refine ⟨fun _ _ => trivial, fun f hf => ?_⟩
    rcases Value.apply_error hf with ho | ⟨_, _, rfl⟩
    · cases f <;> trivial
    · trivial
  undefined hs h hn := by
    obtain ⟨g, hg, -⟩ := (hs.passes hp).call
    exact h.undefined hg hn
  call hs h hd hg h' hvs := h.call hp hs hd hg h' hvs.length_eq
  result _ _ _ _ := trivial
  leaveCall he h := h.leaveCall he
  enterScope hl h := h.enterScope hl
  leaveScope hl he h := h.leaveScope hl he
  settle he := Agrees.settle he
  declare hs h _ := h.declare (hs.passes hp).init.2
  store _ h _ := h.store
  define hs hu h := h.define hs hu
  print h := h.print
  skip hc hb _ h := h.skip hc hb
  ret _ _ _ := trivial

/-- **Only loose names are not found.** In a run of a valid program, a variable that is read without
being bound is loose, and so is one that is assigned to without being bound. -/
theorem unbound_is_loose {file : String} (hv : (typeCheck p file).isValid = true) (sink : Sink) :
    (∀ n x, (interpret n p file sink).fault? = some (.undefinedVariable x) → Loose p x) ∧
    ∀ cs t x e line m n v m' w,
      Reached p (.initial file sink) cs t (.stmt (.assign x e line)) m →
      (evalExpr n e).run m = .done v m' → m'.memory.assign? x w = none → Loose p x := by
  have hp := (passes_iff p file).2 hv
  have hstart := Agrees.initial (p := p) file sink
  refine ⟨fun n x hx => ?_, ?_⟩
  · obtain ⟨e, m, hr, hf⟩ := Outcome.fault?_eq_some hx
    have hblame := (((agreement hp).interpret_ends hp n hstart).failed hr).faults
    rw [hf] at hblame
    exact hblame
  · intro cs t x e line m n v m' w hreach hr ha
    obtain ⟨cs', t', -, hs, hm⟩ := Invariant.reached (I := agreement hp) hp hstart hreach
    have hm' := (((agreement hp).keeps hp n).expr (hs.part (.head _)) hm).done hr
    exact hm'.1.unbound hs rfl (Memory.assign?_eq_none.1 ha)

/-- A function inside another one that reads a variable of the outer one. -/
def reachingOut : Program :=
  [.fn ⟨"f", .int, [], 1, 1⟩
      [.decl .int [⟨"x", .lit ⟨.int, "1", 2⟩, 2⟩] 2,
       .fn ⟨"g", .int, [], 3, 3⟩ [.ret (.var "x" 4) 4],
       .ret (.call "g" [] 6) 6],
    .print (.call "f" [] 8) 8]

/-- A declaration that is a branch of a condition which does not hold. -/
def leftOut : Program :=
  [.cond (.lit ⟨.int, "0", 1⟩) (.decl .int [⟨"x", .lit ⟨.int, "1", 1⟩, 1⟩] 1) none 1,
    .print (.var "x" 2) 2]

/-- A function of one parameter that takes the place of one without any. -/
def redefining : Program :=
  [.fn ⟨"f", .int, [], 1, 1⟩ [.ret (.lit ⟨.int, "1", 1⟩) 1],
    .fn ⟨"g", .int, [], 2, 2⟩
      [.fn ⟨"f", .int, [⟨"x", .int, 3⟩], 3, 3⟩ [.ret (.var "x" 3) 3],
       .ret (.lit ⟨.int, "0", 4⟩) 4],
    .print (.call "g" [] 6) 6,
    .print (.call "f" [] 7) 7]

theorem unbound_is_loose_reachingOut :
    (interpret 20 reachingOut "f" .unlimited).fault? = some (.undefinedVariable "x") ∧
      Loose reachingOut "x" :=
  have hv : (typeCheck reachingOut "f").isValid = true := by decide +kernel
  have hx : (interpret 20 reachingOut "f" .unlimited).fault? = some (.undefinedVariable "x") := by
    decide +kernel
  ⟨hx, (unbound_is_loose hv .unlimited).1 20 "x" hx⟩

/-- The check lets the program through, and its run is stopped by the fault. -/
def Slips (p : Program) (f : Fault) : Prop :=
  NoUnknown p ∧ (typeCheck p "f").isValid = true ∧ (run 40 p "f" .unlimited).fault? = some f

instance (p : Program) (f : Fault) : Decidable (Slips p f) :=
  inferInstanceAs (Decidable (_ ∧ _ ∧ _))

/-- A name may be loose for any of the three reasons: valid programs do not find their variables. -/
theorem valid_unbound : Slips reachingOut (.undefinedVariable "x") ∧
    Slips leftOut (.undefinedVariable "x") ∧ Slips redefining (.undefinedVariable "x") := by
  decide +kernel

end Imperative
