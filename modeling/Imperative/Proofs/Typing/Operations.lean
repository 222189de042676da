import Imperative.Proofs.Typing.Agreement

/-!
Runs of valid programs apply no operator to values that it cannot take, provided that names which
the check and the run may take for different things have one type throughout.
-/

namespace Imperative

variable {p : Program}

/-- What the check and a run agree on: the variables there are, and the types of their values. -/
structure Sound (p : Program) (cs : List SymbolTable) (t : SymbolTable) (m : Machine) : Prop where
  agrees : Agrees p cs t m
  typed : Typed p cs t m

namespace Sound

open SymbolTable

variable {cs : List SymbolTable} {t u v : SymbolTable} {m m' : Machine} {name : String}
  {value : Value}

lemma initial (file : String) (sink : Sink) : Sound p [] .initial (.initial file sink) :=
  ⟨.initial file sink, .initial file sink⟩

lemma settle (he : t.Extends [] u) : Sound p cs t m ↔ Sound p cs u m :=
  ⟨fun h => ⟨(Agrees.settle he).1 h.agrees, (Typed.settle he).1 h.typed⟩,
    fun h => ⟨(Agrees.settle he).2 h.agrees, (Typed.settle he).2 h.typed⟩⟩

lemma enterScope {label : ScopeLabel} (hl : ∀ f, label ≠ .function f) (h : Sound p cs t m) :
    Sound p cs (t.push label) (m.enter (.block name)) := by
  have htracks := h.typed.tracks.enterScope hl (Frame.Fits.opened name label)
  exact ⟨h.agrees.enterScope hl, htracks, h.typed.base⟩

lemma leaveScope {label : ScopeLabel} {l : List (String × Symbol)}
    (hl : ∀ f, label ≠ .function f) (he : (t.push label).Extends l u) (h : Sound p cs u m) :
    Sound p cs t m.leave := by
  have htracks := h.typed.tracks.leaveScope hl he fun _ _ _ hs hf => hf.back hs
  exact ⟨h.agrees.leaveScope hl he, htracks, h.typed.base⟩

lemma leaveCall {l : List (String × Symbol)} (he : (u.push (.function name)).Extends l v)
    (h : Sound p (t :: cs) v m) : Sound p cs t m.leave :=
  ⟨h.agrees.leaveCall he, h.typed.tracks.leaveCall he, h.typed.base⟩

lemma declare {type : Ty} {i : Init} {is : List Init} (hp : Passes p) (hn : NoUnknown p)
    (hs : Seen p t (.inits type (i :: is))) (h : Sound p cs t m)
    (hv : value.type = i.value.type t) :
    Sound p cs (Check.declare i.name (.var type) i.line t).symbols
      { m with memory := m.memory.declare i.name (value.coerce type) } := by
  obtain ⟨hstore, hu⟩ := (hs.passes hp).init
  have htype : (value.coerce type).type = type :=
    Value.type_coerce (hv ▸ hstore) (hn.init hs)
  have hd : Declares p i.name type := .var hs
  have htracks := h.typed.tracks.declare hu fun _ _ hf _ => hf.declare htype hd
  refine ⟨h.agrees.declare hu, htracks, fun x w hx => ?_⟩
  simp only [Memory.declare] at hx
  cases hi : m.memory.inner with
  | cons f fs => rw [hi] at hx; exact h.typed.base x w hx
  | nil =>
    rw [hi] at hx
    simp only [Frame.get?_declare] at hx
    split at hx
    · next hname =>
      cases hx
      subst hname
      rw [htype]
      exact ⟨hd, .inl (hs.init_global (h.typed.tracks.table_nil hi) hu)⟩
    · exact h.typed.base x w hx

lemma store {e : Expr} {line : Nat} (hp : Passes p) (hu : Uniform p)
    (hs : Seen p t (.stmt (.assign name e line))) (h : Sound p cs t m)
    (hv : value.type = e.type t) :
    Sound p cs t { m with memory := m.memory.store name value } := by
  obtain ⟨type, hr, hstore⟩ := (hs.passes hp).assign
  have hold : ∀ old, m.memory.lookup name = some old →
      (value.coerce old.type).type = old.type := by
    intro old hl
    have hot := h.typed.variable_type hp hu h.agrees hs rfl hr hl
    refine Value.type_coerce ?_ old.type_ne_unknown
    rw [hot, hv]
    exact hstore
  refine ⟨h.agrees.store, ?_, ?_⟩
  · exact h.typed.tracks.store fun old _ _ _ hl hw hf => hf.writes hw (hold old hl)
  · intro x w hx
    have new : m.memory.base.get? x = some w → _ := h.typed.base x w
    rcases m.memory.store_spec name value with ⟨old, hl, -, hbase⟩ | ⟨hl, -, hbase⟩
    · rcases hbase with hbase | ⟨hget, hbase⟩
      · rw [hbase] at hx
        exact new hx
      · rw [hbase, Frame.get?_declare] at hx
        split at hx
        · next hname =>
          cases hx
          subst hname
          rw [hold old hl]
          exact h.typed.base _ old hget
        · exact new hx
    · rw [hbase, Frame.get?_declare] at hx
      split at hx
      · next hname =>
        cases hx
        subst hname
        have hloose := h.agrees.unbound hs rfl hl
        refine ⟨?_, .inr hloose⟩
        rw [hv]
        exact hu.assigned _ hloose t e line hs
      · exact new hx

lemma print {s : Sink} (h : Sound p cs t m) : Sound p cs t { m with sink := s } :=
  ⟨h.agrees.print, h.typed.tracks, h.typed.base⟩

lemma skip {test : Expr} {yes s : Stmt} {no : Option Stmt} {line : Nat} (h : Sound p cs t m)
    (hc : Seen p u (.stmt (.cond test yes no line))) (hs : s = yes ∨ no = some s) :
    Sound p cs (Check.stmt s t).symbols m := by
  have htracks := h.typed.tracks.extend (Check.stmt_extends s t) fun _ _ _ hs hf => hf.extend hs
  exact ⟨h.agrees.skip hc hs, htracks, h.typed.base⟩

lemma define {header : FnHeader} {body : List Stmt} (h : Sound p cs t m)
    (hs : Seen p t (.stmt (.fn header body)))
    (hu : t.declare header.name (.fn (Check.signatureOf header)) = .ok u) :
    Sound p cs u { m with functions := m.functions.insert header.name ⟨header, body⟩ } := by
  have htracks := h.typed.tracks.extend (declare_extends hu) fun _ _ _ hs hf => hf.extend hs
  exact ⟨h.agrees.define hs hu, htracks, h.typed.base⟩

/-- The arguments of a call have the types that the parameters of any definition have. -/
lemma arguments {args : List Expr} {line : Nat} {vs : List Value} {h : FnHeader}
    {body : List Stmt} (hp : Passes p) (hu : Uniform p)
    (hs : Seen p t (.expr (.call name args line)))
    (hvs : List.Forall₂ (fun e v => v.type = Expr.type t e) args vs)
    (hd : Seen p u (.stmt (.fn h body))) (hname : h.name = name) :
    List.Forall₂ (fun q v => q.type = Value.type v) h.params vs := by
  obtain ⟨t', h₁, b₁, hs₁, hname₁, -, hargs⟩ := hs.definition hp
  have htypes := (hu.functions _ _ _ _ _ _ hd hs₁ (hname.trans hname₁.symm)).2
  rw [← htypes, List.forall₂_map_left_iff] at hargs
  refine forall₂_trans (fun q e v hq hv => ?_) hargs hvs
  rw [hv]
  refine hq.resolve_right fun hk => v.type_ne_unknown ?_
  rw [hv, hk]

/-- **The frame of a call fits the scope of the function.** -/
theorem callFrame {h : FnHeader} {body : List Stmt} {vs : List Value}
    (hs : Seen p u (.stmt (.fn h body)))
    (hparams : (Check.params h.params (v.push (.function h.name))).Passes)
    (hvs : List.Forall₂ (fun q v => q.type = Value.type v) h.params vs) :
    (callFrame h vs).Fits p (Check.entry h v).current := by
  intro x w hx
  obtain ⟨q, hq, rfl⟩ := get?_callFrame hx
  have hmem : q ∈ h.params := (List.of_mem_zip hq).1
  have htype : q.type = w.type := List.forall₂_zip hvs hq
  rw [← htype]
  exact ⟨Task.params_of_passes hparams q hmem, .param hs hmem⟩

lemma call {args : List Expr} {line : Nat} {d : FnDecl} {vs : List Value} (hp : Passes p)
    (hu : Uniform p) (hs : Seen p t (.expr (.call name args line))) (h : Sound p cs t m)
    (hd : m.functions.get? name = some d) (hg : m.Grows m') (h' : Sound p cs t m')
    (hvs : List.Forall₂ (fun e v => v.type = Expr.type t e) args vs) :
    ∃ u v, Seen p u (.stmt (.fn d.header d.body)) ∧
      u.declare d.header.name (.fn (Check.signatureOf d.header)) = .ok v ∧
      Sound p (t :: cs) (Check.entry d.header v) (m'.enter (Imperative.callFrame d.header vs)) := by
  obtain ⟨u, v, hud, hv, hagrees⟩ := h.agrees.call hp hs hd hg h'.agrees hvs.length_eq
  obtain ⟨v', hv', hparams⟩ := (hud.passes hp).fn
  rw [hv] at hv'
  cases hv'
  have hargs := arguments hp hu hs hvs hud (h.agrees.known name d hd).1
  have hframe := callFrame hud hparams hargs
  have htracks := h'.typed.tracks.enterCall (Check.params_extends d.header.params _) hframe
  exact ⟨u, v, hud, hv, hagrees, htracks, h'.typed.base⟩

/-- A function returns what its definitions tell, as the definition at hand does. -/
lemma ret {e : Expr} {line : Nat} (hp : Passes p) (hn : NoUnknown p) (hu : Uniform p)
    (hs : Seen p t (.stmt (.ret e line))) (hf : t.enclosingFunction? = some name)
    (hv : value.type = e.type t) (w : SymbolTable) (h : FnHeader) (body : List Stmt)
    (hd : Seen p w (.stmt (.fn h body))) (hname : h.name = name) : value.type = h.returnType := by
  obtain ⟨f, hf', hret⟩ := (hs.passes hp).ret
  obtain rfl : f = name := Option.some.inj (hf'.symm.trans hf)
  obtain ⟨g, hg⟩ := Option.isSome_iff_exists.1 (hs.proper.headed.signature?_isSome hf)
  obtain ⟨t', h₁, b₁, hs₁, hname₁, hreturn, -⟩ := (hs.proper.sourced.signature? hg).definition
  have htypes := (hu.functions _ _ _ _ _ _ hd hs₁ (hname.trans hname₁.symm)).1
  rw [htypes, ← hreturn, hv]
  rcases hret g hg with heq | hk | hk
  · exact heq.symm
  · exact absurd (hreturn.symm.trans hk) (hn.returns hs₁)
  · exact absurd (hv.trans hk) value.type_ne_unknown

/-- What a call gives has the type that the check tells. -/
lemma result {args : List Expr} {line : Nat} {d : FnDecl} (hp : Passes p)
    (hs : Seen p t (.expr (.call name args line))) (h : Sound p cs t m)
    (hd : m.functions.get? name = some d)
    (hv : ∀ w h body, Seen p w (.stmt (.fn h body)) → h.name = d.header.name →
      value.type = h.returnType) : value.type = Expr.type t (.call name args line) := by
  obtain ⟨t', h₁, b₁, hs₁, hname₁, hreturn, -⟩ := hs.definition hp
  have hname := (h.agrees.known name d hd).1
  rw [hreturn]
  exact hv t' h₁ b₁ hs₁ (hname₁.trans hname.symm)

/-- What an operator gives has the type that the check tells, and it takes its operands. -/
lemma bin {op : Operator} {l r : Expr} {line : Nat} {a b : Value} (hp : Passes p)
    (hs : Seen p t (.expr (.bin op l r line))) (ha : a.type = l.type t) (hb : b.type = r.type t) :
    Value.Comes (Expr.type t (.bin op l r line)) (Value.apply op a b) := by
  have hop : (op.resultType a.type b.type).isSome := by
    rcases (hs.passes hp).bin with hop | hk | hk
    · rw [ha, hb]; exact hop
    · exact absurd (ha.trans hk) a.type_ne_unknown
    · exact absurd (hb.trans hk) b.type_ne_unknown
  obtain ⟨type, htype⟩ := Option.isSome_iff_exists.1 hop
  have hcomes := Value.comes_apply htype
  rw [ha, hb] at htype
  unfold Expr.type
  rw [htype]
  exact hcomes

end Sound

/-- What a run may stop with where operators are concerned. -/
def Fault.Operates : Fault → Prop
  | illegalOperation .. => False
  | _ => True

/-- That values have the types which the check tells is an invariant. -/
def soundness (hp : Passes p) (hn : NoUnknown p) (hu : Uniform p) : Invariant p where
  Holds := Sound p
  Yields t e v := v.type = e.type t
  Returns name v := ∀ w h body, Seen p w (.stmt (.fn h body)) → h.name = name →
    v.type = h.returnType
  Faults f := f.Operates
  ordinary {f} hf := by cases f <;> trivial
  lit h := Value.type_ofLiteral h
  var hs h v hl := by
    obtain ⟨type, hr⟩ := (hs.passes hp).var
    unfold Expr.type
    rw [hr]
    exact h.typed.variable_type hp hu h.agrees hs rfl hr hl
  unbound _ _ _ := trivial
  bin hs ha hb := by
    have hcomes := Sound.bin hp hs ha hb
    refine ⟨fun v hv => ?_, fun f hf => ?_⟩
    · rw [hv] at hcomes
      exact hcomes
    · rw [hf] at hcomes
      cases f <;> trivial
  undefined _ _ _ := trivial
  call hs h hd hg h' hvs := Sound.call hp hu hs h hd hg h' hvs
  result hs h hd hv := h.result hp hs hd hv
  leaveCall he h := h.leaveCall he
  enterScope hl h := h.enterScope hl
  leaveScope hl he h := h.leaveScope hl he
  settle he := Sound.settle he
  declare hs h hv := h.declare hp hn hs hv
  store hs h hv := h.store hp hu hs hv
  define hs hu h := h.define hs hu
  print h := h.print
  skip hc hb _ h := h.skip hc hb
  ret hs hf hv := Sound.ret hp hn hu hs hf hv

end Imperative
