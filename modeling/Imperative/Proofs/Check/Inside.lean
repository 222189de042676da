import Imperative.Proofs.Check.Seen
import Imperative.Proofs.Scope.Around

/-!
Checks inside of a scope.

What such a check finds does not depend on the returns that have been noted outside. It leaves the
scopes outside as they are, but for the returns that it notes there itself.
-/

namespace Imperative

variable {t u : SymbolTable} {r r' r'' : List Scope} {names names' : List String}
  {fs gs : List Finding} {c d : SymbolTable → Checked}

attribute [ext] Checked

namespace Expr

lemma type_settled (h : t.Extends [] u) (e : Expr) : e.type u = e.type t := by
  cases e with
  | lit _ => rfl
  | var name _ =>
    rcases h.resolve?_eq_or name with he | ⟨g, ht, hu⟩
    · simp only [type, he]
    · simp only [type, ht, hu]
  | bin op l r _ => rw [type, type, type_settled h l, type_settled h r]
  | call name _ _ =>
    rcases h.resolve?_eq_or name with he | ⟨g, ht, hu⟩
    · simp only [type, he]
    · simp only [type, ht, hu]

lemma nameFindings_settled (h : t.Extends [] u) (name : String) (line : Nat) :
    nameFindings u name line = nameFindings t name line := by
  rcases h.resolve?_eq_or name with he | ⟨g, ht, hu⟩
  · simp only [nameFindings, he, h.isGlobal_eq]
  · simp only [nameFindings, ht, hu]

lemma callFindings_settled (h : t.Extends [] u) (name : String) (args : List Ty) (line : Nat) :
    callFindings u name args line = callFindings t name args line := by
  rcases h.resolve?_eq_or name with he | ⟨g, ht, hu⟩
  · simp only [callFindings, he]
  · simp only [callFindings, ht, hu]

mutual

/-- What is wrong with an expression has nothing to do with returns. -/
theorem findings_settled (h : t.Extends [] u) (e : Expr) : e.findings u = e.findings t := by
  match e with
  | lit _ => rfl
  | var name line => exact nameFindings_settled h name line
  | bin op l r line =>
    rw [findings, findings, findings_settled h l, findings_settled h r, type_settled h,
      type_settled h]
  | call name args line =>
    have htypes : args.map (type u) = args.map (type t) :=
      List.map_congr_left fun e _ => type_settled h e
    rw [findings, findings, argsFindings_settled h args, htypes, callFindings_settled h]

theorem argsFindings_settled (h : t.Extends [] u) (es : List Expr) :
    argsFindings u es = argsFindings t es := by
  match es with
  | [] => rfl
  | e :: rest =>
    rw [argsFindings, argsFindings, findings_settled h e, argsFindings_settled h rest]

end

end Expr

namespace Check

open SymbolTable

lemma assignFindings_settled (h : t.Extends [] u) (name : String) (value : Expr) (line : Nat) :
    assignFindings name value line u = assignFindings name value line t := by
  rcases h.resolve?_eq_or name with he | ⟨g, ht, hu⟩
  · simp only [assignFindings, he, h.isGlobal_eq, value.type_settled h]
  · simp only [assignFindings, ht, hu]

lemma ret_settled (h : t.Extends [] u) (value : Expr) (line : Nat) :
    (ret (value.type u) line u).findings = (ret (value.type t) line t).findings := by
  unfold ret
  rw [value.type_settled h, h.enclosingFunction?_eq]
  cases t.enclosingFunction? with
  | none => rfl
  | some f =>
    have hrel := h.signature? (f := f) (by simp)
    dsimp only
    generalize t.signature? f = o at hrel ⊢
    generalize u.signature? f = o' at hrel ⊢
    cases hrel with
    | none => rfl
    | some hgg' => simp only [hgg'.returnType]

/-- Where there is no function of the name, there is nothing to note. -/
lemma ret_symbols (received : Ty) (line : Nat) (t : SymbolTable) :
    (ret received line t).symbols =
      match t.enclosingFunction? with
      | some f => t.markReturned f
      | none => t := by
  unfold ret
  cases t.enclosingFunction? with
  | none => rfl
  | some f =>
    cases hg : t.signature? f with
    | none => simp only [hg, markReturned_of_none hg]
    | some g => simp only [hg]

/-- Whatever returns have been noted in the table `t` around the scopes `r`, the check leaves the
scopes `r'` in their place, notes returns of `names` in the table, and finds `fs`. -/
def Makes (c : SymbolTable → Checked) (t : SymbolTable) (r r' : List Scope) (names : List String)
    (fs : List Finding) : Prop :=
  ∀ u, t.Extends [] u → c (u.around r) = ⟨(u.noteAll names).around r', fs⟩

lemma Makes.of_eq (hd : Makes d t r' r'' names fs)
    (h : ∀ u : SymbolTable, c (u.around r) = d (u.around r')) : Makes c t r r'' names fs :=
  fun u hu => (h u).trans (hd u hu)

lemma Makes.andThen (hc : Makes c t r r' names fs) (hd : Makes d t r' r'' names' gs) :
    Makes (fun t => (c t).andThen d) t r r'' (names ++ names') (fs ++ gs) := by
  intro u hu
  simp only [Checked.andThen, hc u hu, hd _ (hu.trans (noteAll_extends u names)), noteAll_append]

/-- A check that changes no scope. -/
lemma Makes.still {find : SymbolTable → List Finding}
    (h : ∀ t u : SymbolTable, t.Extends [] u → find u = find t) (t : SymbolTable)
    (r : List Scope) : Makes (fun t => ⟨t, find t⟩) t r r [] (find (t.around r)) :=
  fun _ hu => congrArg (Checked.mk _) (h _ _ (hu.around r))

/-- Inside of some scopes, the check does the same whatever returns have been noted outside. -/
def Inward (c : SymbolTable → Checked) : Prop :=
  ∀ t r, r ≠ [] → ∃ r' names fs, r'.length = r.length ∧ Makes c t r r' names fs

namespace Inward

lemma still {find : SymbolTable → List Finding}
    (h : ∀ t u : SymbolTable, t.Extends [] u → find u = find t) :
    Inward fun t => ⟨t, find t⟩ :=
  fun t r _ => ⟨r, [], _, rfl, .still h t r⟩

lemma expr (e : Expr) : Inward (expr e) := still fun _ _ h => e.findings_settled h

lemma andThen (hc : Inward c) (hd : Inward d) : Inward fun t => (c t).andThen d := by
  intro t r hr
  obtain ⟨r', names, fs, hlen, hc⟩ := hc t r hr
  have hr' : r' ≠ [] := by
    rintro rfl
    exact hr (List.eq_nil_of_length_eq_zero hlen.symm)
  obtain ⟨r'', names', gs, hlen', hd⟩ := hd t r' hr'
  exact ⟨r'', _, _, hlen'.trans hlen, hc.andThen hd⟩

/-- A scope that is opened for a check and given up leaves nothing. -/
lemma inScope_makes (hc : Inward c) (label : ScopeLabel) (t : SymbolTable) (r : List Scope) :
    ∃ r' names fs, r'.length = r.length ∧ Makes (inScope label c) t r r' names fs := by
  obtain ⟨r', names, fs, hlen, hc⟩ := hc t (.opened label :: r) (List.cons_ne_nil _ _)
  obtain ⟨s, r', rfl⟩ := List.exists_cons_of_length_eq_add_one hlen
  refine ⟨r', names, fs, Nat.succ.inj hlen, fun u hu => ?_⟩
  simp only [inScope, push_around, hc u hu, pop_around]

lemma inScope (hc : Inward c) (label : ScopeLabel) : Inward (inScope label c) :=
  fun t r _ => hc.inScope_makes label t r

lemma declare (name : String) (a : Symbol) (line : Nat) : Inward (declare name a line) := by
  intro t r hr
  obtain ⟨s, r, rfl⟩ := List.exists_cons_of_ne_nil hr
  by_cases hshadows : t.shadowsFunction name a
  · refine ⟨s :: r, [], [⟨.functionNameShadowed name, line⟩], rfl, fun u hu => ?_⟩
    simp only [Check.declare, declare_around, hu.shadowsFunction_eq, hshadows, if_true]
    rfl
  · by_cases hbound : s.contains name
    · refine ⟨s :: r, [], [⟨.duplicateDeclaration name, line⟩], rfl, fun u hu => ?_⟩
      simp only [Check.declare, declare_around, hu.shadowsFunction_eq, hshadows, hbound, if_true]
      rfl
    · refine ⟨s.insert name a :: r, [], [], rfl, fun u hu => ?_⟩
      simp only [Check.declare, declare_around, hu.shadowsFunction_eq, hshadows, hbound]
      rfl

lemma inits (type : Ty) (is : List Init) : Inward (inits type is) := by
  induction is with
  | nil => exact still fun _ _ _ => rfl
  | cons i is ih =>
    refine andThen (still fun _ _ h => ?_) ((declare i.name (.var type) i.line).andThen ih)
    rw [i.value.findings_settled h, i.value.type_settled h]

lemma params (ps : List Param) : Inward (params ps) := by
  induction ps with
  | nil => exact still fun _ _ _ => rfl
  | cons p ps ih => exact (declare p.name (.var p.type) p.line).andThen ih

lemma jump (problem : Problem) (line : Nat) : Inward (jump problem line) :=
  still fun _ _ h => by rw [h.inLoop_eq]

/-- A return is noted at a function inside, or else outside. -/
lemma ret (value : Expr) (line : Nat) : Inward fun t => ret (value.type t) line t := by
  intro t r _
  have hfind {u : SymbolTable} (hu : t.Extends [] u) := ret_settled (hu.around r) value line
  cases hf : (t.around r).enclosingFunction? with
  | none =>
    refine ⟨r, [], _, rfl, fun u hu => Checked.ext ?_ (hfind hu)⟩
    simp only [ret_symbols, (hu.around r).enclosingFunction?_eq, hf]
    rfl
  | some f =>
    by_cases hin : r.any fun s => (s.signature? f).isSome
    · refine ⟨markFirst f r, [], _, length_markFirst f r, fun u hu => Checked.ext ?_ (hfind hu)⟩
      simp only [ret_symbols, (hu.around r).enclosingFunction?_eq, hf, markReturned_around, hin]
      rfl
    · refine ⟨r, [f], _, rfl, fun u hu => Checked.ext ?_ (hfind hu)⟩
      simp only [ret_symbols, (hu.around r).enclosingFunction?_eq, hf, markReturned_around, hin]
      rfl

/-- A function whose name is in the innermost scope is looked up there. -/
lemma missingReturn_makes {h : FnHeader} {s : Scope} (hs : (s.signature? h.name).isSome)
    (t : SymbolTable) (r : List Scope) : Makes (missingReturn h) t (s :: r) (s :: r) []
      (missingReturn h (t.around (s :: r))).findings := by
  have hlook (u : SymbolTable) : (u.around (s :: r)).signature? h.name = s.signature? h.name :=
    List.findSome?_cons_of_isSome hs
  refine fun u _ => Checked.ext (missingReturn_symbols h _) ?_
  obtain ⟨g, hg⟩ := Option.isSome_iff_exists.1 hs
  simp only [missingReturn, hlook, hg]

lemma fn (h : FnHeader) {body : List Stmt} (hbody : Inward (stmts body)) :
    Inward (stmt (.fn h body)) := by
  intro t r hr
  obtain ⟨s, r, rfl⟩ := List.exists_cons_of_ne_nil hr
  by_cases hbound : s.contains h.name
  · refine ⟨s :: r, [], [⟨.duplicateDeclaration h.name, h.line⟩], rfl, fun u _ => ?_⟩
    simp only [stmt, declare_around, shadowsFunction, hbound, Bool.false_eq_true, if_true, if_false]
    rfl
  · have hdeclare (u : SymbolTable) : (u.around (s :: r)).declare h.name (.fn (signatureOf h)) =
        .ok (u.around (s.insert h.name (.fn (signatureOf h)) :: r)) := by
      simp only [declare_around, shadowsFunction, hbound, Bool.false_eq_true, if_false]
    obtain ⟨r', names, fs, hlen, hmakes⟩ := ((params h.params).andThen hbody).inScope_makes
      (.function h.name) t (s.insert h.name (.fn (signatureOf h)) :: r)
    obtain ⟨s', r', rfl⟩ := List.exists_cons_of_length_eq_add_one hlen
    have hin : (s'.signature? h.name).isSome := by
      have hsymbols : (stmt (.fn h body) (t.around (s :: r))).symbols =
          (t.noteAll names).around (s' :: r') := by
        simp only [stmt, hdeclare]
        rw [Checked.andThen, missingReturn_symbols, hmakes t (.refl [] t)]
      have hext := (fn_extends body (hdeclare t)).current
      rw [hsymbols] at hext
      obtain ⟨b, hb, hab⟩ := hext.keep h.name _ (Bindings.get?_insert_self _ _ _)
      obtain ⟨g, rfl, -⟩ := hab.fn_left
      exact Option.isSome_of_eq_some (Scope.signature?_eq_some.2 hb)
    refine ⟨s' :: r', _, _, hlen, (hmakes.andThen (missingReturn_makes hin t r')).of_eq fun u => ?_⟩
    simp only [stmt, hdeclare]

end Inward

mutual

/-- **Inside of a scope, a statement does the same whatever returns have been noted outside.** -/
theorem stmt_inward (s : Stmt) : Inward (stmt s) := by
  match s with
  | .decl type is _ => exact .inits type is
  | .assign name value line =>
    refine .still fun t u h => ?_
    rw [value.findings_settled h, assignFindings_settled h]
  | .cond test yes none _ => exact (Inward.expr test).andThen (stmt_inward yes)
  | .cond test yes (some no) _ =>
    exact ((Inward.expr test).andThen (stmt_inward yes)).andThen (stmt_inward no)
  | .loop test body _ => exact (Inward.expr test).andThen ((stmt_inward body).inScope .loop)
  | .repeatUntil body test _ =>
    exact ((stmts_inward body).inScope .loop).andThen (Inward.expr test)
  | .fn h body => exact .fn h (stmts_inward body)
  | .block body _ => exact (stmts_inward body).inScope .block
  | .ret value line => exact (Inward.expr value).andThen (.ret value line)
  | .brk line => exact .jump .breakOutsideLoop line
  | .cont line => exact .jump .continueOutsideLoop line
  | .print value _ => exact .expr value
  | .labeled _ body _ => exact stmt_inward body
  | .expr value _ => exact .expr value

theorem stmts_inward (ss : List Stmt) : Inward (stmts ss) := by
  match ss with
  | [] => exact .still fun _ _ _ => rfl
  | s :: rest => exact (stmt_inward s).andThen (stmts_inward rest)

end

end Check

end Imperative
