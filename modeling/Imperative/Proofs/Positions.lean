import Imperative.Proofs.Rendering.Check
import Imperative.Proofs.Rendering.Run

/-!
Positions and labels have no part in what a program means.

Programs that are the same but for these are found to have the same problems. They both run on for
ever, or end alike.
-/

namespace Imperative

open Filter

variable {o o' o'' : Outcome Unit} {p q : Program}

namespace Outcome

/-- The same end and the same output. Normal ends leave the same global variables and names of
functions, and failures come with the same fault. -/
inductive EndsLike : Outcome Unit → Outcome Unit → Prop
  | done {m m' : Machine} : m'.sink = m.sink → m'.memory.base = m.memory.base →
    m'.functions.names = m.functions.names → EndsLike (.done () m) (.done () m')
  | failed {e e' : RuntimeError} {m m' : Machine} : m'.sink = m.sink → e'.fault = e.fault →
    EndsLike (.failed e m) (.failed e' m')

lemma EndsLike.symm (h : o.EndsLike o') : o'.EndsLike o := by
  cases h with
  | done hs hb hn => exact .done hs.symm hb.symm hn.symm
  | failed hs hf => exact .failed hs.symm hf.symm

lemma EndsLike.trans (h : o.EndsLike o') (h' : o'.EndsLike o'') : o.EndsLike o'' := by
  cases h with
  | done hs hb hn =>
    cases h' with
    | done hs' hb' hn' => exact .done (hs'.trans hs) (hb'.trans hb) (hn'.trans hn)
  | failed hs hf =>
    cases h' with
    | failed hs' hf' => exact .failed (hs'.trans hs) (hf'.trans hf)

lemma EndsLike.ends (h : o.EndsLike o') : o ≠ .outOfFuel ∧ o' ≠ .outOfFuel := by
  cases h with
  | done | failed => exact ⟨by rintro ⟨⟩, by rintro ⟨⟩⟩

end Outcome

/-- Two runs, by the fuel they are given: neither ends, or both end alike with all but too little
fuel. -/
def EndAlike (run run' : Nat → Outcome Unit) : Prop :=
  (∀ n, run n = .outOfFuel ∧ run' n = .outOfFuel) ∨ ∃ k, ∀ n ≥ k, (run n).EndsLike (run' n)

namespace EndAlike

variable {run run' run'' : Nat → Outcome Unit}

lemma symm (h : EndAlike run run') : EndAlike run' run := by
  obtain h | ⟨k, h⟩ := h
  · exact .inl fun n => (h n).symm
  · exact .inr ⟨k, fun n hn => (h n hn).symm⟩

lemma trans (h : EndAlike run run') (h' : EndAlike run' run'') : EndAlike run run'' := by
  obtain h | ⟨k, h⟩ := h
  · obtain h' | ⟨k, h'⟩ := h'
    · exact .inl fun n => ⟨(h n).1, (h' n).2⟩
    · exact absurd (h k).2 (h' k le_rfl).ends.1
  · obtain h' | ⟨k', h'⟩ := h'
    · exact absurd (h' k).1 (h k le_rfl).ends.2
    · refine .inr ⟨max k k', fun n hn => ?_⟩
      exact (h n (le_of_max_le_left hn)).trans (h' n (le_of_max_le_right hn))

end EndAlike

/-- The same names, at any positions and with any labels. -/
def Rendering.loose : Rendering := ⟨id, Function.injective_id, true⟩

lemma Bindings.Rendered.names {fs fs' : Bindings FnDecl} (h : fs.Rendered .loose fs') :
    fs'.names = fs.names := by
  obtain ⟨es⟩ := fs
  obtain ⟨es'⟩ := fs'
  change List.Forall₂ _ es es' at h
  show es'.map Prod.fst = es.map Prod.fst
  induction h with
  | nil => rfl
  | cons he _ ih =>
    rw [List.map_cons, List.map_cons, ih, he.1]
    rfl

lemma Outcome.Rendered.endsLike (h : o.Rendered .loose o') (ho : o ≠ .outOfFuel) :
    o.EndsLike o' := by
  cases h with
  | done a hm =>
    refine .done hm.sink ?_ hm.functions.names
    rw [hm.memory]
    exact congrArg Memory.base (Memory.rename_id _)
  | failed he hm =>
    refine .failed hm.sink ?_
    rw [he.fault]
    exact Fault.rename_id _
  | outOfFuel => exact absurd rfl ho

namespace Program.Rendered

lemma problems (h : p.Rendered .loose q) (file file' : String) :
    (typeCheck q file').diagnostics.map Diagnostic.problem =
      (typeCheck p file).diagnostics.map Diagnostic.problem := by
  have hproblem (fs : List Finding) (file : String) :
      (fs.map fun f => Diagnostic.mk f.problem ⟨f.line, file⟩).map Diagnostic.problem =
        fs.map Finding.problem := by
    rw [List.map_map]
    rfl
  have hid : Problem.rename id = id := funext Problem.rename_id
  rw [typeCheck_eq, typeCheck_eq]
  dsimp only
  rw [hproblem, hproblem, Finding.problems_rendered h.check.findings]
  show List.map (Problem.rename id) _ = _
  rw [hid, List.map_id]

/-- A run that ends is followed by the other one, with enough fuel. -/
lemma eventually_endsLike (h : p.Rendered .loose q) {n : Nat} {file : String} {sink : Sink}
    (hn : interpret n p file sink ≠ .outOfFuel) (file' : String) :
    ∃ k, ∀ j ≥ k, (interpret n p file sink).EndsLike (interpret j q file' sink) := by
  obtain ⟨o', ho, hq⟩ := h.eventually_interpret rfl hn file'
  exact eventually_atTop.1 (hq.mono fun j hj => hj ▸ ho.endsLike hn)

lemma endAlike (h : p.Rendered .loose q) (h' : q.Rendered .loose p) (file file' : String)
    (sink : Sink) :
    EndAlike (fun n => interpret n p file sink) fun n => interpret n q file' sink := by
  by_cases hends : ∃ n, interpret n p file sink ≠ .outOfFuel
  · obtain ⟨n, hn⟩ := hends
    obtain ⟨k, hq⟩ := h.eventually_endsLike hn file'
    -- Followed back, the end is the one that the first program comes to with more fuel as well.
    have hk := hq k le_rfl
    obtain ⟨k', hp⟩ := h'.eventually_endsLike hk.ends.2 file
    refine .inr ⟨max k k', fun j hj => ?_⟩
    have hpj := hp j (le_of_max_le_right hj)
    have hqj := hq j (le_of_max_le_left hj)
    exact (hpj.symm.trans hk.symm).trans hqj
  · have hout (n : Nat) : interpret n p file sink = .outOfFuel :=
      Classical.not_not.1 fun hn => hends ⟨n, hn⟩
    refine .inl fun n => ⟨hout n, ?_⟩
    by_contra hn
    obtain ⟨k, hp⟩ := h'.eventually_endsLike hn file
    exact (hp k le_rfl).ends.2 (hout k)

end Program.Rendered

lemma Program.rendered_bare (p : Program) :
    p.Rendered .loose p.bare ∧ p.bare.Rendered .loose p := by
  have hpins {r r' : Spelling} (n : Nat) : Rendering.loose.Pins (r.line n) (r'.line n) :=
    fun h => by cases h
  have hto : Spelling.Allowed .loose .same .bare := ⟨fun _ => rfl, hpins, .inl rfl⟩
  have hfrom : Spelling.Allowed .loose .bare .same := ⟨fun _ => rfl, hpins, .inl rfl⟩
  have hstmts := And.intro (hto.stmts p) (hfrom.stmts p)
  rwa [Stmt.respellAll_same] at hstmts

/-- **Positions and labels are inert.** Of two programs that are the same without lines and labels,
the same is found wrong, and they run alike, be they valid or not. -/
theorem positions_are_inert (h : p.bare = q.bare) (file file' : String) :
    (typeCheck p file).diagnostics.map Diagnostic.problem =
        (typeCheck q file').diagnostics.map Diagnostic.problem ∧
      (typeCheck p file).isValid = (typeCheck q file').isValid ∧
      ∀ sink, EndAlike (fun n => interpret n p file sink) fun n => interpret n q file' sink := by
  obtain ⟨hp, hp'⟩ := p.rendered_bare
  obtain ⟨hq, hq'⟩ := q.rendered_bare
  rw [h] at hp hp'
  refine ⟨?_, ?_, fun sink => ?_⟩
  · rw [← hp.problems file "", ← hq.problems file' ""]
  · rw [← hp.isValid file "", ← hq.isValid file' ""]
  · exact (hp.endAlike hp' file "" sink).trans (hq.endAlike hq' file' "" sink).symm

/-- A function with a break in a loop and a fault behind it; the last name is not declared. -/
def dividing : Program :=
  [.fn ⟨"f", .int, [⟨"n", .int, 1⟩], 1, 1⟩
      [.loop (.var "n" 2) (.block [.print (.var "n" 3) 3, .brk 4] 2) 2,
        .ret (.bin .div (.var "n" 6) (.lit ⟨.int, "0", 6⟩) 6) 6],
    .decl .int [⟨"x", .lit ⟨.int, "1", 8⟩, 8⟩] 8,
    .print (.call "f" [.var "x" 9] 9) 9,
    .print (.var "y" 10) 10]

/-- The same on a single line, with labels. -/
def labeledDividing : Program :=
  [.labeled "define" (.fn ⟨"f", .int, [⟨"n", .int, 7⟩], 7, 7⟩
      [.labeled "outer" (.loop (.var "n" 7)
          (.labeled "round" (.labeled "body"
            (.block [.print (.var "n" 7) 7, .labeled "out" (.brk 7) 7] 7) 7) 7) 7) 7,
        .ret (.bin .div (.var "n" 7) (.lit ⟨.int, "0", 7⟩) 7) 7]) 7,
    .labeled "declare" (.decl .int [⟨"x", .lit ⟨.int, "1", 7⟩, 7⟩] 7) 7,
    .print (.call "f" [.var "x" 7] 7) 7,
    .print (.var "y" 7) 7]

theorem positions_are_inert_labeledDividing : dividing.bare = labeledDividing.bare ∧
    (typeCheck labeledDividing "g").diagnostics.map Diagnostic.problem =
      [.undeclaredName "y" true] ∧
    ∃ k, ∀ n ≥ k, (interpret n dividing "f" .unlimited).EndsLike
      (interpret n labeledDividing "g" .unlimited) := by
  have hbare : dividing.bare = labeledDividing.bare := rfl
  obtain ⟨hproblems, -, hruns⟩ := positions_are_inert hbare "f" "g"
  have hends : (interpret 20 dividing "f" .unlimited).fault? = some .divisionByZero := by
    decide +kernel
  refine ⟨hbare, hproblems ▸ by decide +kernel, ?_⟩
  obtain hnever | hlike := hruns .unlimited
  · have hout := (hnever 20).1
    dsimp only at hout
    rw [hout] at hends
    cases hends
  · exact hlike

end Imperative
