import Imperative.Proofs.Machine.Discipline

/-!
Runs that print to a limited sink.

A run does not read what it has printed. With a limited sink it therefore goes as with an unlimited
one, up to the first text that does not fit: of that the sink takes in what it can, and the run
stops.
-/

namespace Imperative

variable {α β : Type} {limit : Nat} {refusal : String}

namespace Sink

variable {s : Sink} {text : String}

/-- The sink with a text behind its bytes. -/
def append (s : Sink) (text : String) : Sink := { s with bytes := s.bytes ++ text.toUTF8 }

/-- Nothing limits the second sink, and it has taken in more than the first one. -/
def Onward (s s' : Sink) : Prop := s'.limit = none ∧ ∃ more, s'.bytes = s.bytes ++ more

lemma Onward.refl (h : s.limit = none) : s.Onward s := ⟨h, .empty, ByteArray.append_empty.symm⟩

lemma Onward.trans {s' s'' : Sink} (h : s.Onward s') (h' : s'.Onward s'') : s.Onward s'' := by
  obtain ⟨-, as, has⟩ := h
  obtain ⟨hlimit, bs, hbs⟩ := h'
  exact ⟨hlimit, as ++ bs, by rw [hbs, has, ByteArray.append_assoc]⟩

/-- What is taken in later does not count once the limit has been passed. -/
lemma Onward.extract {s' : Sink} (h : s.Onward s') (hs : limit < s.bytes.size) :
    limit < s'.bytes.size ∧ s'.bytes.extract 0 limit = s.bytes.extract 0 limit := by
  obtain ⟨-, more, hmore⟩ := h
  rw [hmore, ByteArray.size_append, ByteArray.extract_append,
    Nat.sub_eq_zero_of_le (Nat.le_of_lt hs), Nat.zero_sub, ByteArray.extract_same,
    ByteArray.append_empty]
  exact ⟨Nat.lt_add_right _ hs, rfl⟩

lemma append_onward (h : s.limit = none) : s.Onward (s.append text) := ⟨h, _, rfl⟩

lemma write_unlimited (h : s.limit = none) : s.write text = (s.append text, true) := by
  unfold write accepts append
  simp only [h, ByteArray.extract_zero_size, beq_self_eq_true]

lemma write_fits (h : (s.append text).bytes.size ≤ limit) :
    (s.bounded limit refusal).write text = ((s.append text).bounded limit refusal, true) := by
  have hsize : text.toUTF8.size ≤ limit - s.bytes.size := by
    unfold append at h
    rw [ByteArray.size_append] at h
    omega
  unfold write accepts append bounded
  simp only [Nat.min_eq_left hsize, ByteArray.extract_zero_size, beq_self_eq_true]

lemma write_overflows (hs : s.bytes.size ≤ limit) (h : limit < (s.append text).bytes.size) :
    (s.bounded limit refusal).write text =
      (⟨some limit, refusal, (s.append text).bytes.extract 0 limit⟩, false) := by
  have hsize : limit - s.bytes.size < text.toUTF8.size := by
    unfold append at h
    rw [ByteArray.size_append] at h
    omega
  have hold : s.bytes.extract 0 limit = s.bytes := by
    have hmax := ByteArray.extract_zero_max_size (a := s.bytes) (i := limit)
    rwa [Nat.max_eq_left hs] at hmax
  unfold write accepts append bounded
  simp only [Nat.min_eq_right (Nat.le_of_lt hsize), ByteArray.extract_append, hold, Nat.zero_sub,
    beq_false_of_ne (Nat.ne_of_lt hsize)]

end Sink

/-- The machine with its sink under a limit. -/
def Machine.bounded (m : Machine) (limit : Nat) (refusal : String) : Machine :=
  { m with sink := m.sink.bounded limit refusal }

namespace Outcome

/-- The same end, with the sink under a limit. -/
def bounded (limit : Nat) (refusal : String) : Outcome α → Outcome α
  | done a m => done a (m.bounded limit refusal)
  | failed e m => failed e (m.bounded limit refusal)
  | outOfFuel => outOfFuel

/-- A full sink has stopped the computation with what it said, and holds the first of the bytes. -/
def Overflows (limit : Nat) (refusal : String) (bytes : ByteArray) (o : Outcome α) : Prop :=
  ∃ e m, o = .failed e m ∧ e.fault = .output refusal ∧ m.sink.bytes = bytes.extract 0 limit

/-- What the computation comes to with an unlimited sink, and what under a limit: the same where
all that is printed fits, and else a stop at the limit. -/
def Cut (limit : Nat) (refusal : String) (o o' : Outcome α) : Prop :=
  ∀ m, o.machine? = some m →
    if m.sink.bytes.size ≤ limit then o' = o.bounded limit refusal
    else o'.Overflows limit refusal m.sink.bytes

variable {m : Machine} {o o' : Outcome α} {bytes : ByteArray}

lemma Cut.of_fits (h : ∀ m, o.machine? = some m → m.sink.bytes.size ≤ limit) :
    o.Cut limit refusal (o.bounded limit refusal) := by
  intro m hm
  rw [if_pos (h m hm)]

/-- A stop at the limit stays one, whatever the unlimited computation goes on to do. -/
lemma Cut.of_overflows {s : Sink} (hs : limit < s.bytes.size)
    (ho : o.Ends (fun _ m => s.Onward m.sink) fun _ m => s.Onward m.sink)
    (h : o'.Overflows limit refusal s.bytes) : o.Cut limit refusal o' := by
  intro m hm
  obtain ⟨hsize, hextract⟩ := (ho.machine (R := fun m => s.Onward m.sink) hm).extract hs
  obtain ⟨e, m', ho', hfault, hbytes⟩ := h
  rw [if_neg (Nat.not_le_of_lt hsize)]
  exact ⟨e, m', ho', hfault, hbytes.trans hextract.symm⟩

lemma Overflows.bind {c : Exec α} (h : (c.run m).Overflows limit refusal bytes)
    (next : α → Exec β) : ((c >>= next).run m).Overflows limit refusal bytes := by
  obtain ⟨e, m', hr, h⟩ := h
  exact ⟨e, m', by rw [Exec.run_bind, hr], h⟩

lemma Overflows.leave (h : o.Overflows limit refusal bytes) :
    o.leave.Overflows limit refusal bytes := by
  obtain ⟨e, m, rfl, h⟩ := h
  exact ⟨e, m.leave, rfl, h⟩

lemma Cut.leave (h : o.Cut limit refusal o') : o.leave.Cut limit refusal o'.leave := by
  cases o with
  | outOfFuel => rintro _ ⟨⟩
  | done a m | failed e m =>
    have hend := h m rfl
    rintro _ ⟨⟩
    show if m.sink.bytes.size ≤ limit then _ else Overflows limit refusal m.sink.bytes _
    split at hend
    · next hfits => rw [if_pos hfits, hend]; rfl
    · next hover => rw [if_neg hover]; exact hend.leave

end Outcome

namespace Exec

/-- The computation only adds to what has been printed, and under a limit it is cut. -/
structure Prints (c : Exec α) : Prop where
  onward : ∀ m, m.sink.limit = none →
    (c.run m).Ends (fun _ m' => m.sink.Onward m'.sink) fun _ m' => m.sink.Onward m'.sink
  cut : ∀ m limit refusal, m.sink.limit = none → m.sink.bytes.size ≤ limit →
    (c.run m).Cut limit refusal (c.run (m.bounded limit refusal))

namespace Prints

/-- A computation that has nothing to do with the sink. -/
lemma silent {c : Exec α}
    (hs : ∀ m, (c.run m).Ends (fun _ m' => m'.sink = m.sink) fun _ m' => m'.sink = m.sink)
    (hb : ∀ m limit refusal, c.run (m.bounded limit refusal) = (c.run m).bounded limit refusal) :
    c.Prints := by
  refine ⟨fun m hm => ?_, fun m limit refusal hm hsize => ?_⟩
  · have onward (m' : Machine) (h : m'.sink = m.sink) : m.sink.Onward m'.sink := by
      rw [h]
      exact .refl hm
    exact (hs m).mono (fun _ => onward) fun _ => onward
  · rw [hb]
    refine .of_fits fun m' hm' => ?_
    rwa [(hs m).machine (R := fun m' => m'.sink = m.sink) hm']

lemma pure (a : α) : (Pure.pure a : Exec α).Prints := silent (fun _ => rfl) fun _ _ _ => rfl

lemma outOfFuel : (Exec.outOfFuel : Exec α).Prints := silent (fun _ => trivial) fun _ _ _ => rfl

lemma raise (fault : Fault) (line : Nat) : (Exec.raise fault line : Exec α).Prints :=
  silent (fun _ => rfl) fun _ _ _ => rfl

lemma find {o : Machine → Option α} (h : ∀ m limit refusal, o (m.bounded limit refusal) = o m)
    (fault : Fault) (line : Nat) : (Exec.find o fault line).Prints := by
  refine silent (fun m => ?_) fun m limit refusal => ?_
  · rw [run_find]
    cases o m <;> rfl
  · rw [run_find, run_find, h]
    cases o m <;> rfl

lemma bind {c : Exec α} {next : α → Exec β} (hc : c.Prints) (hn : ∀ a, (next a).Prints) :
    (c >>= next).Prints := by
  refine ⟨fun m hm => ?_, fun m limit refusal hm hs => ?_⟩
  · exact (hc.onward m hm).bind fun a m' h =>
      ((hn a).onward m' h.1).mono (fun _ _ => h.trans) fun _ _ => h.trans
  have honward := hc.onward m hm
  have hcut := hc.cut m limit refusal hm hs
  cases hr : c.run m with
  | outOfFuel =>
    rw [run_bind, hr]
    intro m' hm'
    cases hm'
  | failed e m' =>
    have hend := hcut m' (by rw [hr]; rfl)
    rw [run_bind c next m, hr]
    rintro _ ⟨⟩
    split at hend
    · next hfits => rw [if_pos hfits, run_bind, hend, hr]; rfl
    · next hover => rw [if_neg hover]; exact hend.bind next
  | done a m' =>
    have hend := hcut m' (by rw [hr]; rfl)
    have hon : m.sink.Onward m'.sink := honward.done hr
    rw [run_bind c next m, hr]
    split at hend
    · next hfits =>
      rw [run_bind, hend, hr]
      exact (hn a).cut m' limit refusal hon.1 hfits
    · next hover =>
      -- The limited computation has been stopped: only the unlimited one goes on.
      exact .of_overflows (Nat.lt_of_not_le hover) ((hn a).onward m' hon.1) (hend.bind next)

lemma inFrame {f : Frame} {c : Exec α} (hc : c.Prints) : (Exec.inFrame f c).Prints := by
  refine ⟨fun m hm => .inFrame (hc.onward (m.enter f) hm), fun m limit refusal hm hs => ?_⟩
  have hcut := hc.cut (m.enter f) limit refusal hm hs
  rw [run_inFrame, run_inFrame]
  exact hcut.leave

lemma print (text : String) (line : Nat) : (Exec.print text line).Prints := by
  refine ⟨fun m hm => ?_, fun m limit refusal hm hs => ?_⟩
  · rw [run_print (Sink.write_unlimited hm)]
    exact Sink.append_onward hm
  · rw [run_print (Sink.write_unlimited hm)]
    rintro _ ⟨⟩
    split
    · next hfits =>
      have hwrite := run_print (m := m.bounded limit refusal) (Sink.write_fits hfits) line
      rw [hwrite]
      rfl
    · next hover =>
      have hwrite := run_print (m := m.bounded limit refusal)
        (Sink.write_overflows hs (Nat.lt_of_not_le hover)) line
      rw [hwrite]
      exact ⟨_, _, rfl, rfl, rfl⟩

end Prints

end Exec

/-- The discipline of printing. -/
def printing : Discipline where
  Keeps _ _ c := c.Prints
  mono_nothing h := h
  mono_values h := h
  pure := .pure
  bind := .bind
  outOfFuel := .outOfFuel
  raise := .raise
  read _ := .find (fun _ _ _ => rfl) _
  callee _ := .find (fun _ _ _ => rfl) _
  call _ _ _ h := h.inFrame
  scope _ _ h := h.inFrame
  declare _ _ := .silent (fun _ => rfl) fun _ _ _ => rfl
  store _ _ := .silent (fun _ => rfl) fun _ _ _ => rfl
  define _ _ := .silent (fun _ => rfl) fun _ _ _ => rfl
  print := .print

/-- **A limited sink only cuts a run off.** Where all that a run prints to an unlimited sink fits,
the run with the limited one ends alike. Else it ends with an output fault that tells what the sink
said, and the sink holds what fits. -/
theorem limited_sinks_cut (n : Nat) (p : Program) (file : String) (limit : Nat) (refusal : String)
    {m : Machine} (h : (interpret n p file .unlimited).machine? = some m) :
    if m.sink.bytes.size ≤ limit then
      interpret n p file (Sink.unlimited.bounded limit refusal) =
        (interpret n p file .unlimited).bounded limit refusal
    else
      (interpret n p file (Sink.unlimited.bounded limit refusal)).Overflows limit refusal
        m.sink.bytes :=
  (printing.program n p).cut (.initial file .unlimited) limit refusal rfl (Nat.zero_le _) m h

/-- A function that prints in a loop and then fails. -/
def counting : Program :=
  [.fn ⟨"count", .int, [⟨"n", .int, 1⟩], 1, 1⟩
      [.loop (.var "n" 2)
        (.block [.print (.var "n" 3) 3,
          .assign "n" (.bin .sub (.var "n" 4) (.lit ⟨.int, "1", 4⟩) 4) 4] 2) 2,
       .ret (.bin .div (.lit ⟨.int, "1", 6⟩) (.var "n" 6) 6) 6],
    .print (.call "count" [.lit ⟨.int, "3", 8⟩] 8) 8]

theorem limited_sinks_cut_counting :
    ∃ m, (interpret 30 counting "f" .unlimited).machine? = some m ∧
      (interpret 30 counting "f" .unlimited).fault? = some .divisionByZero ∧
      m.sink.bytes.size = 6 ∧
      (interpret 30 counting "f" (.limited 3)).Overflows 3 "sink full" m.sink.bytes ∧
      interpret 30 counting "f" (.limited 6) =
        (interpret 30 counting "f" .unlimited).bounded 6 "sink full" := by
  have hfault : (interpret 30 counting "f" .unlimited).fault? = some .divisionByZero := by
    decide +kernel
  have hsize : ((interpret 30 counting "f" .unlimited).machine?.map fun m => m.sink.bytes.size) =
      some 6 := by
    decide +kernel
  obtain ⟨m, hm, hbytes⟩ := Option.map_eq_some_iff.1 hsize
  have hover := limited_sinks_cut 30 counting "f" 3 "sink full" hm
  have hfits := limited_sinks_cut 30 counting "f" 6 "sink full" hm
  rw [hbytes, if_neg (by decide)] at hover
  rw [hbytes, if_pos (by decide)] at hfits
  exact ⟨m, hm, hfault, hbytes, hover, hfits⟩

end Imperative
