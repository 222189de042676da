import Imperative.Proofs.Memory.Confinement

/-!
Laws of reading and writing names, after any history of operations.

There is one frame that a name resolves to. Reading and writing are about that frame, and a write is
seen by reading that name, and by reading no other one.
-/

namespace Imperative

variable {f : Frame} {x y : String} {v : Value}

namespace Frame

lemma get?_eq_none (hf : ¬f.contains x = true) : f.get? x = none := by
  rw [contains_eq] at hf
  simpa using hf

lemma get?_declare_self (f : Frame) (x : String) (v : Value) : (f.declare x v).get? x = some v := by
  simp [get?_declare]

lemma get?_declare_of_ne (f : Frame) (v : Value) (h : y ≠ x) :
    (f.declare x v).get? y = f.get? y := by
  simp [get?_declare, h.symm]

end Frame

namespace Memory

variable {m m' : Memory} {i : Nat}

/-- A property of memories is shown frame by frame. -/
@[elab_as_elim]
lemma frameInduction {P : Memory → Prop} (bottom : ∀ base, P ⟨[], base⟩)
    (push : ∀ f m, P m → P (Memory.push m f)) (m : Memory) : P m := by
  obtain ⟨fs, base⟩ := m
  induction fs with
  | nil => exact bottom base
  | cons f fs ih => exact push f _ ih

/-- What is about a name is shown in the order in which the frames are searched for it. -/
@[elab_as_elim]
lemma searchInduction {P : Memory → Prop} (x : String) (bottom : ∀ base, P ⟨[], base⟩)
    (here : ∀ f m, Frame.contains f x = true → P (push m f))
    (call : ∀ f m, ¬Frame.contains f x = true → f.kind = .call → P (push m f))
    (through : ∀ f m, ¬Frame.contains f x = true → ¬f.kind = .call → P m → P (push m f))
    (m : Memory) : P m := by
  induction m using frameInduction with
  | bottom base => exact bottom base
  | push f m ih =>
    by_cases hf : f.contains x = true
    · exact here f m hf
    · by_cases hk : f.kind = .call
      · exact call f m hf hk
      · exact through f m hf hk ih

@[simp] lemma base_push (m : Memory) (f : Frame) : (m.push f).base = m.base := rfl

@[simp] lemma inner_push (m : Memory) (f : Frame) : (m.push f).inner = f :: m.inner := rfl

/-! ### The frame that a name resolves to -/

/-- The frames from the innermost one to that of the innermost call, or all frames. -/
def upToCall : List Frame → List Frame
  | [] => []
  | f :: rest => f :: if f.kind = .call then [] else upToCall rest

lemma locate_push (m : Memory) (f : Frame) (x : String) : (m.push f).locate x =
    if f.contains x then some 0
    else if f.kind = .call then (if m.base.contains x then some (m.inner.length + 1) else none)
    else (m.locate x).map (· + 1) := rfl

lemma lookup_push_of_none (m : Memory) (hf : ¬f.contains x = true) :
    (m.push f).lookup x = if f.kind = .call then m.base.get? x else m.lookup x := by
  rw [lookup_push, Frame.get?_eq_none hf]

/-- **A name resolves to the topmost frame at hand that has it**, and if there is none, to the
global one. -/
theorem locate_eq (m : Memory) (x : String) : m.locate x =
    ((upToCall m.frames).findIdx? (·.contains x)).or
      (if m.base.contains x then some m.inner.length else none) := by
  induction m using searchInduction x with
  | bottom base =>
    by_cases hb : base.contains x <;> simp [locate, locateFrom, frames, upToCall, hb]
  | here f m hf =>
    rw [locate_push, if_pos hf, frames_push, upToCall, List.findIdx?_cons, if_pos hf]
    rfl
  | call f m hf hk =>
    rw [locate_push, if_neg hf, if_pos hk, frames_push, upToCall, List.findIdx?_cons, if_neg hf,
      if_pos hk]
    rfl
  | through f m hf hk ih =>
    rw [locate_push, if_neg hf, if_neg hk, frames_push, upToCall, List.findIdx?_cons, if_neg hf,
      if_neg hk, ih, Option.map_or]
    by_cases hb : m.base.contains x <;> simp [hb]

/-- **What is read is what that frame has.** -/
theorem lookup_eq (m : Memory) (x : String) : m.lookup x =
    ((upToCall m.frames).findSome? (·.get? x)).or (m.base.get? x) := by
  induction m using searchInduction x with
  | bottom base =>
    cases hb : base.get? x <;> simp [lookup, lookupFrom, frames, upToCall, hb]
  | here f m hf =>
    obtain ⟨v, hv⟩ := Option.isSome_iff_exists.1 hf
    change f.get? x = some v at hv
    simp [lookup_push, upToCall, hv]
  | call f m hf hk =>
    simp [lookup_push_of_none m hf, upToCall, Frame.get?_eq_none hf, hk]
  | through f m hf hk ih =>
    simp [lookup_push_of_none m hf, upToCall, Frame.get?_eq_none hf, hk, ih]

/-- A name that resolves to a frame is bound there, and no other name is bound. -/
lemma locate_spec (m : Memory) (x : String) :
    (∃ i f old, m.locate x = some i ∧ m.frames[i]? = some f ∧ f.get? x = some old ∧
      m.lookup x = some old) ∨ m.locate x = none ∧ m.lookup x = none := by
  -- The global frame is the last resort of a search from the bottom and of one from a call.
  have global (base : Frame) (n : Nat) :
      (∃ old, (if base.contains x then some n else none) = some n ∧ base.get? x = some old) ∨
        (if base.contains x then some n else none) = none ∧ base.get? x = none := by
    rw [Frame.contains_eq]
    cases base.get? x with
    | some old => exact .inl ⟨old, rfl, rfl⟩
    | none => exact .inr ⟨rfl, rfl⟩
  induction m using searchInduction x with
  | bottom base =>
    rcases global base 0 with ⟨old, hi, hold⟩ | hnone
    · exact .inl ⟨0, base, old, hi, rfl, hold, hold⟩
    · exact .inr hnone
  | here f m hf =>
    obtain ⟨old, hold⟩ := Option.isSome_iff_exists.1 hf
    change f.get? x = some old at hold
    exact .inl ⟨0, f, old, if_pos hf, rfl, hold, by rw [lookup_push, hold]⟩
  | call f m hf hk =>
    rw [locate_push, if_neg hf, if_pos hk, lookup_push_of_none m hf, if_pos hk]
    rcases global m.base (m.inner.length + 1) with ⟨old, hi, hold⟩ | hnone
    · exact .inl ⟨_, m.base, old, hi, by simp [frames], hold, hold⟩
    · exact .inr hnone
  | through f m hf hk ih =>
    rw [locate_push, if_neg hf, if_neg hk, lookup_push_of_none m hf, if_neg hk]
    rcases ih with ⟨i, g, old, hi, hg, hold, hl⟩ | ⟨hi, hl⟩
    · exact .inl ⟨i + 1, g, old, by rw [hi]; rfl, hg, hold, hl⟩
    · exact .inr ⟨by rw [hi]; rfl, hl⟩

lemma locate_some (h : m.locate x = some i) :
    ∃ f old, m.frames[i]? = some f ∧ f.get? x = some old ∧ m.lookup x = some old := by
  rcases m.locate_spec x with ⟨j, f, old, hj, hspec⟩ | ⟨hnone, -⟩
  · obtain rfl : j = i := Option.some.inj (hj.symm.trans h)
    exact ⟨f, old, hspec⟩
  · cases hnone.symm.trans h

lemma locate_lt (h : m.locate x = some i) : i < m.depth := by
  obtain ⟨f, -, hf, -⟩ := locate_some h
  obtain ⟨hlt, -⟩ := List.getElem?_eq_some_iff.1 hf
  simpa [frames, depth] using hlt

lemma locate_eq_none : m.locate x = none ↔ m.lookup x = none := by
  rcases m.locate_spec x with ⟨i, f, old, hi, -, -, hl⟩ | ⟨hi, hl⟩
  · simp [hi, hl]
  · simp [hi, hl]

/-! ### Writing -/

@[simp] lemma frames_declareAt (m : Memory) (i : Nat) (x : String) (v : Value) :
    (m.declareAt i x v).frames = m.frames.modify i fun f => f.declare x v := by
  induction m using frameInduction generalizing i with
  | bottom base =>
    cases i with
    | zero => rfl
    | succ i => simp [frames, declareAt]
  | push f m ih =>
    cases i with
    | zero => rfl
    | succ i =>
      rw [frames_push, List.modify_succ_cons, ← ih]
      simp [frames, declareAt]

lemma declareAt_push (m : Memory) (f : Frame) (i : Nat) (x : String) (v : Value) :
    (m.push f).declareAt (i + 1) x v = (m.declareAt i x v).push f := by
  simp [declareAt, push]

lemma declare_eq (m : Memory) (x : String) (v : Value) : m.declare x v = m.declareAt 0 x v := by
  rcases m with ⟨_ | ⟨f, fs⟩, base⟩ <;> rfl

lemma declareGlobal_eq (m : Memory) (x : String) (v : Value) :
    m.declareGlobal x v = m.declareAt m.inner.length x v := by
  simp [declareGlobal, declareAt, List.modify_eq_self]

lemma assign?_push (m : Memory) (f : Frame) (x : String) (v : Value) : (m.push f).assign? x v =
    if f.contains x then some (m.push (f.declare x v))
    else if f.kind = .call then
      (if m.base.contains x then some ((m.declareGlobal x v).push f) else none)
    else (m.assign? x v).map (·.push f) := by
  simp only [assign?, inner_push, base_push, writeInner]
  by_cases hf : f.contains x = true
  · simp [hf, push]
  · by_cases hk : f.kind = .call
    · simp only [if_neg hf, if_pos hk]
      rfl
    · simp only [if_neg hf, if_neg hk]
      cases writeInner x v m.inner with
      | some inner => rfl
      | none => by_cases hb : m.base.contains x = true <;> simp [hb, declareGlobal, push]

/-- **An assignment is a write to the frame that the name resolves to.** -/
theorem assign?_eq (m : Memory) (x : String) (v : Value) :
    m.assign? x v = (m.locate x).map fun i => m.declareAt i x v := by
  induction m using searchInduction x with
  | bottom base =>
    simp only [assign?, writeInner, locate, locateFrom]
    split <;> rfl
  | here f m hf =>
    rw [assign?_push, locate_push, if_pos hf, if_pos hf]
    rfl
  | call f m hf hk =>
    rw [assign?_push, locate_push, if_neg hf, if_pos hk, if_neg hf, if_pos hk, declareGlobal_eq,
      ← declareAt_push]
    split <;> rfl
  | through f m hf hk ih =>
    rw [assign?_push, locate_push, if_neg hf, if_neg hk, if_neg hf, if_neg hk, ih, Option.map_map,
      Option.map_map]
    congr 1
    funext i
    exact (declareAt_push m f i x v).symm

/-- An assignment is refused if there is nothing to be read, and only then. -/
lemma assign?_eq_none : m.assign? x v = none ↔ m.lookup x = none := by
  rw [assign?_eq, Option.map_eq_none_iff, locate_eq_none]

/-- **A write is not seen by other names.** -/
theorem lookup_declareAt_of_ne (m : Memory) (i : Nat) (v : Value) (h : y ≠ x) :
    (m.declareAt i x v).lookup y = m.lookup y := by
  have base_get? (m : Memory) (i : Nat) : (m.declareAt i x v).base.get? y = m.base.get? y := by
    unfold declareAt
    dsimp only
    split
    · exact m.base.get?_declare_of_ne v h
    · rfl
  induction m using frameInduction generalizing i with
  | bottom base =>
    have hinner : (declareAt ⟨[], base⟩ i x v).inner = [] := List.modify_nil _ i
    unfold lookup
    rw [hinner]
    exact base_get? ⟨[], base⟩ i
  | push f m ih =>
    cases i with
    | zero =>
      show (m.push (f.declare x v)).lookup y = _
      rw [lookup_push, lookup_push, f.get?_declare_of_ne v h]
      rfl
    | succ i => rw [declareAt_push, lookup_push, lookup_push, base_get?, ih]

/-- **A write is seen by its name**, if it is to the frame that the name resolves to, or to the
global one of a name that does not. -/
theorem lookup_declareAt (m : Memory) (x : String) (v : Value) :
    (m.declareAt ((m.locate x).getD m.inner.length) x v).lookup x = some v := by
  have global (c : Prop) [Decidable c] (n : Nat) : (if c then some n else none).getD n = n := by
    split <;> rfl
  induction m using searchInduction x with
  | bottom base =>
    show (declareAt _ ((if base.contains x then some 0 else none).getD 0) x v).lookup x = _
    rw [global]
    exact base.get?_declare_self x v
  | here f m hf =>
    rw [locate_push, if_pos hf]
    show (m.push (f.declare x v)).lookup x = _
    rw [lookup_push, Frame.get?_declare_self]
  | call f m hf hk =>
    rw [locate_push, if_neg hf, if_pos hk, inner_push, List.length_cons, global, declareAt_push,
      ← declareGlobal_eq, lookup_push_of_none _ hf, if_pos hk]
    exact m.base.get?_declare_self x v
  | through f m hf hk ih =>
    have hrest : ((m.locate x).map (· + 1)).getD (m.inner.length + 1) =
        (m.locate x).getD m.inner.length + 1 := by cases m.locate x <;> rfl
    rw [locate_push, if_neg hf, if_neg hk, inner_push, List.length_cons, hrest, declareAt_push,
      lookup_push_of_none _ hf, if_neg hk, ih]

lemma assignOrDeclareGlobal_eq (m : Memory) (x : String) (v : Value) :
    m.assignOrDeclareGlobal x v = m.declareAt ((m.locate x).getD m.inner.length) x v := by
  unfold assignOrDeclareGlobal
  rw [assign?_eq]
  cases m.locate x with
  | some i => rfl
  | none => exact m.declareGlobal_eq x v

/-- The slot of a name is in the frame that the name resolves to. -/
lemma slot?_eq (m : Memory) (x : String) :
    m.slot? x = (m.lookup x).bind fun old => (m.locate x).map fun i => ⟨old, m.declareAt i x⟩ := by
  rcases m.locate_spec x with ⟨i, f, old, hi, hf, hold, hl⟩ | ⟨hi, hl⟩
  · simp [slot?, hi, hf, hold, hl]
  · simp [slot?, hi, hl]

lemma slot?_value (m : Memory) (x : String) : (m.slot? x).map Slot.value = m.lookup x := by
  rw [slot?_eq]
  rcases m.locate_spec x with ⟨i, f, old, hi, -, -, hl⟩ | ⟨hi, hl⟩
  · simp [hi, hl]
  · simp [hi, hl]

lemma slot?_put (m : Memory) (x : String) (v : Value) :
    (m.slot? x).map (fun s => s.put v) = m.assign? x v := by
  rw [slot?_eq, assign?_eq]
  rcases m.locate_spec x with ⟨i, f, old, hi, -, -, hl⟩ | ⟨hi, hl⟩
  · simp [hi, hl]
  · simp [hi, hl]

/-! ### Histories -/

/-- What is done to a memory. -/
inductive Op
  | push (f : Frame)
  | pop
  | declare (name : String) (v : Value)
  | declareGlobal (name : String) (v : Value)
  | assign (name : String) (v : Value)
  | assignOrDeclareGlobal (name : String) (v : Value)
  /-- A write to the slot of a name. -/
  | put (name : String) (v : Value)

/-- The memory after an operation. There is nothing to be written for a name that is not bound. -/
def after (m : Memory) : Op → Memory
  | .push f => m.push f
  | .pop => m.pop
  | .declare name v => m.declare name v
  | .declareGlobal name v => m.declareGlobal name v
  | .assign name v => (m.assign? name v).getD m
  | .assignOrDeclareGlobal name v => m.assignOrDeclareGlobal name v
  | .put name v => ((m.slot? name).map fun s => s.put v).getD m

def run (m : Memory) (ops : List Op) : Memory := ops.foldl after m

/-- One of the frames has got a value for a name, and what other names stand for is as before. -/
structure Puts (i : Nat) (x : String) (v : Value) (m m' : Memory) : Prop where
  within : i < m.depth
  frames : m'.frames = m.frames.modify i fun f => f.declare x v
  others : ∀ y, y ≠ x → m'.lookup y = m.lookup y

lemma Puts.declareAt (h : i < m.depth) (x : String) (v : Value) :
    Puts i x v m (m.declareAt i x v) :=
  ⟨h, m.frames_declareAt i x v, fun _ hy => m.lookup_declareAt_of_ne i v hy⟩

/-- What reading and writing names come to. Frames are counted from the innermost one. -/
structure Lawful (m : Memory) : Prop where
  bottom : m.frames.getLast?.map Frame.title = some Frame.global.title
  /-- What is read is what the topmost frame has that has the name, of those down to the innermost
  call, or else what the global one has. -/
  lookup : ∀ x, m.lookup x =
    ((upToCall m.frames).findSome? fun f => f.get? x).or (m.base.get? x)
  located : ∀ x, m.locate x =
    ((upToCall m.frames).findIdx? fun f => f.contains x).or
      (if m.base.contains x then some m.inner.length else none)
  held : ∀ x i, m.locate x = some i → m.frames[i]?.bind (fun f => f.get? x) = m.lookup x
  slot : ∀ x, (m.slot? x).map Slot.value = m.lookup x
  put : ∀ x v, (m.slot? x).map (fun s => s.put v) = m.assign? x v
  refused : ∀ x v, m.assign? x v = none ↔ m.lookup x = none
  unchanged : ∀ x v, m.lookup x = none → m.after (.assign x v) = m
  assigned : ∀ x v m', m.assign? x v = some m' →
    m'.lookup x = some v ∧ ∃ i, m.locate x = some i ∧ Puts i x v m m'
  /-- A name without a binding gets one in the global frame. -/
  assignedOrNew : ∀ x v, (m.assignOrDeclareGlobal x v).lookup x = some v ∧
    Puts ((m.locate x).getD m.inner.length) x v m (m.assignOrDeclareGlobal x v)
  declared : ∀ x v, (m.declare x v).lookup x = some v ∧ Puts 0 x v m (m.declare x v)
  declaredGlobally : ∀ x v, Puts m.inner.length x v m (m.declareGlobal x v)

lemma after_put (m : Memory) (x : String) (v : Value) :
    m.after (.put x v) = m.after (.assign x v) :=
  congrArg (fun o => o.getD m) (m.slot?_put x v)

/-- What an operation can do. -/
lemma after_cases (m : Memory) (op : Op) : (∃ f, m.after op = m.push f) ∨ m.after op = m.pop ∨
    m.after op = m ∨ ∃ i x v, m.after op = m.declareAt i x v := by
  have assign (x : String) (v : Value) :
      (m.assign? x v).getD m = m ∨
        ∃ i y w, (m.assign? x v).getD m = m.declareAt i y w := by
    rw [assign?_eq]
    cases m.locate x with
    | none => exact .inl rfl
    | some i => exact .inr ⟨i, x, v, rfl⟩
  cases op with
  | push f => exact .inl ⟨f, rfl⟩
  | pop => exact .inr (.inl rfl)
  | declare x v => exact .inr (.inr (.inr ⟨0, x, v, m.declare_eq x v⟩))
  | declareGlobal x v => exact .inr (.inr (.inr ⟨_, x, v, m.declareGlobal_eq x v⟩))
  | assign x v => exact .inr (.inr (assign x v))
  | assignOrDeclareGlobal x v =>
    exact .inr (.inr (.inr ⟨_, x, v, m.assignOrDeclareGlobal_eq x v⟩))
  | put x v =>
    rw [after_put]
    exact .inr (.inr (assign x v))

/-- The global frame stays at the bottom. -/
lemma run_base (m : Memory) (ops : List Op) : (m.run ops).base.title = m.base.title := by
  induction ops generalizing m with
  | nil => rfl
  | cons op ops ih =>
    refine (ih (m.after op)).trans ?_
    rcases m.after_cases op with ⟨f, h⟩ | h | h | ⟨i, x, v, h⟩
    · rw [h]; rfl
    · rw [h]; rfl
    · rw [h]
    · rw [h, declareAt]
      dsimp only
      split <;> rfl

/-- **Names stand for bindings**, after any operations. -/
theorem names_stand_for_bindings (ops : List Op) : (initial.run ops).Lawful := by
  have hbase : (initial.run ops).base.title = Frame.global.title := run_base initial ops
  generalize initial.run ops = m at hbase
  have hglobal (x : String) : (m.locate x).getD m.inner.length < m.depth := by
    cases hi : m.locate x with
    | some i => exact locate_lt hi
    | none => exact Nat.lt_succ_self _
  refine ⟨?_, m.lookup_eq, m.locate_eq, fun x i hi => ?_, m.slot?_value, m.slot?_put,
    fun x v => assign?_eq_none, fun x v hx => ?_, fun x v m' hm' => ?_, fun x v => ?_,
    fun x v => ?_, fun x v => ?_⟩
  · simpa [Memory.frames] using hbase
  · obtain ⟨f, old, hf, hold, hl⟩ := locate_some hi
    simp [hf, hold, hl]
  · show (m.assign? x v).getD m = m
    rw [assign?_eq_none.2 hx]
    rfl
  · have hself := m.lookup_declareAt x v
    rw [assign?_eq] at hm'
    obtain ⟨i, hi, rfl⟩ := Option.map_eq_some_iff.1 hm'
    rw [hi] at hself
    exact ⟨hself, i, hi, .declareAt (locate_lt hi) x v⟩
  · rw [assignOrDeclareGlobal_eq]
    exact ⟨m.lookup_declareAt x v, .declareAt (hglobal x) x v⟩
  · refine ⟨?_, ?_⟩
    · rw [lookup_declare, if_pos rfl]
    · rw [declare_eq]
      exact .declareAt (Nat.succ_pos _) x v
  · rw [declareGlobal_eq]
    exact .declareAt (Nat.lt_succ_self _) x v

/-- A call reads and writes global variables, and no others of its caller. -/
example :
    let m := initial.run [.declareGlobal "g" (.int 1), .push (.block "block"), .declare "x" (.int 2),
      .push (.call "f"), .put "g" (.int 10), .assign "x" (.int 0)]
    m.lookup "g" = some (.int 10) ∧ m.lookup "x" = none ∧ m.pop.lookup "x" = some (.int 2) :=
  ⟨rfl, rfl, rfl⟩

end Memory

end Imperative
