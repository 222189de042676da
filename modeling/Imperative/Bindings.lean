/-!
Names with what they are bound to, in the order in which the names were first bound. A name is
bound to one thing at a time, so binding it again replaces what it had and keeps its place.
-/

namespace Imperative

structure Bindings (α : Type) where
  entries : List (String × α)
  deriving DecidableEq, Repr

namespace Bindings

variable {α : Type}

def empty : Bindings α := ⟨[]⟩

def find (name : String) : List (String × α) → Option α
  | [] => none
  | e :: rest => if e.1 = name then some e.2 else find name rest

def get? (b : Bindings α) (name : String) : Option α := find name b.entries

def contains (b : Bindings α) (name : String) : Bool := (b.get? name).isSome

def names (b : Bindings α) : List String := b.entries.map Prod.fst

/-- The entries with one more, in the place of an old one of the same name. -/
def put (name : String) (a : α) : List (String × α) → List (String × α)
  | [] => [(name, a)]
  | e :: rest => if e.1 = name then (name, a) :: rest else e :: put name a rest

def insert (b : Bindings α) (name : String) (a : α) : Bindings α := ⟨put name a b.entries⟩

@[simp] theorem get?_empty (name : String) : (empty : Bindings α).get? name = none := rfl

theorem find_put (name other : String) (a : α) (es : List (String × α)) :
    find other (put name a es) = if name = other then some a else find other es := by
  induction es with
  | nil => by_cases h : name = other <;> simp [put, find, h]
  | cons e rest ih =>
    by_cases he : e.1 = name
    · by_cases h : name = other <;> simp [put, find, he, h]
    · rw [put, if_neg he, find, ih, find]
      by_cases h : e.1 = other
      · have hne : name ≠ other := fun hn => he (h.trans hn.symm)
        simp [h, hne]
      · simp [h]

theorem get?_insert (b : Bindings α) (name other : String) (a : α) :
    (b.insert name a).get? other = if name = other then some a else b.get? other :=
  find_put name other a b.entries

@[simp] theorem get?_insert_self (b : Bindings α) (name : String) (a : α) :
    (b.insert name a).get? name = some a := by
  simp [get?_insert]

theorem get?_insert_of_ne (b : Bindings α) {name other : String} (a : α) (h : name ≠ other) :
    (b.insert name a).get? other = b.get? other := by
  simp [get?_insert, h]

end Bindings

end Imperative
