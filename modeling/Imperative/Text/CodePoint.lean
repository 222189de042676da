/-!
Sets of characters, given by spans of code points.
-/

namespace Imperative.Text

/-- The first and the last code point of a span, both in it. -/
abbrev Span := Nat × Nat

def inSpans (spans : List Span) (c : Char) : Bool :=
  spans.any fun s => decide (s.1 ≤ c.toNat ∧ c.toNat ≤ s.2)

theorem inSpans_iff (spans : List Span) (c : Char) :
    inSpans spans c = true ↔ ∃ s ∈ spans, s.1 ≤ c.toNat ∧ c.toNat ≤ s.2 := by
  simp [inSpans]

end Imperative.Text
