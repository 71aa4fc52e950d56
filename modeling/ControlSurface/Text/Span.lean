/- Spans of code points, the form in which character classes are tabled. -/
namespace ControlSurface.Text

/-- The first and the last code point of a span, both included. -/
abbrev Span := Nat × Nat

/-- Whether a character lies in one of the spans. -/
def inSpans (spans : List Span) (c : Char) : Bool :=
  spans.any fun s => decide (s.1 ≤ c.toNat ∧ c.toNat ≤ s.2)

theorem inSpans_iff {spans : List Span} {c : Char} :
    inSpans spans c = true ↔ ∃ s ∈ spans, s.1 ≤ c.toNat ∧ c.toNat ≤ s.2 := by
  simp [inSpans]

end ControlSurface.Text
