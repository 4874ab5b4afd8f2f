/-!
# Spans of code points

A character class is given as a list of closed intervals of code points.
-/

namespace Concord
namespace Text

/-- The code points from `first` to `last`, both included. -/
structure Span where
  /-- The first code point. -/
  first : Nat
  /-- The last code point. -/
  last : Nat
  deriving DecidableEq

namespace Span

/-- Whether a code point lies in the span. -/
def contains (span : Span) (code : Nat) : Bool :=
  span.first ≤ code && code ≤ span.last

theorem contains_iff (span : Span) (code : Nat) :
    span.contains code = true ↔ span.first ≤ code ∧ code ≤ span.last := by
  simp [contains]

end Span

/-- Whether a character lies in one of the spans. -/
def inSpans (spans : List Span) (c : Char) : Bool :=
  spans.any fun span => span.contains c.toNat

end Text
end Concord
