/-!
# Spans of code points

A character property is given as an ascending list of spans. A span runs from `first` to `last`
and takes every `step`-th code point of that run; a step of two is what alternating cased letters
need. `covers` looks a code point up and stops at the first span that begins after it.
-/

namespace TableClasses.Text

/-- The code points `first`, `first + step`, … up to `last`. -/
structure Span where
  first : Nat
  last : Nat
  step : Nat
  deriving DecidableEq, Repr

/-- Whether the code point is one of the span's. -/
def Span.has (s : Span) (n : Nat) : Bool :=
  decide (s.first ≤ n) && decide (n ≤ s.last) && (n - s.first) % s.step == 0

/-- Whether one of the spans, which ascend, has the code point. -/
def covers : List Span → Nat → Bool
  | [], _ => false
  | s :: rest, n => if n < s.first then false else s.has n || covers rest n

end TableClasses.Text
