/-!
# Spans of characters

A set of characters given as inclusive spans of code points in ascending order.
-/

namespace QbLint

/-- Inclusive spans of code points, in ascending order. -/
abbrev Spans := List (Nat × Nat)

/-- Whether a character is in one of the spans. -/
def Spans.contain (spans : Spans) (c : Char) : Bool :=
  spans.any fun (first, last) => first ≤ c.toNat && c.toNat ≤ last

end QbLint
