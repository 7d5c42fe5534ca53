/-!
# Sets of code points by their boundaries

A set of code points that consists of few intervals is written as the sorted list of its
boundaries: the first code point inside, the first one outside again, and so on.
-/

namespace EntityQuery.Unicode

/-- Membership in the set with the given boundaries. -/
def inBounds : List Nat → Nat → Bool
  | [], _ => false
  | [first], n => first ≤ n
  | first :: past :: rest, n =>
    if n < first then false else if n < past then true else inBounds rest n

@[simp] theorem inBounds_nil (n : Nat) : inBounds [] n = false := rfl

end EntityQuery.Unicode
