/-!
# Sets of characters as ranges of code points
-/

namespace Signpost.Text

/-- A set of characters: inclusive ranges of code points. -/
abbrev Ranges := List (Nat × Nat)

def Ranges.contains (rs : Ranges) (c : Char) : Bool :=
  rs.any fun r => decide (r.1 ≤ c.toNat) && decide (c.toNat ≤ r.2)

end Signpost.Text
