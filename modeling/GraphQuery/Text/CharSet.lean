/-!
Sets of characters as sorted lists of closed intervals of code points: how the standing data on
blanks, digits and printable characters is written down.
-/

namespace GraphQuery.Text

/-- Closed intervals of code points, in increasing order. -/
abbrev CharSet := List (Nat × Nat)

/-- The intervals of the set hold the character. -/
def CharSet.holds (set : CharSet) (c : Char) : Bool :=
  set.any fun range => range.1 ≤ c.toNat && c.toNat ≤ range.2

/-- Every character of the text is in the set, and there is at least one. -/
def CharSet.covers (set : CharSet) (s : String) : Bool :=
  !s.isEmpty && s.toList.all set.holds

end GraphQuery.Text
