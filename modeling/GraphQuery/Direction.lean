/-!
Directions of a relationship in a pattern.
-/

namespace GraphQuery

/-- Which way a relationship points, read from left to right. -/
inductive Direction where
  | left
  | right
  | undirected
  deriving DecidableEq, Repr

namespace Direction

/-- All directions, in the order in which messages list them. -/
def all : List Direction := [left, right, undirected]

/-- The word for a direction. -/
def word : Direction → String
  | left => "left"
  | right => "right"
  | undirected => "undirected"

/-- The direction that a word names. -/
def ofWord? (w : String) : Option Direction :=
  all.find? fun d => d.word = w

/-- The word for a direction in capitals. -/
def capitals : Direction → String
  | left => "LEFT"
  | right => "RIGHT"
  | undirected => "UNDIRECTED"

/-- A direction as it is written into running text, where it tells that it is one. -/
def running (d : Direction) : String := "Direction." ++ d.capitals

/-- What stands before the bracket of the relationship. -/
def tail : Direction → String
  | left => "<-"
  | right => "-"
  | undirected => "-"

/-- What stands behind the bracket of the relationship. -/
def tip : Direction → String
  | left => "-"
  | right => "->"
  | undirected => "-"

/-- Every direction is named by its word, and by no other word. -/
theorem ofWord?_eq_some_iff {w : String} {d : Direction} : ofWord? w = some d ↔ d.word = w := by
  constructor
  · intro h
    have := List.find?_some h
    simpa using this
  · rintro rfl
    cases d <;> decide

end Direction

end GraphQuery
