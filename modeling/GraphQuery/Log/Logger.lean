import GraphQuery.Event
import GraphQuery.Value.Equality

/-!
Loggers: the dotted names that events are reported under.

A logger is below every logger whose name stands in front of one of the points in its own name, and
all loggers are below the outermost one. A level, handlers and filters can be set for each of them.
What is reported to a logger has to reach the level of the nearest logger that has one, and to pass
the filters of the logger itself; then it goes to the handlers of all loggers that it is below.

* `Logger.lineage`: a logger and those that it is below, in this order.
* `Logger.untouched`: a logger that nothing has been set for.
-/

namespace GraphQuery

/-- What is set for a logger. A level of nought is none. -/
structure Logger where
  name : String
  level : Value
  handlers : List Value
  filters : List Value
  deriving DecidableEq

namespace Logger

/-- The name of the outermost logger. -/
def outermost : String := "root"

/-- The level that the outermost logger has at first. -/
def outermostLevel (name : String) : Nat :=
  if name = outermost then Severity.warning.rank else Severity.unset.rank

/-- A logger that nothing has been set for. -/
def untouched (name : String) : Logger := ⟨name, .int (outermostLevel name), [], []⟩

/-! ### Lineage -/

/-- The names in front of the points in a name, the longest first. Names are given backwards. A
point behind another one counts, but not the one in front of it. -/
def enclosing : List Char → List (List Char)
  | '.' :: c :: cs => (c :: cs) :: enclosing cs
  | _ :: cs => enclosing cs
  | [] => []

/-- The names of a logger and of those that it is below, from the inside to the outside. -/
def lineage (name : String) : List String :=
  if name = outermost then [outermost]
  else name :: (enclosing name.toList.reverse).map (fun cs => String.ofList cs.reverse)
    ++ [outermost]

/-- The outermost logger comes last. -/
theorem getLast?_lineage (name : String) : (lineage name).getLast? = some outermost := by
  unfold lineage
  split
  · rfl
  · exact List.getLast?_concat

/-! ### What is set -/

/-- The values without a given one, if it is among them. -/
def without (view : ObjectView) (values : List Value) (v : Value) : List Value :=
  values.eraseP (Value.matched view · v)

/-- The values with a given one at the end, unless it is among them. -/
def withLast (view : ObjectView) (values : List Value) (v : Value) : List Value :=
  if values.any (Value.matched view · v) then values else values ++ [v]

/-- The logger has a level of its own. -/
def hasLevel (l : Logger) : Bool := l.level.int? != some 0

end Logger

end GraphQuery
