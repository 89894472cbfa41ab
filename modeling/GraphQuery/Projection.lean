import GraphQuery.Expression

/-!
Projections: the columns of a `WITH` or `RETURN`, with the ordering that belongs to them.

Sorting, skipping and limiting rows have no place of their own in a query. They are part of the
projection whose rows they order, and are written directly under its line.
-/

namespace GraphQuery

/-- The order in which the rows of a projection come, and which of them. -/
structure Ordering where
  sortItems : List SortItem
  skip : Option Param
  limit : Option Param

/-- No ordering at all. -/
def Ordering.unordered : Ordering := ⟨[], none, none⟩

/-- Columns with their ordering. Whether rows are distinct is told by the truth of a value. -/
structure Projection where
  kind : ProjectionKind
  columns : List Column
  distinct : Value
  ordering : Ordering

/-- The projection with other columns. Its ordering stays. -/
def Projection.replace (p : Projection) (columns : List Column) (distinct : Value) : Projection :=
  { p with columns := columns, distinct := distinct }

end GraphQuery
