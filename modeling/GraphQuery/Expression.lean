import GraphQuery.Pattern

/-!
Expressions, columns and sort items, each with its parts by handle.

Literals are never part of an expression: they are wrapped into parameters before.
-/

namespace GraphQuery

/-- An expression that is made of others. -/
inductive Expression where
  /-- Access to a property along a path of names. -/
  | property (base : Value) (path : Attribute (List Name))
  /-- An operator between two operands, or behind one when the other is nothing. -/
  | comparison (operator left right : Value)
  /-- An operator between any number of operands. -/
  | junction (operator : Value) (operands : Attribute (List Value))
  | negation (operand : Value)
  | call (name : Value) (arguments : Attribute (List Value))

namespace Expression

/-- The name of the class. -/
def className : Expression → String
  | property .. => "PropertyRef"
  | comparison .. => "ComparisonOp"
  | junction .. => "BooleanOp"
  | negation _ => "NotOp"
  | call .. => "CypherFunction"

end Expression

/-- A column: an expression, or nothing for the column of everything, with a name or nothing. -/
structure Column where
  expression : Value
  name : Value

namespace Column

/-- The column of everything. -/
def star : Column := ⟨.null, .null⟩

/-- The column is that of everything. -/
def isStar (c : Column) : Bool := c.expression.isNull

end Column

/-- A sort item: an expression with its order. -/
structure SortItem where
  expression : Value
  order : Value

/-- The order that is not written. -/
def SortItem.ascending : String := "ASC"

end GraphQuery
