import GraphQuery.Assembly.Query

/-!
The assembling calls as data: a query is assembled by a sequence of constructions, each of which
refers to what earlier ones have made by its handle.
-/

namespace GraphQuery

/-- An assembling call with its arguments as they are given. -/
inductive Construction where
  /-- A reference of a class without data of its own. -/
  | reference (is : RefClass) (stem : Value)
  /-- A node, with labels if any are given. -/
  | node (stem : Value) (labels? : Option Value)
  | relationship (stem type : Value)
  | param (value stem : Value)
  /-- Access to a property of whatever is given. -/
  | property (base : Value) (path : List Value)
  /-- Access to a property of an object that has properties. -/
  | propertyOf (receiver : Value) (path : List Value)
  | direction (v : Value)
  | nodeElement (v labels table : Value)
  | relationshipElement (v type table way : Value)
  | pattern (v labels table : Value)
  | asPattern (v : Value)
  | related (pattern v type table way : Value)
  | close (chain v labels table : Value)
  | openChain (elements pending : Value)
  | expression (v : Value)
  | comparison (operator : String) (left right : Value)
  | check (operator : String) (operand : Value)
  | junction (operator : String) (operands : List Value)
  | negation (operand : Value)
  /-- A function of operands, of any name. -/
  | call (name : Value) (arguments : List Value)
  | column (v : Value)
  | columns (v : Value)
  | sortItem (v : Value)
  /-- A comparison of unchecked parts. -/
  | anyComparison (operator left right : Value)
  /-- A boolean combination of unchecked parts. -/
  | anyJunction (operator operands : Value)
  /-- A negation of an unchecked part. -/
  | anyNegation (operand : Value)
  /-- A column of unchecked parts. -/
  | anyColumn (e name : Value)
  /-- A sort item of unchecked parts. -/
  | anySortItem (e way : Value)
  | read (optionalClass : Bool) (isOptional : Value) (patterns : List Value)
  | create (patterns : List Value)
  | projection (kind : ProjectionKind) (columns : List Value) (distinct : Value)
  | statement (nodes : List Value)
  | union (branches : List Value)
  /-- A builder call on a clause. -/
  | build (h : Nat) (b : Builder)
  /-- A further part at the end of a statement. -/
  | append (h : Nat) (v : Value)
  /-- Whether a union keeps duplicate rows. -/
  | keepDuplicates (h : Nat) (all : Value)

namespace Construction

open Assembly

/-- Carries out an assembling call, and answers what it makes. -/
def perform : Construction → Assembly Value
  | reference is stem => Assembly.reference is stem
  | node stem labels? => Assembly.node stem labels?
  | relationship stem type => Assembly.relationship stem type
  | param value stem => Assembly.param value stem
  | property base path => Assembly.property base path
  | propertyOf receiver path => Assembly.propertyOf receiver path
  | direction v =>
    match v.text?.bind Direction.ofWord? with
    | some d => return .direction d
    | none => throw .wrongValue
  | nodeElement v labels table => do made (.nodeElement (← Assembly.nodeElement v labels table))
  | relationshipElement v type table way => do
    made (.relationshipElement (← Assembly.relationshipElement v type table way))
  | pattern v labels table => Assembly.pattern v labels table
  | asPattern v => Assembly.asPattern v
  | related receiver v type table way => Assembly.related receiver v type table way
  | close receiver v labels table => Assembly.close receiver v labels table
  | openChain elements pending => Assembly.openChain elements pending
  | expression v => Assembly.expression v
  | comparison operator left right => Assembly.comparison operator left right
  | check operator operand => postCheck operator operand
  | junction operator operands => Assembly.junction operator operands
  | negation operand => Assembly.negation operand
  | call name arguments => Assembly.call name arguments
  | column v => do made (.column (← Assembly.column v))
  | columns v => do
    let columns ← Assembly.columns (← items v)
    made (.list (← columns.mapM fun c => made (.column c)))
  | sortItem v => do made (.sortItem (← Assembly.sortItem v))
  | anyComparison operator left right => made (.expression (.comparison operator left right))
  | anyJunction operator operands => made (.expression (.junction operator (.assigned operands)))
  | anyNegation operand => made (.expression (.negation operand))
  | anyColumn e name => made (.column ⟨e, name⟩)
  | anySortItem e order => made (.sortItem ⟨e, order⟩)
  | read optionalClass isOptional values => Assembly.read optionalClass isOptional values
  | create values => Assembly.create values
  | projection kind values distinct => Assembly.projection kind values distinct
  | statement nodes => Assembly.statement nodes
  | union branches => Assembly.union branches
  | build h b => buildOn h b
  | append h v => Assembly.append h v
  | keepDuplicates h all => Assembly.keepDuplicates h all

end Construction

end GraphQuery
