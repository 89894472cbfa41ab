import GraphQuery.Assembly.Basic
import GraphQuery.Text.Uppercase

/-!
Making expressions, columns and sort items. Every operand that cannot stand in a query is a literal.
-/

namespace GraphQuery.Assembly

/-- An operator between two operands. -/
def comparison (operator : String) (left right : Value) : Assembly Value := do
  let left ← expression left
  made (.expression (.comparison (.text operator) left (← expression right)))

/-- An operator behind an operand. -/
def postCheck (operator : String) (operand : Value) : Assembly Value := do
  made (.expression (.comparison (.text operator) (← expression operand) .null))

/-- The negation of an operand. -/
def negation (operand : Value) : Assembly Value := do
  made (.expression (.negation (← expression operand)))

/-- A function of operands. -/
def call (name : Value) (arguments : List Value) : Assembly Value := do
  made (.expression (.call name (.made (← arguments.mapM expression))))

/-- A boolean combination. A single operand is its own combination. -/
def junction (operator : String) (operands : List Value) : Assembly Value := do
  if operands.isEmpty then refuse (.noOperand operator)
  match ← operands.mapM expression with
  | [v] => return v
  | operands => made (.expression (.junction (.text operator) (.made operands)))

/-! ### Columns and sort items -/

/-- The column of everything, asked for by its sign. -/
def isStar (v : Value) : Bool := v.isText "*"

/-- The name that a column is given: a variable, or a text that is an identifier. -/
def columnName (v : Value) : Assembly Value := do
  match ← reference? v with
  | some ⟨_, _, .var⟩ => return v
  | _ =>
    let _ ← check fun view => checkIdentifier view "projection alias" v
    return v

/-- A value that has to be able to stand in a query as a column. -/
def projected (v : Value) : Assembly Value := do
  if ← isExpression v then return v
  refuse (.column (← quoted v))

/-- A value as a column: the star, an expression, or a pair of an expression and a name. -/
def column (v : Value) : Assembly Column := do
  if isStar v then return .star
  match ← object? v with
  | some (.tuple [e, name]) =>
    let e ← projected e
    return ⟨e, ← columnName name⟩
  | some (.tuple items) => refuse (.columnPair items.length)
  | _ => return ⟨← projected v, .null⟩

/-- Values as the columns of a projection. The star can only come first. -/
def columns (values : List Value) : Assembly (List Column) := do
  let columns ← values.mapM column
  if columns.tail.any Column.isStar then refuse .starPosition
  return columns

/-- The columns of a projection, of which there has to be one. -/
def someColumns (kind : ProjectionKind) (values : List Value) : Assembly (List Column) := do
  if values.isEmpty then refuse (.noColumns kind.keyword)
  columns values

/-- The order that a value asks for in a sort item, in capitals. -/
def sortOrder (v : Value) : Assembly String := do
  let order := Text.uppercase (← plain v)
  if order = "ASC" ∨ order = "DESC" then return order
  refuse (.sortDirection (← quoted v))

/-- A value as a sort item: an expression, or a pair of an expression and an order. -/
def sortItem (v : Value) : Assembly SortItem := do
  let (e, order) ← match ← object? v with
    | some (.tuple [e, order]) => do pure (e, ← sortOrder order)
    | some (.tuple _) => refuse .sortPair
    | _ => pure (v, SortItem.ascending)
  if ← isExpression e then return ⟨e, .text order⟩
  refuse (.sortItem (← quoted e))

/-- A row count: a parameter, or a natural number that is wrapped into one. -/
def rowCount (role : String) (v : Value) : Assembly Param := do
  match ← param? v, v with
  | some p, _ => return p
  | none, .atom (.int (.ofNat _)) _ => wrap v
  | none, _ => refuse (.rowCount role (← quoted v))

/-! ### Filters -/

/-- A predicate joined to the one before by `AND`. A combination by `AND` is extended. -/
def conjoined (current : Option Value) (predicate : Value) : Assembly Value := do
  match current, ← current.elim (pure none) object? with
  | none, _ => return predicate
  | some v, some (.expression (.junction operator operands)) =>
    if operator.isText "AND" then
      let operands ← match operands with
        | .made operands => pure operands
        | .assigned v => items v
      made (.expression (.junction (.text "AND") (.made (operands ++ [predicate]))))
    else junction "AND" [v, predicate]
  | some v, _ => junction "AND" [v, predicate]

/-- A predicate joined to the one before by `OR`. -/
def disjoined (current : Option Value) (predicate : Value) : Assembly Value :=
  match current with
  | none => return predicate
  | some v => junction "OR" [v, predicate]

end GraphQuery.Assembly
