import GraphQuery.Direction
import GraphQuery.Text.Quoted

/-!
Refusals: the ways in which a query tree can be assembled wrongly, each told at the call that does
it. A refusal is a cause; its wording, the details that go with it and the name of its kind are
functions of the cause.

Texts of values inside a cause (`quoted`) and class names (`got`) are those that a message shows.
-/

namespace GraphQuery

/-- Why an assembling call is refused. -/
inductive Refusal where
  /-- A name that has to be an identifier is none. The role of the name is told twice, in words and,
  if it is anything at all, as a detail. -/
  | identifier (role : String) (shownRole? : Option String) (quoted : String)
  /-- A property access without property names. -/
  | emptyPath
  /-- A property name in an access that is empty or no text. -/
  | pathStep (quoted : String)
  /-- A property name in a pattern that is empty or no text. -/
  | propertyName (quoted : String)
  /-- A label that is empty or no text. -/
  | label (role quoted : String)
  /-- A relationship type that is no text. -/
  | relationshipType (quoted : String)
  /-- A word for a direction that names none. -/
  | direction (quoted : String)
  /-- Pattern properties that are no dictionary. -/
  | propertyTable (got : String)
  /-- A pattern property whose value is an expression. -/
  | propertyExpression (quotedKey got : String)
  /-- Something else in the place of a node. -/
  | notNode (got : String)
  /-- Something else in the place of a relationship. -/
  | notRelationship (got : String)
  /-- A chain that ends on a relationship, in the place of a pattern. -/
  | openChain
  /-- Something else in the place of a pattern. -/
  | notPattern (got : String)
  /-- A boolean combination of nothing. -/
  | noOperand (operator : String)
  /-- A column with an alias that is not a pair. -/
  | columnPair (length : Nat)
  /-- Something that cannot be a column. -/
  | column (quoted : String)
  /-- The star behind another column. -/
  | starPosition
  /-- A sort item with a direction that is not a pair. -/
  | sortPair
  /-- A word for a sort direction that names none. -/
  | sortDirection (quoted : String)
  /-- Something that cannot be sorted by. -/
  | sortItem (quoted : String)
  /-- Something else in the place of a path. -/
  | notPath (got : String)
  /-- A path for several patterns at once. -/
  | sharedPath (patterns : Nat)
  /-- An assignment that is not a pair. -/
  | assignmentPair (quoted : String)
  /-- An assignment to something that is not a property. -/
  | assignmentTarget (got : String)
  /-- A removal of something that is not a property. -/
  | removalTarget (got : String)
  /-- A deletion of something that is not a reference. -/
  | deletionTarget (got : String)
  /-- A row count that is neither a natural number nor a parameter. -/
  | rowCount (role quoted : String)
  /-- A pattern clause without patterns. -/
  | noPatterns (clause : String)
  /-- A projection without columns. -/
  | noColumns (keyword : String)
  /-- A fragment that the clause does not have. The others are told by their quoted names. -/
  | unsupported (clause slot : String) (supported : List String)
  /-- An ordering without a projection to order. -/
  | nothingToOrder (clause : String)
  /-- A union of fewer than two branches. -/
  | tooFewBranches (branches : Nat)
  /-- Something else in the place of a clause, statement or union. -/
  | notCompilable (got : String)
  deriving DecidableEq, Repr

namespace Refusal

/-- The name of the kind of refusal. -/
def kind : Refusal → String
  | identifier .. => "InvalidIdentifierError"
  | label .. | relationshipType .. | direction .. | propertyTable .. | propertyName ..
  | propertyExpression .. | notNode .. | notRelationship .. | openChain | notPattern ..
  | notPath .. | sharedPath .. | noPatterns .. => "PatternError"
  | emptyPath | pathStep .. | noOperand .. | columnPair .. | column .. | starPosition | sortPair
  | sortDirection .. | sortItem .. | assignmentPair .. | assignmentTarget .. | removalTarget ..
  | deletionTarget .. | rowCount .. | noColumns .. => "ExpressionError"
  | unsupported .. | nothingToOrder .. => "UnsupportedCapabilityError"
  | tooFewBranches .. => "UnionArityError"
  | notCompilable .. => "ConstructionError"

/-- The wording of a refusal. -/
def wording : Refusal → String
  | identifier role _ quoted => "Invalid " ++ role ++ ": " ++ quoted
  | emptyPath => "PropertyRef needs at least one property name"
  | pathStep quoted => "Invalid property name: " ++ quoted
  | propertyName quoted => "Invalid property name: " ++ quoted
  | label role quoted => "Invalid " ++ role ++ ": " ++ quoted
  | relationshipType quoted => "Relationship type must be a string, got " ++ quoted
  | direction quoted => "Unknown relationship direction " ++ quoted
  | propertyTable got => "Pattern properties must be a mapping, got " ++ got
  | propertyExpression quotedKey _ =>
    "Pattern property " ++ quotedKey ++ " must be a literal or a Param"
  | notNode _ => "Expected a Node"
  | notRelationship _ => "Expected a Relationship"
  | openChain => "Pattern ends on a relationship; close it with .to(node)"
  | notPattern _ => "Expected a Node or Pattern"
  | noOperand operator => operator ++ " needs at least one operand"
  | columnPair _ => "Aliased projection columns must be (expression, alias) pairs"
  | column quoted => "Cannot project " ++ quoted
  | starPosition => "'*' must be the first projection column"
  | sortPair => "Sort items must be (expression, direction) pairs"
  | sortDirection quoted => "Unknown sort direction " ++ quoted
  | sortItem quoted => "Cannot sort by " ++ quoted
  | notPath _ => "Only a Path can be bound to a pattern"
  | sharedPath _ => "A path can only be bound to a single pattern"
  | assignmentPair _ => "SET entries must be (property, value) pairs"
  | assignmentTarget _ => "SET targets must be property references"
  | removalTarget _ => "REMOVE takes property references"
  | deletionTarget _ => "DELETE takes node, relationship, path or variable references"
  | rowCount role _ => role ++ " must be a non-negative integer or a Param"
  | noPatterns clause => clause ++ " needs at least one pattern"
  | noColumns keyword => keyword ++ " needs at least one column"
  | unsupported clause slot _ => clause ++ " does not support " ++ Text.quoted slot
  | nothingToOrder _ =>
    "ORDER BY, SKIP and LIMIT follow a WITH or RETURN projection; " ++
      "call return_() or with_() first"
  | tooFewBranches _ => "Union needs at least two branches"
  | notCompilable got => "Expected a clause, statement or union, got " ++ got

/-- A list as a message shows it, from what it shows of the items. -/
def shownList (items : List String) : String := "[" ++ ", ".intercalate items ++ "]"

/-- A list of texts as a message shows it. -/
def quotedList (items : List String) : String := shownList (items.map Text.quoted)

/-- What goes with the wording: names with the texts that a message shows for them. -/
def details : Refusal → List (String × String)
  | identifier _ shownRole? quoted =>
    (shownRole?.map fun role => ("role", role)).toList ++ [("value", Text.quoted quoted)]
  | direction _ => [("allowed", quotedList (Direction.all.map Direction.word))]
  | propertyExpression _ got => [("value_type", Text.quoted got)]
  | notNode got | notRelationship got | notPattern got | notPath got | assignmentTarget got
  | removalTarget got | deletionTarget got => [("got", Text.quoted got)]
  | assignmentPair quoted | rowCount _ quoted => [("got", Text.quoted quoted)]
  | columnPair length => [("length", toString length)]
  | sortDirection _ => [("allowed", quotedList ["ASC", "DESC"])]
  | sharedPath patterns => [("patterns", toString patterns)]
  | unsupported clause slot supported =>
    [("clause", Text.quoted clause), ("capability", Text.quoted slot),
      ("supported", shownList supported)]
  | nothingToOrder clause => [("clause", Text.quoted clause), ("capability", Text.quoted "order")]
  | tooFewBranches branches => [("branches", toString branches)]
  | notCompilable got => [("type", Text.quoted got)]
  | _ => []

/-- The details as a message shows them: a dictionary with quoted keys. -/
def shownDetails (details : List (String × String)) : String :=
  "\x7b" ++ ", ".intercalate (details.map fun d => Text.quoted d.1 ++ ": " ++ d.2) ++ "\x7d"

/-- The message of a refusal: its wording, and its details when there are any. -/
def message (r : Refusal) : String :=
  if r.details.isEmpty then r.wording
  else r.wording ++ " (Details: " ++ shownDetails r.details ++ ")"

end Refusal

end GraphQuery
