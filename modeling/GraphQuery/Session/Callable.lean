import GraphQuery.Session.Request
import GraphQuery.Session.Signature

/-!
The calls of the library by name: what parameters a call has, and which request it makes.

A call without a receiver is a function or makes an object. A call on a receiver is looked up among
what was assigned to the receiver, and then among the methods of its class. The methods of a record
are those of its class alone; every clause has every builder.
-/

namespace GraphQuery

/-- A call that can be made: its parameters, and the request that it is with given arguments. -/
structure Callable where
  signature : Signature
  request : Arguments → Request

namespace Callable

open Signature

/-- A call that assembles a part of a query. -/
def assembling (signature : Signature) (c : Arguments → Construction) : Callable :=
  ⟨signature, fun a => .construct (c a)⟩

/-- An operator between two operands. -/
def operator (symbol : String) : Callable :=
  assembling (exactly ["left", "right"] []) fun a =>
    .comparison symbol (a.get "left") (a.get "right")

/-- An operator behind an operand. -/
def postOperator (symbol : String) : Callable :=
  assembling (exactly ["operand"] []) fun a => .check symbol (a.get "operand")

/-- A boolean operator of any number of operands. -/
def connective (symbol : String) : Callable :=
  assembling (exactly [] []).withRest fun a => .junction symbol a.rest

/-- A function of one operand. -/
def function (parameter name : String) : Callable :=
  assembling (exactly [parameter] []) fun a => .call (.text name) [a.get parameter]

/-- A reference of a class without data of its own. -/
def plainReference (is : RefClass) : Callable :=
  assembling ((exactly [] []).withNamed [("prefix", .null)]) fun a =>
    .reference is (a.get "prefix")

/-- A projection that stands alone. -/
def projection (kind : ProjectionKind) : Callable :=
  assembling ((exactly [] []).withRest.withNamed [("distinct", .bool false)]) fun a =>
    .projection kind a.rest (a.get "distinct")

/-- The labels and properties of a node in a pattern. -/
def nodeOptions : List (String × Value) := [("labels", .null), ("properties", .null)]

/-- The calls that make references, patterns and expressions. -/
def leafFunction : String → Option Callable
  | "Node" => some <| assembling
      (((exactly [] []).withNamed [("prefix", .null)]).withOptional "labels")
      fun a => .node (a.get "prefix") (a.get? "labels")
  | "Relationship" => some <| assembling
      ((exactly [] []).withNamed [("prefix", .null), ("type", .null)])
      fun a => .relationship (a.get "prefix") (a.get "type")
  | "Variable" => some (plainReference .var)
  | "Path" => some (plainReference .path)
  | "Reference" => some (plainReference .plain)
  | "Param" => some <| assembling (exactly ["value"] [("prefix", .null)])
      fun a => .param (a.get "value") (a.get "prefix")
  | "PropertyRef" => some <| assembling (exactly ["reference"] []).withRest
      fun a => .property (a.get "reference") a.rest
  | "Pattern" => some <| assembling ((exactly ["node"] []).withNamed nodeOptions)
      fun a => .pattern (a.get "node") (a.get "labels") (a.get "properties")
  | "PartialPattern" => some <| assembling (exactly ["elements", "pending"] [])
      fun a => .openChain (a.get "elements") (a.get "pending")
  | "Direction" => some <| assembling (exactly ["value"] []) fun a => .direction (a.get "value")
  | "NodeElement" => some <| assembling (exactly ["reference"] nodeOptions)
      fun a => .nodeElement (a.get "reference") (a.get "labels") (a.get "properties")
  | "RelationshipElement" => some <| assembling
      (exactly ["reference"] [("rel_type", .null), ("properties", .null),
        ("direction", .direction .right)])
      fun a => .relationshipElement (a.get "reference") (a.get "rel_type") (a.get "properties")
        (a.get "direction")
  | "as_pattern" => some <| assembling (exactly ["value"] []) fun a => .asPattern (a.get "value")
  | "eq" => some (operator "=")
  | "neq" => some (operator "<>")
  | "gt" => some (operator ">")
  | "gte" => some (operator ">=")
  | "lt" => some (operator "<")
  | "lte" => some (operator "<=")
  | "in_" => some (operator "IN")
  | "contains" => some (operator "CONTAINS")
  | "starts_with" => some (operator "STARTS WITH")
  | "ends_with" => some (operator "ENDS WITH")
  | "is_null" => some (postOperator "IS NULL")
  | "is_not_null" => some (postOperator "IS NOT NULL")
  | "and_" => some (connective "AND")
  | "or_" => some (connective "OR")
  | "not_" => some <| assembling (exactly ["operand"] []) fun a => .negation (a.get "operand")
  | "count" => some (function "expression" "count")
  | "collect" => some (function "expression" "collect")
  | "element_id" => some (function "reference" "elementId")
  | "coalesce" => some <| assembling (exactly ["expression"] []).withRest
      fun a => .call (.text "coalesce") (a.get "expression" :: a.rest)
  | "as_expression" => some <| assembling (exactly ["value"] [])
      fun a => .expression (a.get "value")
  | "to_column" => some <| assembling (exactly ["column"] []) fun a => .column (a.get "column")
  | "to_columns" => some <| assembling (exactly ["columns"] [])
      fun a => .columns (a.get "columns")
  | "to_sort_item" => some <| assembling (exactly ["item"] []) fun a => .sortItem (a.get "item")
  | "ComparisonOp" => some <| assembling (exactly ["operator", "left"] [("right", .null)])
      fun a => .anyComparison (a.get "operator") (a.get "left") (a.get "right")
  | "BooleanOp" => some <| assembling (exactly ["operator", "operands"] [])
      fun a => .anyJunction (a.get "operator") (a.get "operands")
  | "NotOp" => some <| assembling (exactly ["operand"] []) fun a => .anyNegation (a.get "operand")
  | "CypherFunction" => some <| assembling (exactly ["name"] []).withRest
      fun a => .call (a.get "name") a.rest
  | "ProjectionColumn" => some <| assembling (exactly ["expression", "alias"] [])
      fun a => .anyColumn (a.get "expression") (a.get "alias")
  | "SortItem" => some <| assembling (exactly ["expression"] [("direction", .text "ASC")])
      fun a => .anySortItem (a.get "expression") (a.get "direction")
  | _ => none

/-- The calls that make clauses, statements, unions and compiled queries. -/
def queryFunction : String → Option Callable
  | "Match" => some <| assembling
      ((exactly [] []).withRest.withNamed [("optional", .bool false)])
      fun a => .read false (a.get "optional") a.rest
  | "OptionalMatch" => some <| assembling (exactly [] []).withRest
      fun a => .read true (.bool true) a.rest
  | "Create" => some <| assembling (exactly [] []).withRest fun a => .create a.rest
  | "With" => some (projection .passing)
  | "Return" => some (projection .returning)
  | "Union" => some <| assembling (exactly [] []).withRest fun a => .union a.rest
  | "Statement" => some <| assembling (exactly [] []).withRest fun a => .statement a.rest
  | "build" => some ⟨exactly ["query"] [], fun a => .compile (a.get "query")⟩
  | "CompiledQuery" => some ⟨(exactly [] []).withFurther, fun a =>
      .compiled (a.further.lookup "text") (a.further.lookup "params")⟩
  | "ensure_compilable" => some ⟨exactly ["node"] [], fun a => .compilable (a.get "node")⟩
  | "compile_if_exists" => some ⟨exactly ["element", "env"] [("prefix", .text "")], fun a =>
      .writeBehind (a.get "element") (a.get "env") (a.get "prefix")⟩
  | "normalize_labels" => some ⟨exactly ["values"] [("role", .text "node label")], fun a =>
      .labels (a.get "values") (a.get "role")⟩
  | "is_valid_identifier" => some ⟨exactly ["name"] [], fun a => .isIdentifier (a.get "name")⟩
  | "validate_identifier" => some ⟨exactly ["name", "role"] [], fun a =>
      .checkIdentifier (a.get "name") (a.get "role")⟩
  | "escape_identifier" => some ⟨exactly ["name"] [], fun a => .escaped (a.get "name")⟩
  | "create_error_context" => some ⟨exactly ["context"] [], fun a => .context (a.get "context")⟩
  | "make_error" => some ⟨exactly ["name", "message"] [("details", .null)], fun a =>
      .error (a.get "name") (a.get "message") (a.get "details")⟩
  | "Environment" => some ⟨(exactly [] [("prefixes", .null)]).withNamed
      [("unsuffixed_first", .null), ("separator", .null)], fun a =>
      .environment (a.get "prefixes") (a.get "unsuffixed_first") (a.get "separator")⟩
  | _ => none

/-- The calls that concern the session itself. -/
def sessionFunction : String → Option Callable
  | "Settings" => some ⟨(exactly [] []).withFurther, fun a => .settings a.further⟩
  | "config_get" => some ⟨exactly ["key"] [], fun a => .getSetting (a.get "key")⟩
  | "config_set" => some ⟨exactly ["key", "value"] [], fun a =>
      .setSetting (a.get "key") (a.get "value")⟩
  | "config_reload" => some ⟨exactly [] [], fun _ => .reload⟩
  | "config_clear" => some ⟨exactly [] [], fun _ => .clearSettings⟩
  | "validate_all" => some ⟨exactly [] [], fun _ => .health⟩
  | "setenv" => some ⟨exactly ["name", "value"] [], fun a =>
      .setVariable (a.get "name") (a.get "value")⟩
  | "unsetenv" => some ⟨exactly ["name"] [], fun a => .unsetVariable (a.get "name")⟩
  | "format_event" => some ⟨exactly ["event", "markup"] [], fun a =>
      .formatLine (a.get "event") (a.get "markup")⟩
  | "filter_internal_keys" => some ⟨exactly ["event"] [], fun a => .dropInternal (a.get "event")⟩
  | "setup_logging" => some ⟨exactly [] [("level", .null)], fun a =>
      .setUpLogging (a.get "level")⟩
  | "struct_log" => some ⟨exactly ["level", "event", "fields"] [], fun a =>
      .notice (a.get "level") (a.get "event") (a.get "fields")⟩
  | "std_log" => some ⟨(exactly ["logger", "level", "message"] []).withRest, fun a =>
      .message (a.get "logger") (a.get "level") (a.get "message") a.rest⟩
  | "setattr" => some ⟨exactly ["object", "name", "value"] [], fun a =>
      .assign (a.get "object") (a.get "name") (a.get "value")⟩
  | "is_same" => some ⟨exactly ["a", "b"] [], fun a => .isSame (a.get "a") (a.get "b")⟩
  | "equal" => some ⟨exactly ["a", "b"] [], fun a => .isEqual (a.get "a") (a.get "b")⟩
  | _ => none

/-- The call of a name that has no receiver. -/
def function? (name : String) : Option Callable :=
  (leafFunction name).or ((queryFunction name).or (sessionFunction name))

/-! ### Methods -/

/-- A builder of the clause of a handle. -/
def building (h : Nat) (signature : Signature) (b : Arguments → Builder) : Callable :=
  assembling signature fun a => .build h (b a)

/-- A builder that sets the columns of a trailing projection. -/
def projecting (h : Nat) (kind : ProjectionKind) : Callable :=
  building h ((exactly [] []).withRest.withNamed [("distinct", .bool false)]) fun a =>
    .project kind a.rest (a.get "distinct")

/-- Compiling an object. -/
def compileMethod (h : Nat) : Callable := ⟨exactly [] [], fun _ => .compile (.object h)⟩

/-- The methods of a clause. -/
def clauseMethod (h : Nat) (c : Clause) : String → Option Callable
  | "assign_to_path" => some (building h (exactly ["path"] []) fun a => .path (a.get "path"))
  | "where" | "and_where" => some (building h (exactly ["predicate"] []) fun a =>
      .restrict (a.get "predicate"))
  | "or_where" => some (building h (exactly ["predicate"] []) fun a => .relax (a.get "predicate"))
  | "set" => some (building h (exactly [] []).withRest fun a => .assign a.rest)
  | "remove" => some (building h (exactly [] []).withRest fun a => .remove a.rest)
  | "delete" => some (building h (exactly [] []).withRest fun a => .delete a.rest false)
  | "detach_delete" => some (building h (exactly [] []).withRest fun a => .delete a.rest true)
  | "with_" => some (projecting h .passing)
  | "return_" => some (projecting h .returning)
  | "order_by" => some (building h (exactly [] []).withRest fun a => .orderBy a.rest)
  | "skip" => some (building h (exactly ["value"] []) fun a => .skip (a.get "value"))
  | "limit" => some (building h (exactly ["value"] []) fun a => .limit (a.get "value"))
  | "optional" =>
    match c.head with
    | .read .. => some (building h (exactly [] []) fun _ => .makeOptional)
    | _ => none
  | "build" => some (compileMethod h)
  | "supports" => some ⟨exactly ["name"] [], fun a => .supports h (a.get "name")⟩
  | _ => none

/-- Going on along a path of properties. -/
def propertyMethod (h : Nat) : Callable :=
  assembling (exactly [] []).withRest fun a => .propertyOf (.object h) a.rest

/-- Going on from a pattern to a relationship. -/
def relatedMethod (h : Nat) : Callable :=
  assembling ((exactly [] [("relationship", .null)]).withNamed
      [("type", .null), ("properties", .null), ("direction", .direction .right)])
    fun a => .related (.object h) (a.get "relationship") (a.get "type") (a.get "properties")
      (a.get "direction")

/-- Going on from an open chain to a node. -/
def closingMethod (h : Nat) : Callable :=
  assembling ((exactly ["node"] []).withNamed nodeOptions)
    fun a => .close (.object h) (a.get "node") (a.get "labels") (a.get "properties")

/-- The methods of an environment. -/
def environmentMethod (h : Nat) : String → Option Callable
  | "label_for" => some ⟨exactly ["reference"] [], fun a => .labelFor h (a.get "reference")⟩
  | "key_for" => some ⟨exactly ["param"] [], fun a => .keyFor h (a.get "param")⟩
  | "is_registered" => some ⟨exactly ["item"] [], fun a => .isRegistered h (a.get "item")⟩
  | "parameters" => some ⟨exactly [] [], fun _ => .params h⟩
  | _ => none

/-- The methods of an object that are not those of all objects of a text. -/
def ownMethod (h : Nat) (name : String) : Object → Option Callable
  | .reference _ | .expression (.property ..) =>
    if name = "property" then some (propertyMethod h) else none
  | .pattern _ => if name = "related" then some (relatedMethod h) else none
  | .chain _ => if name = "to" then some (closingMethod h) else none
  | .clause c => clauseMethod h c name
  | .statement _ =>
    match name with
    | "then" => some <| assembling (exactly ["node"] []) fun a => .append h (a.get "node")
    | "build" => some (compileMethod h)
    | _ => none
  | .union .. =>
    match name with
    | "all" => some <| assembling (exactly [] [("enabled", .bool true)])
        fun a => .keepDuplicates h (a.get "enabled")
    | "build" => some (compileMethod h)
    | _ => none
  | .environment .. | .looseEnvironment _ => environmentMethod h name
  | .compiled _ =>
    if name = "as_tuple" then some ⟨exactly [] [], fun _ => .pair h⟩ else none
  | .list _ =>
    if name = "remove" then some ⟨exactly ["value"] [], fun a => .removeItem h (a.get "value")⟩
    else none
  | _ => none

/-- The names of all methods. -/
def methodNames : List String :=
  ["property", "related", "to", "assign_to_path", "where", "and_where", "or_where", "set",
    "remove", "delete", "detach_delete", "with_", "return_", "order_by", "skip", "limit",
    "optional", "all", "then", "build", "get_cypher", "as_tuple", "label_for", "key_for",
    "is_registered", "parameters", "supports", "repr"]

/-- A call of what was assigned in the place of a method. -/
def uncallable : Callable := ⟨((exactly [] []).withRest).withFurther, fun _ => .uncallable⟩

/-- The methods that a method comes down to, itself among them. -/
def comesDownTo (name : String) : List String :=
  if name = "and_where" then ["and_where", "where"] else [name]

/-- The method of a name on an object. -/
def objectMethod? (store : Store) (h : Nat) (name : String) : Option Callable :=
  if (comesDownTo name).any (store.hasAssigned h) then some uncallable
  else if name = Store.writingMethod ∧ store.isCompilable h then
    some ⟨exactly ["env"] [], fun a => .write (.object h) (a.get "env")⟩
  else (store.get? h).bind (ownMethod h name)

/-- The method of a name on a receiver. Every value can be asked for its text in a message. -/
def method? (store : Store) (receiver : Value) (name : String) : Option Callable :=
  if name = "repr" then some ⟨exactly [] [], fun _ => .quoted receiver⟩
  else
    match receiver with
    | .object h => objectMethod? store h name
    | .atom _ _ => none

end Callable

end GraphQuery
