import GraphQuery.Store.Basic

/-!
Assigning attributes of objects.

* References and parameters cannot be changed, nor can the fields of a compiled query.
* Expressions, columns, sort items and patterns have their parts and no other attributes. What is
  assigned to a part is not checked; it shows when the object is written.
* A record of settings has its fields. Attributes that begin with an underscore are its own matter.
* Clauses, statements, unions, environments, errors and handlers take any attribute, except those
  that are worked out from others. What stands in the place of a part or a method is noted in the
  store; most of what is taken means nothing at all.
* No value is a class, so the class of an object cannot be changed.
-/

namespace GraphQuery

namespace Expression

/-- The expression with a part assigned. -/
def assign? (name : String) (v : Value) : Expression → Option Expression
  | property base path =>
    match name with
    | "_reference" => some (property v path)
    | "_path" => some (property base (.assigned v))
    | _ => none
  | comparison operator left right =>
    match name with
    | "operator" => some (comparison v left right)
    | "left" => some (comparison operator v right)
    | "right" => some (comparison operator left v)
    | _ => none
  | junction operator operands =>
    match name with
    | "operator" => some (junction v operands)
    | "operands" => some (junction operator (.assigned v))
    | _ => none
  | negation _ => if name = "operand" then some (negation v) else none
  | call callee arguments =>
    match name with
    | "name" => some (call v arguments)
    | "args" => some (call callee (.assigned v))
    | _ => none

end Expression

/-- The column with a part assigned. -/
def Column.assign? (name : String) (v : Value) (c : Column) : Option Column :=
  match name with
  | "expression" => some { c with expression := v }
  | "alias" => some { c with name := v }
  | _ => none

/-- The sort item with a part assigned. -/
def SortItem.assign? (name : String) (v : Value) (i : SortItem) : Option SortItem :=
  match name with
  | "expression" => some { i with expression := v }
  | "direction" => some { i with order := v }
  | _ => none

/-- The node of a pattern with a part assigned. -/
def NodeElement.assign? (name : String) (v : Value) (n : NodeElement) : Option NodeElement :=
  match name with
  | "reference" => some { n with node := .assigned v }
  | "labels" => some { n with labels := .assigned v }
  | "properties" => some { n with properties := .assigned v }
  | _ => none

/-- The relationship of a pattern with a part assigned. -/
def RelationshipElement.assign? (name : String) (v : Value) (r : RelationshipElement) :
    Option RelationshipElement :=
  match name with
  | "reference" => some { r with relationship := .assigned v }
  | "type" => some { r with type := v }
  | "properties" => some { r with properties := .assigned v }
  | "direction" => some { r with direction := .assigned v }
  | _ => none

/-- The open chain with a part assigned. -/
def OpenChain.assign? (name : String) (v : Value) (c : OpenChain) : Option OpenChain :=
  match name with
  | "_elements" => some { c with elements := .assigned v }
  | "_pending" => some { c with pending := .given v }
  | _ => none

/-- The clause with an attribute assigned. What was in its slots is gone with them. -/
def Clause.assign? (name : String) (v : Value) (c : Clause) : Option Clause :=
  match name, c.head with
  | "_capabilities", _ => some c.emptied
  | "populated_capabilities", _ => none
  | "patterns", .read .. | "patterns", .create _ | "is_optional", .read .. => none
  | "_optional", .read optionalClass _ patterns =>
    some { c with head := .read optionalClass v patterns }
  | _, _ => some c

/-- The naming of an environment with an attribute assigned. -/
def Naming.assign? (name : String) (v : Value) (n : Naming) : Option Naming :=
  match name with
  | "size" => none
  | "separator" => some { n with separator := v }
  | "_unsuffixed_first" => some { n with bareFirst := v }
  | _ => some n

/-- The loose environment with an attribute assigned. -/
def LooseEnvironment.assign? (name : String) (v : Value) (e : LooseEnvironment) :
    Option LooseEnvironment :=
  match name with
  | "size" => none
  | "separator" => some { e with separator := v }
  | "_unsuffixed_first" => some { e with bareFirst := v }
  | "_prefixes" => some { e with stems := v }
  | "_counter" => some { e with counter := v }
  | "_issued" => some { e with issued := .assigned v }
  | "_labels" => some { e with labels := v }
  | "_keys" => some { e with keys := v }
  | "_params" => some { e with params := v }
  | _ => some e

/-- The attributes of an environment that only a loose one can have assigned. -/
def looseAttributes : List String :=
  ["_prefixes", "_counter", "_issued", "_labels", "_keys", "_params", "label_for", "key_for",
    "_allocate", Object.tableAttribute]

/-- The name of an attribute that is an object's own matter. -/
def isOwnMatter (name : String) : Bool := name.toList.head? == some '_'

namespace Settings

/-- Attributes of a record of settings that are worked out from others. -/
def derived : List String := ["model_extra", "model_fields_set"]

/-- The record with an attribute assigned, without any check of the value. -/
def assign (name : String) (v : Value) (s : Settings) : Except Fault Settings :=
  if isOwnMatter name then .ok s
  else
    match Setting.ofName? name with
    | some field => .ok (s.set field v)
    | none => .error (if derived.contains name then .missing else .wrongValue)

end Settings

/-- The error with an attribute assigned. Its arguments have to be a collection, and what it came of
has to be an error. -/
def ErrorRecord.assign (view : ObjectView) (name : String) (v : Value) (e : ErrorRecord) :
    Except Fault ErrorRecord :=
  match name with
  | "message" => .ok { e with message := v }
  | "details" => .ok { e with details := v }
  | "args" =>
    (v.items? view).elim (.error .wrongType) fun items => .ok { e with arguments := items }
  | "__cause__" | "__context__" =>
    if v.isNull || classNames.contains (v.typeName view) then .ok e else .error .wrongType
  | "__traceback__" => if v.isNull then .ok e else .error .wrongType
  | "__suppress_context__" => if v.typeName view = "bool" then .ok e else .error .wrongType
  | _ => .ok e

/-- The handler with an attribute assigned. Its name has to be one that it can be found by. -/
def LogHandler.assign (view : ObjectView) (name : String) (v : Value) (h : LogHandler) :
    Except Fault LogHandler :=
  match name with
  | "level" => .ok { h with level := v }
  | "name" => if v.truth view && !v.hashable view then .error .wrongType else .ok h
  | _ => .ok h

namespace Object

/-- What an assignment comes to: the object has no such attribute if it comes to nothing. -/
def assigned {α : Type} (make : α → Object) : Option α → Except Fault Object
  | some a => .ok (make a)
  | none => .error .missing

/-- The object with an attribute assigned, which is not its class. -/
def assignAttribute (view : ObjectView) (name : String) (v : Value) :
    Object → Except Fault Object
  | list _ | tuple _ | dict _ => .error .missing
  | reference _ | param _ => .error .frozen
  | expression e => assigned expression (e.assign? name v)
  | column c => assigned column (c.assign? name v)
  | sortItem i => assigned sortItem (i.assign? name v)
  | nodeElement n => assigned nodeElement (n.assign? name v)
  | relationshipElement r => assigned relationshipElement (r.assign? name v)
  | pattern _ => if name = "_elements" then .ok (pattern ⟨.assigned v⟩) else .error .missing
  | chain c => assigned chain (c.assign? name v)
  | clause c => assigned clause (c.assign? name v)
  | fragment holder slot => .ok (fragment holder slot)
  | statement nodes => if name = "nodes" then .error .missing else .ok (statement nodes)
  | union branches all =>
    match name with
    | "branches" | "keeps_duplicates" => .error .missing
    | "_all" => .ok (union branches v)
    | _ => .ok (union branches all)
  | environment n l => assigned (environment · l) (n.assign? name v)
  | looseEnvironment e => assigned looseEnvironment (e.assign? name v)
  | settings s => settings <$> s.assign name v
  | compiled q =>
    if isOwnMatter name then .ok (compiled q)
    else .error (.invalid [⟨name, "frozen_instance", "Instance is frozen"⟩])
  | error e => error <$> e.assign view name v
  | handler h => handler <$> h.assign view name v

/-- The object never changes. -/
def isFrozen : Object → Bool
  | reference _ | param _ => true
  | _ => false

/-- The attribute that is the class of an object. -/
def classAttribute : String := "__class__"

/-- The attribute by which an object is found, which is its own matter. -/
def placeAttribute : String := "__weakref__"

/-- The object keeps its attributes in a table, which can be another one. All others have fixed
attributes. -/
def hasTable : Object → Bool
  | clause _ | statement _ | union .. | environment .. | looseEnvironment _ | settings _
  | compiled _ | error _ | handler _ => true
  | _ => false

/-- The object with an attribute assigned. Only a dictionary can be the table of attributes. -/
def assign (view : ObjectView) (name : String) (v : Value) (o : Object) : Except Fault Object :=
  if name = classAttribute ∧ !o.isFrozen then .error .wrongType
  else if name = tableAttribute ∧ o.hasTable ∧ (v.entries? view).isNone then .error .wrongType
  else if name = placeAttribute ∧ o.hasTable then .error .missing
  else o.assignAttribute view name v

end Object

end GraphQuery
