import GraphQuery.Clause
import GraphQuery.Settings.Basic

/-!
The store: all objects that calls have made, by their handles.

Every object is a shallow record: what it is made of it holds by handle, so whoever holds an object
sees every change of it. References and parameters never change. All other objects can, by builders,
by assigning their attributes, or because entries are taken out of them. A handle is an index, so a
new object only ever refers to older ones.

An attribute that is assigned stands in the place of whatever the object has of that name, a method
included. The store keeps what was assigned beside the objects, the latest first. When the whole
table of attributes of an object is assigned, the object has no other attributes until it is
assigned some.
-/

namespace GraphQuery

/-- A compiled query: its text, and the value of every key in it. -/
structure CompiledQuery where
  text : String
  params : List (Value × Value)

/-- An error as an object, made on demand from a class name, a message and details. `arguments`
holds what it was made with at first: its message. -/
structure ErrorRecord where
  className : String
  arguments : List Value
  message : Value
  details : Value

/-- The names of the classes of errors. -/
def ErrorRecord.classNames : List String :=
  ["CypherComposeError", "ConstructionError", "UnionArityError", "UnsupportedCapabilityError",
    "PatternError", "InvalidIdentifierError", "ExpressionError"]

/-- A log handler: whether it is the one for consoles, its level, and the time stamp of the messages
that it puts into lines itself. There is none if the form of time stamps does not give one. -/
structure LogHandler where
  console : Bool
  level : Value
  stamp? : Option String

/-- The name of the class of a handler. -/
def LogHandler.className (h : LogHandler) : String :=
  if h.console then "RichHandler" else "StreamHandler"

/-- An environment of which parts have been assigned. Each part is what stands in its place: tables
are dictionaries as a rule, and the names in use are a set unless they were assigned. -/
structure LooseEnvironment where
  stems : Value
  bareFirst : Value
  separator : Value
  counter : Value
  issued : Attribute (List Value)
  labels : Value
  keys : Value
  params : Value
  mark : Nat

/-- An object. -/
inductive Object where
  | list (items : List Value)
  | tuple (items : List Value)
  | dict (entries : List (Value × Value))
  | reference (r : Reference)
  | param (p : Param)
  | expression (e : Expression)
  | column (c : Column)
  | sortItem (i : SortItem)
  | nodeElement (n : NodeElement)
  | relationshipElement (r : RelationshipElement)
  | pattern (p : Pattern)
  | chain (c : OpenChain)
  | clause (c : Clause)
  /-- What is in a slot, on its own. It is held by a clause that nothing else is known of. -/
  | fragment (holder : Nat) (slot : Slot)
  | statement (nodes : List Nat)
  | union (branches : List Nat) (all : Value)
  | environment (n : Naming) (l : Ledger)
  | looseEnvironment (e : LooseEnvironment)
  | settings (s : Settings)
  | compiled (q : CompiledQuery)
  | error (e : ErrorRecord)
  | handler (h : LogHandler)

namespace Object

/-- The name of the class. -/
def className : Object → String
  | list _ => "list"
  | tuple _ => "tuple"
  | dict _ => "dict"
  | reference r => r.className
  | param _ => "Param"
  | expression e => e.className
  | column _ => "ProjectionColumn"
  | sortItem _ => "SortItem"
  | nodeElement _ => "NodeElement"
  | relationshipElement _ => "RelationshipElement"
  | pattern _ => "Pattern"
  | chain _ => "PartialPattern"
  | clause c => c.className
  | fragment _ slot => slot.className
  | statement _ => "Statement"
  | union .. => "Union"
  | environment .. | looseEnvironment _ => "Environment"
  | settings _ => "CypherComposeSettings"
  | compiled _ => "CompiledQuery"
  | error e => e.className
  | handler h => h.className

/-- The object can stand in a query. -/
def isCompilable : Object → Bool
  | reference _ | param _ | expression _ | column _ | sortItem _ | nodeElement _
  | relationshipElement _ | pattern _ | clause _ | fragment .. | statement _ | union .. => true
  | _ => false

/-- The object is a clause, a statement or a union. -/
def isQuery : Object → Bool
  | clause _ | statement _ | union .. => true
  | _ => false

/-- The attributes in the table of an object that it cannot do without. -/
def needed : Object → List String
  | clause c =>
    match c.head with
    | .read .. => ["_capabilities", "_patterns", "_optional"]
    | .create _ => ["_capabilities", "_patterns"]
    | .project _ => ["_capabilities", "_projection"]
  | statement _ => ["_nodes"]
  | union .. => ["_branches", "_all"]
  | environment .. | looseEnvironment _ =>
    ["_prefixes", "_unsuffixed_first", "separator", "_counter", "_issued", "_labels", "_keys",
      "_params"]
  | settings _ => Setting.all.map Setting.name
  | compiled _ => ["text", "params"]
  | error _ => ["message", "details"]
  | handler _ => ["level", "filters", "lock", "formatter", "stream", "console"]
  | _ => []

/-- The attribute that is the table of all attributes of an object. -/
def tableAttribute : String := "__dict__"

/-- What the object holds when it is taken as a collection. -/
def content : Object → Content
  | list items => .list items
  | tuple items => .tuple items
  | dict entries => .dict entries
  | settings _ => .record Setting.all.length
  | compiled _ => .record 2
  | _ => .nothing

end Object

/-- An attribute that was assigned to an object. -/
structure Assignment where
  holder : Nat
  name : String
  value : Value

/-- All objects, by handle, and the attributes that were assigned to them. -/
structure Store where
  objects : Array Object
  assignments : List Assignment

namespace Store

/-- The store without objects. -/
def empty : Store := ⟨#[], []⟩

/-- The object of a handle. -/
def get? (s : Store) (h : Nat) : Option Object := s.objects[h]?

/-- The handle that the next object gets. -/
def next (s : Store) : Nat := s.objects.size

/-- The store with a further object. Its handle is `s.next`. -/
def push (s : Store) (o : Object) : Store := { s with objects := s.objects.push o }

/-- The store with the object of a handle replaced. -/
def replace (s : Store) (h : Nat) (o : Object) : Store :=
  { s with objects := s.objects.setIfInBounds h o }

/-- The object that a value stands for. -/
def object? (s : Store) : Value → Option Object
  | .object h => s.get? h
  | .atom _ _ => none

/-- The name of the class of an object. -/
def className (s : Store) (h : Nat) : String := (s.get? h).elim "object" Object.className

/-- What an object holds when it is taken as a collection. -/
def content (s : Store) (h : Nat) : Content := (s.get? h).elim .nothing Object.content

/-! ### Assigned attributes -/

/-- The store with an attribute assigned to an object. -/
def noteAssignment (s : Store) (h : Nat) (name : String) (v : Value) : Store :=
  { s with assignments := ⟨h, name, v⟩ :: s.assignments }

/-- The latest assignment to an object that concerns a name: that of the attribute, or that of the
table of all attributes. -/
def latest? (s : Store) (h : Nat) (name : String) : Option Assignment :=
  s.assignments.find? fun a => a.holder == h && (a.name == name || a.name == Object.tableAttribute)

/-- What was assigned to an object under a name. -/
def assigned? (s : Store) (h : Nat) (name : String) : Option Value :=
  ((s.latest? h name).filter (·.name == name)).map (·.value)

/-- An attribute of an object is gone with the table that it was in. -/
def isGone (s : Store) (h : Nat) (name : String) : Bool :=
  (s.latest? h name).any (·.name != name)

/-- An object lacks something that it cannot do without. -/
def isLacking (s : Store) (h : Nat) : Bool :=
  (s.get? h).any fun o => o.needed.any (s.isGone h)

/-- Something was assigned to an object under a name. -/
def hasAssigned (s : Store) (h : Nat) (name : String) : Bool := (s.assigned? h name).isSome

/-- Something was assigned to an object. -/
def isReassigned (s : Store) (h : Nat) : Bool := s.assignments.any (·.holder == h)

/-- The name under which an object is asked for its text in a query. -/
def writingMethod : String := "get_cypher"

/-- The object can be asked for its text in a query, even if it cannot answer. -/
def isWritable (s : Store) (h : Nat) : Bool :=
  (s.get? h).any Object.isCompilable || s.hasAssigned h writingMethod

/-- The object can stand in a query. -/
def isCompilable (s : Store) (h : Nat) : Bool :=
  (s.get? h).any Object.isCompilable || (s.assigned? h writingMethod).any (!·.isNull)

end Store

end GraphQuery
