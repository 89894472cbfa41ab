import GraphQuery.Fault
import GraphQuery.Text.Identifier
import GraphQuery.Value.Text

/-!
References and parameters: the leaves of a query tree that have an identity.

A reference stands for a node, a relationship, a path or a variable of the query, a parameter for
a literal that is sent beside it. Neither has a text of its own: the environment of a build gives
each of them a name when it first meets it. Two of them are the same only if they are one object,
so each carries the handle of the object that it is.
-/

namespace GraphQuery

/-- What a name in a query stands for. Each kind has a name stem of its own. -/
inductive Kind where
  | node
  | relationship
  | var
  | path
  | param
  deriving DecidableEq, Repr

namespace Kind

/-- All kinds. -/
def all : List Kind := [node, relationship, var, path, param]

/-- The word for a kind. -/
def word : Kind → String
  | node => "node"
  | relationship => "relationship"
  | var => "variable"
  | path => "path"
  | param => "param"

/-- The kind that a word names. -/
def ofWord? (w : String) : Option Kind :=
  all.find? fun k => k.word = w

end Kind

/-- The class of a reference, with what only references of that class carry. -/
inductive RefClass where
  | node (labels : List Name)
  | relationship (type : Option Name)
  | var
  | path
  /-- A reference that is of no more special class. It is named like a variable. -/
  | plain
  deriving DecidableEq, Repr

/-- A handle on a part of the query. `stem` overrides the name stem of its kind. -/
structure Reference where
  id : Nat
  stem : Option Name
  is : RefClass
  deriving DecidableEq, Repr

namespace Reference

/-- The kind that decides the name stem. -/
def kind (r : Reference) : Kind :=
  match r.is with
  | .node _ => .node
  | .relationship _ => .relationship
  | .var => .var
  | .path => .path
  | .plain => .var

/-- The name of the class. -/
def className (r : Reference) : String :=
  match r.is with
  | .node _ => "Node"
  | .relationship _ => "Relationship"
  | .var => "Variable"
  | .path => "Path"
  | .plain => "Reference"

end Reference

/-- A literal that is sent beside the query. `stem` overrides the stem of parameter keys. -/
structure Param where
  id : Nat
  value : Value
  stem : Option Name
  deriving DecidableEq, Inhabited

/-- What a label can be given to: a reference, or a parameter, which has a key as well. -/
inductive Bearer where
  | reference (r : Reference)
  | param (p : Param)
  deriving DecidableEq

namespace Bearer

/-- The handle of the object. -/
def id : Bearer → Nat
  | reference r => r.id
  | param p => p.id

/-- The stem suggested for the object. -/
def stem : Bearer → Option Name
  | reference r => r.stem
  | param p => p.stem

/-- The kind that decides the name stem. -/
def kind : Bearer → Kind
  | reference r => r.kind
  | param _ => .param

end Bearer

/-! ### Checks of unchecked values -/

/-- The name that a value is, if that name is an identifier. -/
def checkIdentifier (view : ObjectView) (role : String) (v : Value) : Except Fault Name :=
  match v.name?.filter fun n => Text.isIdentifier n.word with
  | some n => .ok n
  | none => do throw (.refused (.identifier role (some (Text.quoted role)) (← v.quoted view)))

/-- A suggested name stem: nothing, or an identifier. -/
def checkStem (view : ObjectView) (role : String) (v : Value) : Except Fault (Option Name) :=
  match v.given? with
  | none => .ok none
  | some v => some <$> checkIdentifier view role v

/-- A label: a text that is not empty. -/
def checkLabel (view : ObjectView) (role : String) (v : Value) : Except Fault Name :=
  match v.name?.filter fun n => !n.word.isEmpty with
  | some n => .ok n
  | none => do throw (.refused (.label role (← v.quoted view)))

/-- The type of a relationship reference: nothing, or a text. -/
def checkType (view : ObjectView) (v : Value) : Except Fault (Option Name) :=
  match v.given?, v.name? with
  | none, _ => .ok none
  | some _, some n => .ok (some n)
  | some v, none => do throw (.refused (.relationshipType (← v.quoted view)))

end GraphQuery
