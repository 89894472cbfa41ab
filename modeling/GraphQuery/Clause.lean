import GraphQuery.Projection

/-!
Clauses: a mandatory head and the optional fragments that builders add to it.

A clause reads patterns, creates them, or is a projection. What else it can carry is its manifest:
a list of slots, one per kind of fragment. A builder first asks the manifest, then changes the slot
it is for. A slot exists from the first builder call that reaches it, even when nothing is in it
yet; an empty slot is not written.

How repeated calls combine:

* predicates are joined, by `AND` or by `OR`;
* assignments, removals, deletions and sort items are appended;
* the columns of a projection, the path, and the row counts are replaced, and a projection keeps
  its ordering.

A builder answers the clause afterwards together with the fault that ended the call, if one did:
the entries in front of a faulty one have been taken over by then.
-/

namespace GraphQuery

/-- The kinds of optional fragment. -/
inductive Slot where
  | path
  | filter
  | assignment
  | removal
  | deletion
  | passing
  | returning
  deriving DecidableEq, Repr

namespace Slot

/-- All slots. -/
def all : List Slot := [path, filter, assignment, removal, deletion, passing, returning]

/-- The name of a slot. -/
def name : Slot → String
  | path => "path"
  | filter => "where"
  | assignment => "set"
  | removal => "remove"
  | deletion => "delete"
  | passing => "with"
  | returning => "return"

/-- The name of the class of what is in a slot. -/
def className : Slot → String
  | path => "PathBinding"
  | filter => "Filter"
  | assignment => "Mutation"
  | removal => "Removal"
  | deletion => "Deletion"
  | passing => "WithProjection"
  | returning => "ReturnProjection"

/-- The slot of a trailing projection. -/
def ofProjection : ProjectionKind → Slot
  | .passing => passing
  | .returning => returning

end Slot

/-- What a clause is in the first place. Patterns are given by their handles. -/
inductive Head where
  /-- `MATCH` or `OPTIONAL MATCH`: by class from the start, or on demand by the truth of a value. -/
  | read (optionalClass : Bool) (isOptional : Value) (patterns : List Nat)
  /-- `CREATE`. -/
  | create (patterns : List Nat)
  /-- A projection that stands alone. -/
  | project (projection : Projection)

namespace Head

/-- The name of the class of the clause. -/
def className : Head → String
  | read false _ _ => "Match"
  | read true _ _ => "OptionalMatch"
  | create _ => "Create"
  | project p => p.kind.className

/-- The slots of the clause, in the order in which their fragments are written. -/
def manifest : Head → List Slot
  | read _ _ _ => [.path, .filter, .assignment, .removal, .deletion, .passing, .returning]
  | create _ => [.path, .assignment, .returning]
  | project p =>
    match p.kind with
    | .passing => [.filter]
    | .returning => []

/-- The patterns of the clause. -/
def patterns : Head → List Nat
  | read _ _ patterns => patterns
  | create patterns => patterns
  | project _ => []

end Head

/-- References to delete, with or without their relationships. -/
structure Deletion where
  references : List Reference
  detach : Bool

/-- A clause: its head and its slots. Predicates, properties and values are given by the values that
stand for them. -/
structure Clause where
  head : Head
  path : Option (Option Reference)
  filter : Option Value
  assignments : Option (List (Value × Value))
  removals : Option (List Value)
  deletion : Option Deletion
  passing : Option Projection
  returning : Option Projection

/-- A clause after a builder call, and the fault that ended the call. -/
structure Built where
  clause : Clause
  fault? : Option Fault

namespace Clause

/-- The clause that is nothing but its head. -/
def ofHead (head : Head) : Clause :=
  ⟨head, none, none, none, none, none, none, none⟩

/-- The name of the class. -/
def className (c : Clause) : String := c.head.className

/-- The clause can carry the fragment. -/
def supports (c : Clause) (slot : Slot) : Bool := c.head.manifest.contains slot

/-- The slot exists. -/
def has (c : Clause) : Slot → Bool
  | .path => c.path.isSome
  | .filter => c.filter.isSome
  | .assignment => c.assignments.isSome
  | .removal => c.removals.isSome
  | .deletion => c.deletion.isSome
  | .passing => c.passing.isSome
  | .returning => c.returning.isSome

/-- The clause with nothing in its slots. -/
def emptied (c : Clause) : Clause := .ofHead c.head

/-- The slots that builders have reached, in the order of the manifest. -/
def populated (c : Clause) : List Slot := c.head.manifest.filter c.has

/-! ### Builders -/

/-- The call leaves the clause as it was. -/
def refuse (c : Clause) (f : Fault) : Built := ⟨c, some f⟩

/-- The fault of asking for a fragment that the clause does not have. -/
def unsupported (c : Clause) (slot : Slot) : Fault :=
  .refused (.unsupported c.className slot.name
    (c.head.manifest.map fun slot => Text.quoted slot.name))

/-- Changes the clause if it has the slot. -/
def onSlot (c : Clause) (slot : Slot) (change : Clause → Built) : Built :=
  if c.supports slot then change c else c.refuse (c.unsupported slot)

/-- Binds the pattern to a path. The slot exists even when what was given is no path. -/
def bindPath (c : Clause) (path : Except Fault Reference) : Built :=
  if c.supports .path && 1 < c.head.patterns.length then
    c.refuse (.refused (.sharedPath c.head.patterns.length))
  else
    c.onSlot .path fun c =>
      match path with
      | .ok r => ⟨{ c with path := some (some r) }, none⟩
      | .error f => ⟨{ c with path := some (c.path.join) }, some f⟩

/-- Puts a predicate in the place of the filter. -/
def filterBy (c : Clause) (predicate : Except Fault Value) : Built :=
  c.onSlot .filter fun c =>
    match predicate with
    | .ok v => ⟨{ c with filter := some v }, none⟩
    | .error f => ⟨c, some f⟩

/-- Adds assignments of values to properties. -/
def assign (c : Clause) (entries : List (Value × Value)) (fault? : Option Fault) : Built :=
  c.onSlot .assignment fun c =>
    ⟨{ c with assignments := some (c.assignments.getD [] ++ entries) }, fault?⟩

/-- Adds properties to remove. -/
def removeProperties (c : Clause) (properties : List Value) (fault? : Option Fault) : Built :=
  c.onSlot .removal fun c =>
    ⟨{ c with removals := some (c.removals.getD [] ++ properties) }, fault?⟩

/-- Adds references to delete. Once asked for, relationships are deleted with all of them. -/
def delete (c : Clause) (references : List Reference) (detach : Bool) (fault? : Option Fault) :
    Built :=
  c.onSlot .deletion fun c =>
    let before := c.deletion.getD ⟨[], false⟩
    ⟨{ c with deletion := some ⟨before.references ++ references,
        before.detach || (detach && fault?.isNone)⟩ }, fault?⟩

/-- The trailing projection of a kind. -/
def projection? (c : Clause) : ProjectionKind → Option Projection
  | .passing => c.passing
  | .returning => c.returning

/-- The clause with a trailing projection. -/
def withProjection (c : Clause) (p : Projection) : Clause :=
  match p.kind with
  | .passing => { c with passing := some p }
  | .returning => { c with returning := some p }

/-- Sets the columns of a trailing projection. -/
def project (c : Clause) (kind : ProjectionKind) (columns : Except Fault (List Column))
    (distinct : Value) : Built :=
  c.onSlot (.ofProjection kind) fun c =>
    match columns with
    | .error f => ⟨c, some f⟩
    | .ok columns =>
      let before := (c.projection? kind).getD ⟨kind, [], .bool false, .unordered⟩
      ⟨c.withProjection (before.replace columns distinct), none⟩

/-- The clause with the ordering changed of the projection that an ordering belongs to: its own, or
else the one that is returned, or else the one that is handed on. -/
def mapOrdering? (c : Clause) (f : Ordering → Ordering) : Option Clause :=
  match c.head, c.returning, c.passing with
  | .project p, _, _ => some { c with head := .project { p with ordering := f p.ordering } }
  | _, some p, _ => some { c with returning := some { p with ordering := f p.ordering } }
  | _, none, some p => some { c with passing := some { p with ordering := f p.ordering } }
  | _, none, none => none

/-- Changes the ordering, if there is a projection to order. -/
def onOrdering (c : Clause) (f : Ordering → Ordering) (fault? : Option Fault) : Built :=
  match c.mapOrdering? f with
  | some c => ⟨c, fault?⟩
  | none => c.refuse (.refused (.nothingToOrder c.className))

/-- Adds sort items. -/
def orderBy (c : Clause) (items : List SortItem) (fault? : Option Fault) : Built :=
  c.onOrdering (fun o => { o with sortItems := o.sortItems ++ items }) fault?

/-- Sets how many rows are skipped. -/
def skip (c : Clause) : Except Fault Param → Built
  | .ok count => c.onOrdering (fun o => { o with skip := some count }) none
  | .error f => c.onOrdering id (some f)

/-- Sets how many rows are kept. -/
def limit (c : Clause) : Except Fault Param → Built
  | .ok count => c.onOrdering (fun o => { o with limit := some count }) none
  | .error f => c.onOrdering id (some f)

/-- Lets the patterns of a reading clause be absent. -/
def makeOptional? (c : Clause) : Option Clause :=
  match c.head with
  | .read optionalClass _ patterns =>
    some { c with head := .read optionalClass (.bool true) patterns }
  | _ => none

end Clause

end GraphQuery
