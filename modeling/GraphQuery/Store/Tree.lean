import GraphQuery.Store.Reassigned

/-!
The tree of an object: the object as it is written at present, with all its parts looked up.

Objects can contain themselves once they have been changed. A handle is used up on the way from an
object to its parts, so such an object has a tree all the same; it ends on a fault where the object
is met again.

* `Store.tree`: the tree of an object.
* `Store.template`: its template.
-/

namespace GraphQuery

namespace Store

/-- The tree that values make, or the fault that is met in their place. -/
def ofValues (values : Except Fault (List Value)) (make : List Value → Tree) : Tree :=
  match values with
  | .ok values => make values
  | .error f => .stuck [] f

/-- An object as a tree, given the trees of its parts. What cannot stand in a query cannot be
written. -/
def treeOf (s : Store) (inner : Value → Tree) (h : Nat) : Object → Tree
  | .reference r => .label (.reference r)
  | .param p => .key p
  | .expression e => e.tree s.view inner
  | .column c => c.tree inner s.variableOf?
  | .sortItem i => i.tree s.view inner
  | .nodeElement n => n.tree s.view s.bearer inner
  | .relationshipElement r => r.tree s.view s.bearer inner
  | .pattern p => p.tree s.view s.bearer inner
  | .clause c =>
    if s.isReassigned h then s.reassignedClause inner h c else s.clauseTree inner c
  | .fragment holder slot =>
    match s.get? holder with
    | some (.clause c) => s.heldTree inner c slot
    | _ => .stuck [] .missing
  | .statement nodes => ofValues (s.nodesOf h nodes) fun nodes => .statement (nodes.map inner)
  | .union branches all => ofValues (s.branchesOf h branches) fun branches =>
    .union (s.unionKeyword all) (branches.map inner)
  | _ => .stuck [] .missing

/-- The tree of a value, when only the handles in `unused` may be looked up and no more than `depth`
of them. -/
def treeWithin (s : Store) : Nat → List Nat → Value → Tree
  | _, _, .atom _ _ => .stuck [] .missing
  | 0, _, .object _ => .stuck [] .endless
  | depth + 1, unused, .object h =>
    if unused.contains h then
      if s.hasAssigned h writingMethod then .stuck [] .wrongType
      else if s.isLacking h then .stuck [] .missing
      else match s.get? h with
      | some o => s.treeOf (s.treeWithin depth (unused.erase h)) h o
      | none => .stuck [] .missing
    else .stuck [] .endless

/-- The tree of an object. -/
def tree (s : Store) (h : Nat) : Tree :=
  s.treeWithin s.next (List.range s.next) (.object h)

/-- How an object is written. -/
def template (s : Store) (h : Nat) : Template := (s.tree h).template

end Store

end GraphQuery
