import GraphQuery.Tree

/-!
Patterns: chains of nodes and relationships such as `(a:Movie)<-[r:ACTED_IN]-(b)`.

A finished pattern starts and ends on a node. A chain that ends on a relationship is open: it can
only be closed with a further node. Property values are always sent as parameters.
-/

namespace GraphQuery

/-- An attribute of an object: as it was made, or whatever was assigned to it later. -/
inductive Attribute (α : Type) where
  | made (a : α)
  | assigned (v : Value)
  deriving Inhabited

/-- What an attribute comes to, given what a value does. -/
def Attribute.resolve {α β : Type} (ofMade : α → β) (ofValue : Value → β) : Attribute α → β
  | made a => ofMade a
  | assigned v => ofValue v

/-- A node as it stands in a pattern, with the labels and properties of this place. -/
structure NodeElement where
  node : Attribute Reference
  labels : Attribute (List Name)
  properties : Attribute (List (Name × Param))

/-- A relationship as it stands in a pattern. Its type is not checked. -/
structure RelationshipElement where
  relationship : Attribute Reference
  type : Value
  properties : Attribute (List (Name × Param))
  direction : Attribute Direction

/-- An element of a chain. -/
inductive Element where
  | node (n : NodeElement)
  | relationship (r : RelationshipElement)
  /-- Whatever was given as an element. -/
  | given (v : Value)

/-- A chain whose last element is a node. -/
structure Pattern where
  elements : Attribute (List Element)

/-- A chain that waits for its closing node. -/
structure OpenChain where
  elements : Attribute (List Element)
  pending : Element

/-- The pattern of a single node. -/
def Pattern.single (n : NodeElement) : Pattern := ⟨.made [.node n]⟩

/-- The pattern continued by a relationship, to be closed with a node. -/
def Pattern.related (p : Pattern) (r : RelationshipElement) : OpenChain :=
  ⟨p.elements, .relationship r⟩

/-- The elements that a chain runs through, if it runs through any. -/
def elementsOf? (view : ObjectView) : Attribute (List Element) → Option (List Element)
  | .made elements => some elements
  | .assigned v => (v.items? view).map (·.map .given)

/-- The chain closed with a node. -/
def OpenChain.close? (view : ObjectView) (c : OpenChain) (n : NodeElement) : Option Pattern :=
  (elementsOf? view c.elements).map fun elements => ⟨.made (elements ++ [c.pending, .node n])⟩

end GraphQuery
