import GraphQuery.Store.View

/-!
The parts of queries as trees, given the trees of the values that they are made of.
-/

namespace GraphQuery

/-! ### Attributes -/

/-- The names that a value runs through. Nothing but texts are names. -/
def Value.names (view : ObjectView) (v : Value) : Except Fault (List Name) :=
  match v.items? view with
  | some items => items.mapM fun v => v.name?.elim (.error .wrongType) .ok
  | none => .error .wrongType

/-- The names that an attribute holds. -/
def Attribute.names (view : ObjectView) (a : Attribute (List Name)) : Except Fault (List Name) :=
  a.resolve .ok (Value.names view)

/-- The values that an attribute holds, if it can be run through. -/
def Attribute.values? (view : ObjectView) (a : Attribute (List Value)) : Option (List Value) :=
  a.resolve some (Value.items? view)

/-- A pair of a name and a value, as an item of properties. -/
def Value.property (view : ObjectView) (v : Value) : Except Fault (Name × Value) :=
  match v.items? view with
  | some [key, value] => key.name?.elim (.error .wrongType) fun n => .ok (n, value)
  | some _ => .error .wrongValue
  | none => .error .wrongType

/-- Items as far as they pass, and the fault of the first that does not. -/
def passing {α β : Type} (pass : α → Except Fault β) : List α → List β × Option Fault
  | [] => ([], none)
  | a :: rest =>
    match pass a with
    | .ok b => (b :: (passing pass rest).1, (passing pass rest).2)
    | .error f => ([], some f)

/-- The properties that a value runs through, as far as they are any. What counts as false has
none. -/
def Value.properties (view : ObjectView) (v : Value) : List (Name × Value) × Option Fault :=
  if v.truth view then
    match v.items? view with
    | some items => passing (Value.property view) items
    | none => ([], some .wrongType)
  else ([], none)

/-! ### Parts of queries -/

section Parts

/- How objects look, what values are as bearers of labels, and the trees of the values that are
parts. -/
variable (view : ObjectView) (bearer : Value → Except Fault Bearer) (inner : Value → Tree)

/-- A parameter as a tree. -/
def propertyTree (p : Name × Param) : Name × Tree := (p.1, .key p.2)

/-- The properties of an element as trees, as far as they are any. -/
def propertyTrees (a : Attribute (List (Name × Param))) : List (Name × Tree) × Option Fault :=
  a.resolve (fun ps => (ps.map propertyTree, none)) fun v =>
    let (entries, fault?) := v.properties view
    (entries.map fun e => (e.1, inner e.2), fault?)

/-- A node of a pattern as a tree. -/
def NodeElement.tree (n : NodeElement) : Tree :=
  match n.node.resolve (fun r => .ok (.reference r)) bearer with
  | .error f => .stuck [] f
  | .ok b =>
    match n.labels.names view, propertyTrees view inner n.properties with
    | .error f, _ => .stuck [.label b] f
    | .ok labels, (properties, none) => .node b labels properties
    | .ok _, (properties, some f) => .stuck (.label b :: properties.map (·.2)) f

/-- The direction that an attribute is: what is none does not point. -/
def directionOf : Attribute Direction → Direction
  | .made d => d
  | .assigned (.atom (.direction d) _) => d
  | .assigned _ => .undirected

/-- The type that a value is: what counts as false is none. -/
def typeOf (v : Value) : Except Fault (Option Name) :=
  if v.truth view then v.name?.elim (.error .wrongType) fun n => .ok (some n) else .ok none

/-- A relationship of a pattern as a tree. -/
def RelationshipElement.tree (r : RelationshipElement) : Tree :=
  match r.relationship.resolve (fun r => .ok (.reference r)) bearer with
  | .error f => .stuck [] f
  | .ok b =>
    match typeOf view r.type, propertyTrees view inner r.properties with
    | .error f, _ => .stuck [.label b] f
    | .ok type, (properties, none) => .relationship b type properties (directionOf r.direction)
    | .ok _, (properties, some f) => .stuck (.label b :: properties.map (·.2)) f

/-- An element of a chain as a tree. -/
def Element.tree : Element → Tree
  | .node n => n.tree view bearer inner
  | .relationship r => r.tree view bearer inner
  | .given v => inner v

/-- A pattern as a tree. -/
def Pattern.tree (p : Pattern) : Tree :=
  match elementsOf? view p.elements with
  | some elements => .pattern (elements.map (Element.tree view bearer inner))
  | none => .stuck [] .wrongType

/-- An expression as a tree. What stands for an operator or a name has to have a text. -/
def Expression.tree : Expression → Tree
  | .property base path =>
    match path.names view with
    | .ok names => .property (inner base) names
    | .error f => .stuck [] f
  | .comparison operator left right =>
    match operator.plain view, right.given? with
    | .ok s, none => .check s (inner left)
    | .ok s, some right => .comparison s (inner left) (inner right)
    | .error f, _ => .stuck [inner left] f
  | .junction operator operands =>
    match operator.plain view, operands.values? view with
    | .ok s, some operands => .junction s (operands.map inner)
    | .ok _, none => .stuck [] .wrongType
    | .error f, _ => .stuck [] f
  | .negation operand => .negation (inner operand)
  | .call name arguments =>
    match arguments.values? view, name.plain view with
    | some arguments, .ok s => .call s (arguments.map inner)
    | some arguments, .error f => .stuck [.call "" (arguments.map inner)] f
    | none, _ => .stuck [] .wrongType

/-- A column as a tree. A variable that is the name of a column is a bearer of a label. -/
def Column.tree (variableOf : Value → Option Bearer) (c : Column) : Tree :=
  match c.expression.given?, c.name.given? with
  | none, _ => .star
  | some e, none => .column (inner e)
  | some e, some name =>
    match variableOf name, name.name? with
    | some b, _ => .aliased (inner e) (.bearer b)
    | none, some n => .aliased (inner e) (.name n)
    | none, none => .stuck [inner e] .wrongType

/-- A sort item as a tree. -/
def SortItem.tree (i : SortItem) : Tree :=
  if i.order.isText SortItem.ascending then .column (inner i.expression)
  else
    match i.order.plain view with
    | .ok s => .sorted (inner i.expression) s
    | .error f => .stuck [inner i.expression] f

end Parts

namespace Store

/-- What a label is given to when it is asked for a value. What could be a key is asked for its
stem. -/
def bearer (s : Store) (v : Value) : Except Fault Bearer :=
  match s.object? v with
  | some (.reference r) => .ok (.reference r)
  | some (.param p) => .ok (.param p)
  | _ => .error (if v.hashable s.view then .missing else .wrongType)

/-- The variable that a value is. -/
def variableOf? (s : Store) (v : Value) : Option Bearer :=
  match s.object? v with
  | some (.reference ⟨id, stem, .var⟩) => some (.reference ⟨id, stem, .var⟩)
  | _ => none

/-- A projection as a tree. -/
def projectionTree (s : Store) (inner : Value → Tree) (p : Projection) : Tree :=
  .projection p.kind (p.distinct.truth s.view) (p.columns.map (Column.tree inner s.variableOf?))
    (p.ordering.sortItems.map (SortItem.tree s.view inner)) p.ordering.skip p.ordering.limit

/-- The fragment in a slot of a clause as a tree. An empty slot has none, and the path is no
fragment. -/
def slotTree? (s : Store) (inner : Value → Tree) (c : Clause) : Slot → Option Tree
  | .path => none
  | .filter => c.filter.map fun v => .filter (inner v)
  | .assignment =>
    match c.assignments.getD [] with
    | [] => none
    | entries => some (.assignments (entries.map fun e => (inner e.1, inner e.2)))
  | .removal =>
    match c.removals.getD [] with
    | [] => none
    | properties => some (.removals (properties.map inner))
  | .deletion =>
    match c.deletion with
    | none | some ⟨[], _⟩ => none
    | some ⟨references, detach⟩ =>
      some (.deletions detach (references.map fun r => .label (.reference r)))
  | .passing => c.passing.map (s.projectionTree inner)
  | .returning => c.returning.map (s.projectionTree inner)

/-- What is in a slot, as a tree. An empty slot has a blank one. -/
def heldTree (s : Store) (inner : Value → Tree) (c : Clause) : Slot → Tree
  | .path => .given ((c.path.join.map fun r => [.label (.reference r), .text " = "]).getD [])
  | slot => (s.slotTree? inner c slot).getD (.given [])

/-- The fragments of a clause as trees, in the order of the manifest. -/
def fragmentTrees (s : Store) (inner : Value → Tree) (c : Clause) : List Tree :=
  c.head.manifest.filterMap (s.slotTree? inner c)

/-- The keyword of a clause that reads patterns. -/
def readKeyword (s : Store) (isOptional : Value) : String :=
  if isOptional.truth s.view then "OPTIONAL MATCH" else "MATCH"

/-- A clause as a tree. -/
def clauseTree (s : Store) (inner : Value → Tree) (c : Clause) : Tree :=
  let ofPatterns (keyword : String) (patterns : List Nat) : Tree :=
    .patternClause keyword (c.path.join.map .reference) (patterns.map fun h => inner (.object h))
      (s.fragmentTrees inner c)
  match c.head with
  | .read _ isOptional patterns =>
    ofPatterns (s.readKeyword isOptional) patterns
  | .create patterns => ofPatterns "CREATE" patterns
  | .project p => .projectionClause (s.projectionTree inner p) (s.fragmentTrees inner c)

/-- The word between the branches of a union. -/
def unionKeyword (s : Store) (all : Value) : String :=
  if all.truth s.view then "UNION ALL" else "UNION"

end Store

end GraphQuery
