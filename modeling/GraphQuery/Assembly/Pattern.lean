import GraphQuery.Assembly.Leaf

/-!
Making patterns: their elements, their chains, and taking a node for a pattern.
-/

namespace GraphQuery.Assembly

/-- The value of a pattern property: a parameter, or a literal that is wrapped into one. -/
def propertyValue (key value : Value) : Assembly Param := do
  match ← param? value with
  | some p => return p
  | none =>
    if ← isExpression value then
      let quotedKey ← quoted key
      refuse (.propertyExpression quotedKey (← typeName value))
    wrap value

/-- One property of a pattern. -/
def propertyEntry (entry : Value × Value) : Assembly (Name × Param) := do
  match entry.1.name?.filter fun n => !n.word.isEmpty with
  | some n => return (n, ← propertyValue entry.1 entry.2)
  | none => refuse (.propertyName (← quoted entry.1))

/-- The properties of a pattern: none, or a dictionary. -/
def properties (v : Value) : Assembly (List (Name × Param)) := do
  match v.given?, v.entries? (← view) with
  | none, _ => return []
  | some _, some entries => entries.mapM propertyEntry
  | some v, none => refuse (.propertyTable (← typeName v))

/-- A node in a pattern. Its own labels stand unless others are given. -/
def nodeElement (v labels table : Value) : Assembly NodeElement := do
  match ← reference? v with
  | some ⟨id, stem, .node own⟩ =>
    let labels ← match labels.given? with
      | none => pure own
      | some v => Assembly.labels labelRole v
    return ⟨.made ⟨id, stem, .node own⟩, .made labels, .made (← properties table)⟩
  | _ => refuse (.notNode (← typeName v))

/-- The type of a relationship in a pattern: its own, or the one given. -/
def typeIn (own : Option Name) (type : Value) : Value :=
  type.given?.getD ((own.map Name.value).getD .null)

/-- A direction, as such or as its word. -/
def direction (v : Value) : Assembly Direction := do
  match v.text?.bind Direction.ofWord? with
  | some d => return d
  | none => refuse (.direction (← quoted v))

/-- A relationship in a pattern. -/
def relationshipElement (v type table way : Value) : Assembly RelationshipElement := do
  match ← reference? v with
  | some ⟨id, stem, .relationship own⟩ =>
    let table ← properties table
    return ⟨.made ⟨id, stem, .relationship own⟩, typeIn own type, .made table,
      .made (← direction way)⟩
  | _ => refuse (.notRelationship (← typeName v))

/-- The pattern of a single node. -/
def pattern (v labels table : Value) : Assembly Value := do
  made (.pattern (.single (← nodeElement v labels table)))

/-- A value as a pattern: itself, or the pattern of a single node. -/
def asPattern (v : Value) : Assembly Value := do
  match ← object? v with
  | some (.pattern _) => return v
  | some (.reference ⟨_, _, .node _⟩) => pattern v .null .null
  | some (.chain _) => refuse .openChain
  | _ => refuse (.notPattern (← typeName v))

/-- The chain of a pattern and a relationship. Without a relationship, a fresh one is taken. -/
def related (receiver v type table way : Value) : Assembly Value := do
  match ← object? receiver with
  | some (.pattern p) =>
    let v ← match v.given? with
      | none => reference (.relationship none) .null
      | some v => pure v
    made (.chain (p.related (← relationshipElement v type table way)))
  | _ => throw .missing

/-- The pattern of an open chain and its closing node. The chain has to be listed before the node is
looked at. -/
def close (receiver v labels table : Value) : Assembly Value := do
  match ← object? receiver with
  | some (.chain c) =>
    if (elementsOf? (← view) c.elements).isNone then throw .wrongType
    let n ← nodeElement v labels table
    match c.close? (← view) n with
    | some p => made (.pattern p)
    | none => throw .wrongType
  | _ => throw .missing

/-- An open chain of whatever is given. -/
def openChain (elements pending : Value) : Assembly Value :=
  made (.chain ⟨.assigned elements, .given pending⟩)

end GraphQuery.Assembly
