import GraphQuery.Assembly.Basic

/-!
Making references, parameters and accesses to properties.
-/

namespace GraphQuery.Assembly

/-- What a name stem is suggested for, in the words of a message. -/
def referenceRole : String := "reference prefix"

/-- What a label is for, in the words of a message. -/
def labelRole : String := "node label"

/-- A reference of a class without data of its own. -/
def reference (is : RefClass) (stem : Value) : Assembly Value := do
  let stem ← check fun view => checkStem view referenceRole stem
  return .object (← add fun h => .reference ⟨h, stem, is⟩)

/-- A node, with labels if any are given. -/
def node (stem : Value) (labels? : Option Value) : Assembly Value := do
  let stem ← check fun view => checkStem view referenceRole stem
  let labels ← labels?.elim (pure []) (Assembly.labels labelRole)
  return .object (← add fun h => .reference ⟨h, stem, .node labels⟩)

/-- A relationship with or without a type. -/
def relationship (stem type : Value) : Assembly Value := do
  let stem ← check fun view => checkStem view referenceRole stem
  let type ← check fun view => checkType view type
  return .object (← add fun h => .reference ⟨h, stem, .relationship type⟩)

/-- A parameter for a literal. -/
def param (value stem : Value) : Assembly Value := do
  let stem ← check fun view => checkStem view "parameter prefix" stem
  return .object (← add fun h => .param ⟨h, value, stem⟩)

/-- A name on the way to a property: a text that is not empty. -/
def pathStep (v : Value) : Assembly Name := do
  match v.name?.filter fun n => !n.word.isEmpty with
  | some n => return n
  | none => refuse (.pathStep (← quoted v))

/-- Access to a property of whatever is given as a base. Only the names are checked. -/
def property (base : Value) (path : List Value) : Assembly Value := do
  if path.isEmpty then refuse .emptyPath
  let path ← path.mapM pathStep
  made (.expression (.property base (.made path)))

/-- Access to a property of an object: of a reference, or further along an access. -/
def propertyOf (receiver : Value) (path : List Value) : Assembly Value := do
  match ← object? receiver with
  | some (.expression (.property base (.made first))) =>
    property base (first.map Name.value ++ path)
  | some (.expression (.property base (.assigned v))) => property base ((← items v) ++ path)
  | some (.reference _) => property receiver path
  | _ => throw .missing

end GraphQuery.Assembly
