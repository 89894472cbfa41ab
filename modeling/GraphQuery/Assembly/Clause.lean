import GraphQuery.Assembly.Expression
import GraphQuery.Assembly.Pattern

/-!
Making clauses, and calling builders on them.
-/

namespace GraphQuery

/-- A builder call on a clause, with its arguments as they are given. -/
inductive Builder where
  | path (v : Value)
  | restrict (predicate : Value)
  | relax (predicate : Value)
  | assign (entries : List Value)
  | remove (properties : List Value)
  | delete (references : List Value) (detach : Bool)
  | project (kind : ProjectionKind) (columns : List Value) (distinct : Value)
  | orderBy (items : List Value)
  | skip (count : Value)
  | limit (count : Value)
  | makeOptional

namespace Assembly

/-! ### New clauses -/

/-- The handle of the object that a value is. -/
def handle (v : Value) : Assembly Nat :=
  match v with
  | .object h => return h
  | .atom _ _ => throw .missing

/-- Values as the patterns of a clause, of which there has to be one. -/
def patterns (className : String) (values : List Value) : Assembly (List Nat) := do
  if values.isEmpty then refuse (.noPatterns className)
  values.mapM fun v => do handle (← asPattern v)

/-- A clause that reads patterns. -/
def read (optionalClass : Bool) (isOptional : Value) (values : List Value) : Assembly Value := do
  let className := (Head.read optionalClass isOptional []).className
  made (.clause (.ofHead (.read optionalClass isOptional (← patterns className values))))

/-- A clause that creates patterns. -/
def create (values : List Value) : Assembly Value := do
  made (.clause (.ofHead (.create (← patterns (Head.create []).className values))))

/-- A projection that stands alone. -/
def projection (kind : ProjectionKind) (values : List Value) (distinct : Value) :
    Assembly Value := do
  let columns ← someColumns kind values
  made (.clause (.ofHead (.project ⟨kind, columns, distinct, .unordered⟩)))

/-! ### Builders -/

/-- The path that a value stands for. -/
def path (v : Value) : Assembly Reference := do
  match ← reference? v with
  | some ⟨id, stem, .path⟩ => return ⟨id, stem, .path⟩
  | _ => refuse (.notPath (← typeName v))

/-- An assignment of a value to a property. -/
def assignment (v : Value) : Assembly (Value × Value) := do
  match ← object? v with
  | some (.tuple [target, value]) =>
    match ← object? target with
    | some (.expression (.property ..)) => return (target, ← expression value)
    | _ => refuse (.assignmentTarget (← typeName target))
  | _ => refuse (.assignmentPair (← quoted v))

/-- A property to remove. -/
def removal (v : Value) : Assembly Value := do
  match ← object? v with
  | some (.expression (.property ..)) => return v
  | _ => refuse (.removalTarget (← typeName v))

/-- A reference to delete. -/
def deletion (v : Value) : Assembly Reference := do
  match ← reference? v with
  | some r => return r
  | none => refuse (.deletionTarget (← typeName v))

/-- What a step gives or fails with, as a value. -/
def attempt {α : Type} (step : Assembly α) : StateM Store (Except Fault α) := step.run

/-- A builder call: its arguments are taken as far as they pass, then the clause is changed. -/
def build (c : Clause) : Builder → StateM Store Built
  | .path v => return c.bindPath (← attempt (path v))
  | .restrict predicate => do
    let joined ← attempt do conjoined c.filter (← expression predicate)
    return c.filterBy joined
  | .relax predicate => do
    let joined ← attempt do disjoined c.filter (← expression predicate)
    return c.filterBy joined
  | .assign entries => do
    let (entries, fault?) ← whilePassing assignment entries
    return c.assign entries fault?
  | .remove properties => do
    let (properties, fault?) ← whilePassing removal properties
    return c.removeProperties properties fault?
  | .delete references detach => do
    let (references, fault?) ← whilePassing deletion references
    return c.delete references detach fault?
  | .project kind values distinct => do
    let columns ← attempt (someColumns kind values)
    return c.project kind columns distinct
  | .orderBy items => do
    let (items, fault?) ← whilePassing sortItem items
    return c.orderBy items fault?
  | .skip count => return c.skip (← attempt (rowCount "SKIP" count))
  | .limit count => return c.limit (← attempt (rowCount "LIMIT" count))
  | .makeOptional => return (c.makeOptional?.map fun c => ⟨c, none⟩).getD (c.refuse .missing)

end Assembly

end GraphQuery
