import GraphQuery.Assembly.Reassigned

/-!
Calling builders on the clauses of a store, and making statements and unions.
-/

namespace GraphQuery.Assembly

/-- A builder call on a clause that lacks something. Only what is refused before the clause is
looked at is found out. -/
def buildLacking (c : Clause) (b : Builder) : Assembly Value := do
  if let some slot := b.slot? then
    if !c.supports slot then throw (c.unsupported slot)
  if let .project kind values _ := b then let _ ← someColumns kind values
  throw .missing

/-- A builder call on the clause of a handle. The clause is what it has become even when the call
fails, and it is the answer when the call succeeds. -/
def buildOn (h : Nat) (b : Builder) : Assembly Value := do
  match (← get).get? h with
  | some (.clause c) =>
    if (← get).isLacking h then return ← buildLacking c b
    let reassigned := (← get).isReassigned h
    let built ← (if reassigned then buildReassigned h c b else build c b : StateM Store Built)
    modify fun s => s.replace h (.clause built.clause)
    match built.fault? with
    | some f => throw f
    | none => return .object h
  | _ => throw .missing

/-! ### Statements and unions -/

/-- The handle of a clause, statement or union. -/
def compilable (v : Value) : Assembly Nat := do
  if (← object? v).any Object.isQuery then handle v
  else refuse (.notCompilable (← typeName v))

/-- A sequence of clauses, statements and unions. -/
def statement (nodes : List Value) : Assembly Value := do
  made (.statement (← nodes.mapM compilable))

/-- A value at the end of whatever stands for the nodes of a statement, which has to be a list. -/
def appendTo (nodes v : Value) : Assembly Unit := do
  match nodes, ← object? nodes with
  | .object l, some (.list items) =>
    let _ ← compilable v
    modify fun s => s.replace l (.list (items ++ [v]))
  | _, _ => throw .missing

/-- A statement with a further part at its end. -/
def append (h : Nat) (v : Value) : Assembly Value := do
  if (← get).isLacking h then throw .missing
  match (← get).get? h, (← get).standIn? h .nodes with
  | some (.statement _), some nodes => appendTo nodes v
  | some (.statement nodes), none =>
    let g ← compilable v
    modify fun s => s.replace h (.statement (nodes ++ [g]))
  | _, _ => throw .missing
  return .object h

/-- A union of two or more branches. -/
def union (branches : List Value) : Assembly Value := do
  if branches.length < 2 then refuse (.tooFewBranches branches.length)
  made (.union (← branches.mapM compilable) (.bool false))

/-- A union that keeps duplicate rows, or not, by the truth of a value. -/
def keepDuplicates (h : Nat) (all : Value) : Assembly Value := do
  match (← get).get? h with
  | some (.union branches _) =>
    modify fun s => s.replace h (.union branches all)
    return .object h
  | _ => throw .missing

end GraphQuery.Assembly
