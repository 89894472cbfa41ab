import GraphQuery.Store.Part

/-!
Clauses, statements and unions of which parts or methods have been assigned.

What was assigned stands in the place of the part, and is not looked at before the part is wanted. A
method that was assigned is a value, and no value can be called.

* A clause runs through whatever stands for its patterns, and through whatever stands for its
  manifest. A dictionary can stand for its slots: what is found in it is written like a fragment,
  and builders put fragments into it from then on.
* Whatever stands for the projection of a clause is written in its place.
* A statement runs through whatever stands for its nodes, a union for its branches.
-/

namespace GraphQuery

/-- What an object is made of, where something else can stand in its place. -/
inductive Constituent where
  | patterns
  | slots
  | manifest
  | projection
  | nodes
  | branches
  deriving DecidableEq, Repr

/-- The name under which a part is assigned. -/
def Constituent.attribute : Constituent → String
  | patterns => "_patterns"
  | slots => "_capabilities"
  | manifest => "CAPABILITIES"
  | projection => "_projection"
  | nodes => "_nodes"
  | branches => "_branches"

/-- The methods that clauses are written and built by. -/
inductive Routine where
  | writePath
  | writePatterns
  | writeFragments
  | fillSlot
  | checkSlot
  | findOrdering
  | project
  | supports
  deriving DecidableEq, Repr

/-- The name under which a method is assigned. -/
def Routine.attribute : Routine → String
  | writePath => "_compile_path"
  | writePatterns => "_compile_patterns"
  | writeFragments => "compile_capabilities"
  | fillSlot => "_capability"
  | checkSlot => "_check_supported"
  | findOrdering => "_ordering"
  | project => "_project"
  | supports => "supports"

namespace Store

/-- What was assigned in the place of a part. -/
def standIn? (s : Store) (h : Nat) (part : Constituent) : Option Value :=
  s.assigned? h part.attribute

/-- Calls of the methods are possible: nothing was assigned in their place. -/
def callable (s : Store) (h : Nat) (routines : List Routine) : Except Fault Unit :=
  if routines.any fun r => s.hasAssigned h r.attribute then .error .wrongType else .ok ()

/-- The values that a collection runs through. -/
def run (s : Store) (v : Value) : Except Fault (List Value) :=
  (v.items? s.view).elim (.error .wrongType) .ok

/-- The number of values in a collection. -/
def sizeOf (s : Store) (v : Value) : Except Fault Nat :=
  (v.size? s.view).elim (.error .wrongType) .ok

/-! ### Clauses -/

/-- The names of the slots of a clause, in the order in which their fragments are written. -/
def slotNames (s : Store) (h : Nat) (c : Clause) : Except Fault (List Value) :=
  match s.standIn? h .manifest with
  | none => .ok (c.head.manifest.map fun slot => .text slot.name)
  | some v => s.run v

/-- The clause can carry the fragment. -/
def carries (s : Store) (h : Nat) (c : Clause) (slot : Slot) : Except Fault Bool :=
  match s.standIn? h .manifest with
  | none => .ok (c.supports slot)
  | some v => v.holds s.view (.text slot.name)

/-- What is in a slot, when something stands in the place of all slots. -/
def foreign? (s : Store) (h : Nat) (name : Value) : Except Fault (Option Value) :=
  match s.standIn? h .slots with
  | none => if name.hashable s.view then .ok none else .error .wrongType
  | some v =>
    match v.entries? s.view with
    | none => .error .missing
    | some entries =>
      if name.hashable s.view then .ok ((Value.stored? s.view entries name).bind Value.given?)
      else .error .wrongType

/-- A slot exists: a builder has reached it, or it was put there from outside. -/
def hasSlot (s : Store) (h : Nat) (c : Clause) (name : Value) : Except Fault Bool := do
  let own := Slot.all.any fun slot => name.isText slot.name && c.has slot
  match s.standIn? h .slots with
  | none => if name.hashable s.view then .ok own else .error .wrongType
  | some v => return (← v.holds s.view name) || own

/-- The names of the slots that exist, in the order of the manifest. -/
def populated (s : Store) (h : Nat) (c : Clause) : Except Fault (List Value) := do
  (← s.slotNames h c).filterM (s.hasSlot h c)

/-- The number of patterns of a clause. -/
def patternCount (s : Store) (h : Nat) (c : Clause) : Except Fault Nat :=
  match s.standIn? h .patterns with
  | none => .ok c.head.patterns.length
  | some v => s.sizeOf v

section Writing

/- The trees of the values that are parts. -/
variable (inner : Value → Tree)

/-- What is written, or the fault that is met. -/
def orFault : Except Fault Template → Template
  | .ok t => t
  | .error f => [.fault f]

/-- The fragment of a name on a line of its own, or nothing. -/
def fragmentOf (s : Store) (h : Nat) (c : Clause) (name : Value) : Except Fault Template := do
  if name.isText Slot.path.name then return []
  let tree? ← match ← s.foreign? h name with
    | some v => pure (some (inner v))
    | none => pure ((Slot.all.find? fun slot => name.isText slot.name).bind (s.slotTree? inner c))
  match tree?.filter fun t => !t.isBlank with
  | some t => return fragmentTemplate t.template
  | none => return []

/-- The fragments of a clause. -/
def fragmentsOf (s : Store) (h : Nat) (c : Clause) : Except Fault Template := do
  s.callable h [.writeFragments]
  return ((← s.slotNames h c).map fun name => orFault (s.fragmentOf inner h c name)).flatten

/-- The path in front of the patterns of a clause. -/
def pathOf (s : Store) (h : Nat) (c : Clause) : Except Fault Template := do
  s.callable h [.writePath]
  match ← s.foreign? h (.text Slot.path.name) with
  | some v => return (inner v).template
  | none => return (c.path.join.map fun r => [.label (.reference r), .text " = "]).getD []

/-- The patterns of a clause. -/
def patternsOf (s : Store) (h : Nat) (c : Clause) : Except Fault Template := do
  s.callable h [.writePatterns]
  let patterns ← match s.standIn? h .patterns with
    | none => pure (c.head.patterns.map .object)
    | some v => s.run v
  return Template.commas (Tree.items (patterns.map inner))

/-- The projection that stands alone in a clause. -/
def bodyOf (s : Store) (h : Nat) (p : Projection) : Tree :=
  (s.standIn? h .projection).elim (s.projectionTree inner p) inner

/-- A clause as a tree, with whatever stands in the place of its parts. -/
def reassignedClause (s : Store) (h : Nat) (c : Clause) : Tree :=
  let fragments := orFault (s.fragmentsOf inner h c)
  let ofPatterns (keyword : String) : Tree :=
    .given (.text (keyword ++ " ") :: orFault (s.pathOf inner h c)
      ++ orFault (s.patternsOf inner h c) ++ fragments)
  match c.head with
  | .read _ isOptional _ => ofPatterns (s.readKeyword isOptional)
  | .create _ => ofPatterns "CREATE"
  | .project p =>
    let body := s.bodyOf inner h p
    .given (if body.isBlank then fragments else body.template ++ fragments)

end Writing

/-! ### Statements and unions -/

/-- The values that a statement puts after one another. -/
def nodesOf (s : Store) (h : Nat) (nodes : List Nat) : Except Fault (List Value) :=
  match s.standIn? h .nodes with
  | none => .ok (nodes.map .object)
  | some v => s.run v

/-- The values that a union joins. -/
def branchesOf (s : Store) (h : Nat) (branches : List Nat) : Except Fault (List Value) :=
  match s.standIn? h .branches with
  | none => .ok (branches.map .object)
  | some v => do
    let _ ← s.sizeOf v
    s.run v

end Store

end GraphQuery
