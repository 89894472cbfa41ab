import GraphQuery.Assembly.Clause

/-!
Builder calls on clauses of which parts or methods have been assigned.

A builder goes the same way as on any other clause, but it asks what stands in the place of each
part and of each method that it comes by: whether a path can be bound to the patterns, whether the
clause carries the fragment, and what is in the slot already. Where a dictionary stands for the
slots, a builder works on the fragment that it finds there, or puts a new one there. Anything else
that is found there is no fragment and cannot be built upon.
-/

namespace GraphQuery

namespace Builder

/-- The slot that a builder fills, if it fills one. -/
def slot? : Builder → Option Slot
  | path _ => some .path
  | restrict _ | relax _ => some .filter
  | assign _ => some .assignment
  | remove _ => some .removal
  | delete .. => some .deletion
  | project kind .. => some (.ofProjection kind)
  | orderBy _ | skip _ | limit _ | makeOptional => none

/-- The methods that a builder of a slot comes by before it asks for the fragment. -/
def routines : Builder → List Routine
  | project .. => [.project, .checkSlot]
  | _ => [.fillSlot, .checkSlot]

end Builder

namespace Store

/-- The clause has patterns that can share no path. -/
def sharesNoPath (s : Store) (h : Nat) (c : Clause) : Except Fault Unit := do
  match c.head with
  | .project _ => return
  | _ =>
    s.callable h [.supports]
    let count ← s.patternCount h c
    if c.supports .path && 1 < count then throw (.refused (.sharedPath count))

/-- The clause carries the fragment. -/
def carrying (s : Store) (h : Nat) (c : Clause) (slot : Slot) : Except Fault Unit := do
  if !(← s.carries h c slot) then
    let shown ← (← s.slotNames h c).mapM (Value.quoted s.view)
    throw (.refused (.unsupported c.className slot.name shown))

/-- The clause that holds a fragment. -/
def holder? (s : Store) (v : Value) : Option Nat :=
  match s.object? v with
  | some (.fragment holder _) => some holder
  | _ => none

/-- A slot has nothing but a fragment in it. A text has a method of the name that columns are
replaced by, which does not take them. -/
def unobstructed (s : Store) (h : Nat) (slot : Slot) : Except Fault Unit := do
  match ← s.foreign? h (.text slot.name) with
  | none => return
  | some (.atom (.text _) _) | some (.atom (.direction _) _) | some (.atom (.bytes _) _) =>
    throw (if slot = .passing ∨ slot = .returning then .wrongType else .missing)
  | some v => if (s.holder? v).isNone then throw .missing

/-- The clause has an ordering to be changed, or at least no stand-in for one. -/
def ordered (s : Store) (h : Nat) (c : Clause) : Except Fault Unit := do
  s.callable h [.findOrdering]
  match c.head with
  | .project _ => if (s.standIn? h .projection).isSome then throw .missing
  | _ =>
    let _ ← s.foreign? h (.text Slot.returning.name)

/-- The way of a builder up to its arguments is free. -/
def admits (s : Store) (h : Nat) (c : Clause) (b : Builder) : Except Fault Unit := do
  match b, b.slot? with
  | .makeOptional, _ => return
  | _, none => s.ordered h c
  | _, some slot =>
    if slot = .path then s.sharesNoPath h c
    s.callable h b.routines
    s.carrying h c slot
    match b with
    | .project .. => return
    | _ => s.unobstructed h slot

end Store

namespace Assembly

/-- A head that carries every fragment and has no patterns. -/
def freeHead : Head := .read false .null []

/-- What is in the slots of a clause, with every fragment allowed. -/
def freed (c : Clause) : Clause := { c with head := freeHead }

/-- The columns of a trailing projection. What is in the slot is looked at once they are there. -/
def freeColumns (h : Nat) (kind : ProjectionKind) (values : List Value) :
    Assembly (List Column) := do
  let columns ← someColumns kind values
  let s ← get
  settle (s.callable h [.fillSlot])
  settle (s.unobstructed h (.ofProjection kind))
  return columns

/-- A builder call on what is in the slots of a clause with assigned parts. -/
def buildFreed (h : Nat) (c : Clause) (b : Builder) : StateM Store Built := do
  match b with
  | .project kind values distinct =>
    return c.project kind (← attempt (freeColumns h kind values)) distinct
  | b => build c b

/-- The clause that holds the fragment of a slot, in a dictionary that stands for the slots. There
is a new one if the dictionary has nothing for the slot. -/
def holder (slots : Value) (slot : Slot) : Assembly Nat := do
  let s ← get
  match slots, slots.entries? s.view with
  | .object d, some entries =>
    match (Value.stored? s.view entries (.text slot.name)).bind s.holder? with
    | some g => return g
    | none =>
      let g ← add fun _ => .clause (.ofHead freeHead)
      let v ← made (.fragment g slot)
      modify fun s => s.replace d (.dict (Value.store s.view entries (.text slot.name) v))
      return g
  | _, _ => throw .missing

/-- A builder call on the fragment that a clause holds for others. -/
def buildHeld (h g : Nat) (b : Builder) : Assembly Unit := do
  match (← get).get? g with
  | some (.clause held) =>
    let built ← (buildFreed h held b : StateM Store Built)
    modify fun s => s.replace g (.clause built.clause)
    match built.fault? with
    | some f => throw f
    | none => return
  | _ => throw .missing

/-- The clause that holds the projection to be ordered, in a dictionary that stands for the
slots. -/
def orderedHolder? (s : Store) (slots : Value) : Option Nat :=
  let held (slot : Slot) : Option Nat := do
    let g ← s.holder? (← Value.lookup? (← slots.entries? s.view) slot.name)
    match s.get? g with
    | some (.clause c) => if c.has slot then some g else none
    | _ => none
  (held .returning).or (held .passing)

/-- A builder call on a clause with something in the place of its slots. -/
def buildElsewhere (h : Nat) (c : Clause) (slots : Value) (b : Builder) : Assembly Unit := do
  match b, b.slot?, c.head with
  | .project kind values _, some slot, _ =>
    let _ ← freeColumns h kind values
    buildHeld h (← holder slots slot) b
  | b, some slot, _ => buildHeld h (← holder slots slot) b
  | b, none, _ =>
    match orderedHolder? (← get) slots with
    | some g => buildHeld h g b
    | none => throw (.refused (.nothingToOrder c.className))

/-- The builder works on the head of a clause, or on an ordering that belongs to the head. -/
def concernsHead (c : Clause) (b : Builder) : Bool :=
  match b, c.head with
  | .makeOptional, _ => true
  | b, .project _ => b.slot?.isNone
  | _, _ => false

/-- A builder call on a clause with assigned parts. -/
def buildReassigned (h : Nat) (c : Clause) (b : Builder) : StateM Store Built := do
  let s ← get
  match s.admits h c b, s.standIn? h .slots with
  | .error f, _ => return c.refuse f
  | .ok _, some slots =>
    if concernsHead c b then build c b
    else
      match ← attempt (buildElsewhere h c slots b) with
      | .ok _ => return ⟨c, none⟩
      | .error f => return c.refuse f
  | .ok _, none =>
    if b.slot?.isNone then build c b
    else
      let built ← buildFreed h (freed c) b
      return { built with clause := { built.clause with head := c.head } }

end Assembly

end GraphQuery
