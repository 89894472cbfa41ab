import GraphQuery.Registry
import GraphQuery.Store.View
import GraphQuery.Value.Shortest

/-!
Loose environments: names from tables that nothing vouches for.

An environment of which a part has been assigned goes on as it did, with whatever stands in the
place of the part: a name is looked up in its table, and if there is none, a number is put behind a
stem until the name is not in use. Every step asks the value in question for what it needs, so it
may fail at any of them, and what was done until then stays done.

* `Loosened.labelOf`, `Loosened.keyOf`: the name of a value.
* `Loosened`: a loose environment is a registry while it is written with.
-/

namespace GraphQuery

/-- A loose environment at work: the store that its tables are in, its handle and its parts. -/
structure Loosened where
  store : Store
  handle : Nat
  parts : LooseEnvironment

/-- A step of a loose environment, which may fail. It tells of the names that it passes over. -/
abbrev Loosely (α : Type) :=
  ExceptT Fault (StateT Loosened (StateM (List (Occurrence Loosened)))) α

namespace Loosened

/-! ### Tables -/

/-- How objects look at present. -/
def view : Loosely ObjectView := return (← get).store.view

/-- Goes on with a result, or fails. -/
def settle {α : Type} : Except Fault α → Loosely α
  | .ok a => return a
  | .error f => throw f

/-- A method can be called: nothing was assigned in its place. -/
def callable (name : String) : Loosely Unit := do
  let e ← get
  if e.store.hasAssigned e.handle name then throw .wrongType

/-- What a table has for a key. -/
def lookUp (table key : Value) : Loosely (Option Value) := do
  let view ← view
  match table.entries? view with
  | none => throw .missing
  | some entries =>
    if !key.hashable view then throw .wrongType
    return (Value.stored? view entries key).bind Value.given?

/-- Puts a value into a table. -/
def enter (table key v : Value) : Loosely Unit := do
  let view ← view
  match table, table.entries? view with
  | .object h, some entries =>
    if !key.hashable view then throw .wrongType
    modify fun e =>
      { e with store := e.store.replace h (.dict (Value.store view entries key v)) }
  | _, _ => throw .wrongType

/-- The stem for a kind. -/
def stemOf (kind : Kind) : Loosely Value := do
  match (← get).parts.stems.entries? (← view) with
  | none => throw .wrongType
  | some entries =>
    match Value.lookup? entries kind.word with
    | some stem => return stem
    | none => throw .missingKey

/-! ### Names in use -/

/-- The values that names in use are told by. -/
def issued : Loosely (List Value) := do
  (← get).parts.issued.resolve (return ·) fun v => return (v.items? (← view)).getD []

/-- A name is in use. -/
def inUse (name : Value) : Loosely Bool := do
  let view ← view
  match (← get).parts.issued with
  | .made names =>
    if !name.hashable view then throw .wrongType
    return names.any (Value.matched view · name)
  | .assigned v => settle (v.holds view name)

/-- Takes a name into use, for which there has to be a set. -/
def use (name : Value) : Loosely Unit := do
  match (← get).parts.issued with
  | .made names =>
    modify fun e => { e with parts := { e.parts with issued := .made (names ++ [name]) } }
  | .assigned _ => throw .missing

/-! ### Allocations -/

/-- The name with a number behind a stem. Number nought may be left out. -/
def numbered (stem index : Value) : Loosely Value := do
  let parts := (← get).parts
  let view ← view
  if index.equal view (.int 0) && parts.bareFirst.truth view then return stem
  let stem ← settle (stem.plain view)
  return .atom (.text (stem ++ (← settle (index.plain view)))) parts.mark

/-- Moves the counter on, and answers where it stood. -/
def count : Loosely Value := do
  let index := (← get).parts.counter
  match index.next? with
  | some next => modify fun e => { e with parts := { e.parts with counter := next } }
  | none => throw .wrongType
  return index

/-- Tells of a name that is passed over. -/
def passOver (name index : Value) : Loosely Unit := do
  let e ← get
  modifyThe (List (Occurrence Loosened)) (· ++ [⟨.collision name index, e⟩])

/-- The first name behind a stem that is not in use, out of the next `tries`. -/
def allocateWithin (stem : Value) : Nat → Loosely Value
  | 0 => throw .endless
  | tries + 1 => do
    let index ← count
    let name ← numbered stem index
    if ← inUse name then
      passOver name index
      allocateWithin stem tries
    else
      use name
      return name

/-- The first name behind a stem that is not in use. What names in use are told by has not more
parts than the square of its size. -/
def allocate (stem : Value) : Loosely Value := do
  callable "_allocate"
  let size := (← issued).length + 1
  allocateWithin stem (size * size)

/-- The stem for what bears a name: the one suggested for it, or else that of its kind. -/
def stemFor (suggested : Option Name) (kind : Kind) : Loosely Value :=
  match suggested with
  | some n => return n.value
  | none => stemOf kind

/-- The label of a value, given what it is as a bearer of one. -/
def labelOf (v : Value) (bearer : Except Fault Bearer) : Loosely Value := do
  callable "label_for"
  match ← lookUp (← get).parts.labels v with
  | some name => return name
  | none =>
    let b ← settle bearer
    let name ← allocate (← stemFor b.stem b.kind)
    enter (← get).parts.labels v name
    return name

/-- The key of a value, given what it is as a bearer of a label. Only a parameter has a value that
goes with its key. -/
def keyOf (v : Value) (bearer : Except Fault Bearer) : Loosely Value := do
  callable "key_for"
  match ← lookUp (← get).parts.keys v with
  | some name => return name
  | none =>
    let b ← settle bearer
    let name ← allocate (← stemFor b.stem .param)
    enter (← get).parts.keys v name
    match b with
    | .param p => enter (← get).parts.params name p.value
    | .reference _ => throw .missing
    return name

/-! ### Registries -/

/-- What a step comes to. -/
def outcome {α : Type} (e : Loosened) (step : Loosely α) : Allocated Loosened α :=
  let ((answer, env), occurrences) := (step.run.run e).run []
  ⟨env, occurrences, answer⟩

/-- What a step comes to as the allocation of a name. -/
def allocated (e : Loosened) (step : Loosely Value) : Allocated Loosened Wording :=
  let result := e.outcome step
  { result with answer := result.answer.map (Wording.ofValue result.env.store.view) }

instance : Registry Loosened where
  labelFor e b := e.allocated (labelOf (.object b.id) (.ok b))
  keyFor e p := e.allocated (keyOf (.object p.id) (.ok (.param p)))
  separator e := Wording.ofValue e.store.view e.parts.separator
  size e := e.parts.counter
  mark e := e.parts.mark

end Loosened

/-! ### What is read off a loose environment -/

namespace LooseEnvironment

/-- A value has a name, as the tables tell it. -/
def isRegistered (view : ObjectView) (e : LooseEnvironment) (v : Value) : Except Fault Bool := do
  if ← e.labels.holds view v then return true
  e.keys.holds view v

/-- A pair of a key and a value among the entries of a table. -/
def pair (view : ObjectView) (v : Value) : Except Fault (Value × Value) :=
  match v.items? view with
  | some [key, value] => if key.hashable view then .ok (key, value) else .error .wrongType
  | some _ => .error .wrongValue
  | none => .error .wrongType

/-- The keys with the values they stand for: the entries of a dictionary, or pairs. -/
def entries (view : ObjectView) (e : LooseEnvironment) : Except Fault (List (Value × Value)) :=
  match e.params.entries? view, e.params.items? view with
  | some entries, _ => .ok entries
  | none, some items =>
    items.foldlM (fun entries item => do
      let p ← pair view item
      return Value.store view entries p.1 p.2) []
  | none, none => .error .wrongType

end LooseEnvironment

end GraphQuery
