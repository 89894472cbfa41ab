import GraphQuery.Event
import GraphQuery.Reference
import GraphQuery.Value.Equality
import GraphQuery.Value.Text

/-!
Environments: the names that one build gives to the references and parameters it meets.

A reference gets a label, a parameter a key. A name is a stem with a running number behind it, and
all names draw on one counter; a number whose name is in use already is passed over. On demand the
very first name is the bare stem. Names are given on first sight and kept, so what an environment
remembers is in essence the list of its allocations, its ledger.

* `Environment.labelFor`, `Environment.keyFor`: the name of an object, allocated if need be.
* `Environment.params`: the keys given to parameters with the values they stand for.
* `Naming`: how names are formed, as it was given, before any of it is known to be a text.
-/

namespace GraphQuery

/-! ### What is written for a value -/

/-- A text, or a value in the place of a text: with its text in running text, which it may fail to
have, and whether it can be a key. -/
inductive Wording where
  | text (s : String)
  | value (v : Value) (written : Except Fault String) (hashable : Bool)
  deriving Inhabited

namespace Wording

/-- What is written for a value. -/
def ofValue (view : ObjectView) (v : Value) : Wording :=
  match v.name? with
  | some (.text s) => text s
  | _ => value v (v.plain view) (v.hashable view)

/-- What is written for a name. -/
def ofName : Name → Wording
  | .text s => text s
  | .direction d => value (.direction d) (.ok d.running) true

/-- What is written, with the value looked at anew. -/
def refreshed (view : ObjectView) : Wording → Wording
  | text s => text s
  | value v _ _ => ofValue view v

/-- What is written into running text. -/
def written : Wording → Except Fault String
  | text s => .ok s
  | value _ written _ => written

/-- The text on its own, if it is one. -/
def word? : Wording → Option String
  | text s => some s
  | value v _ _ => v.text?

/-- It is a byte string. -/
def isBytes : Wording → Bool
  | value (.atom (.bytes _) _) _ _ => true
  | _ => false

/-- It is nothing at all. -/
def isNull : Wording → Bool
  | text _ => false
  | value v _ _ => v.isNull

/-- What is handed out for it, with a mark for the text. -/
def handed (mark : Nat) : Wording → Value
  | text s => .atom (.text s) mark
  | value v _ _ => v

end Wording

/-! ### Allocations -/

/-- Whether a name is a label of a reference or a key of a parameter. -/
inductive Role where
  | label
  | key
  deriving DecidableEq, Repr, Inhabited

/-- A name given to an object. `param?` is the value that a key stands for. -/
structure Allocation where
  role : Role
  owner : Nat
  name : Wording
  param? : Option Value
  deriving Inhabited

/-- The names given so far. The mark is that of the texts handed out. -/
structure Ledger where
  counter : Nat
  allocations : List Allocation
  mark : Nat
  deriving Inhabited

/-- The ledger before any name is given. -/
def Ledger.blank (mark : Nat) : Ledger := ⟨0, [], mark⟩

/-- The ledger with names that are no texts looked at anew. -/
def Ledger.refreshed (view : ObjectView) (l : Ledger) : Ledger :=
  { l with allocations := l.allocations.map fun a => { a with name := a.name.refreshed view } }

/-- How names are formed and clauses are put apart, as it was given. -/
structure Naming where
  stems : Kind → Value
  bareFirst : Value
  separator : Value

/-- The names given so far, and how the next ones are formed. -/
structure Environment extends Ledger where
  stems : Kind → Wording
  bareFirst : Bool
  separator : Wording

/-- The environment in which names are formed as the naming says. What is no text is looked at as it
is now. -/
def Naming.environment (view : ObjectView) (n : Naming) (ledger : Ledger) : Environment where
  toLedger := ledger.refreshed view
  stems kind := .ofValue view (n.stems kind)
  bareFirst := n.bareFirst.truth view
  separator := .ofValue view n.separator

/-- An event, with what gives the names as it stood when the event happened. Whoever cannot bear to
hear of an event stops the work there. -/
structure Occurrence (σ : Type) where
  event : Event
  env : σ

/-- The result of an operation that may allocate: the environment afterwards, the names passed
over, and the answer. The environment has moved on even when the operation fails. -/
structure Allocated (σ α : Type) where
  env : σ
  occurrences : List (Occurrence σ)
  answer : Except Fault α

/-- The first index from the given one on whose name is not in the list. Names of different
indices differ, so a name that was met need not be looked for again. -/
def firstFree (name : Nat → String) (taken : List String) (index : Nat) : Nat :=
  if name index ∈ taken then firstFree name (taken.erase (name index)) (index + 1) else index
termination_by taken.length
decreasing_by
  rename_i h
  rw [List.length_erase_of_mem h]
  have := List.length_pos_of_mem h
  omega

/-- The name with a given number behind a stem. Number nought may be left out. -/
def numberedName (stem : String) (bareFirst : Bool) (index : Nat) : String :=
  if index = 0 ∧ bareFirst then stem else stem ++ toString index

namespace Environment

/-- How many numbers are used up. -/
def size (e : Environment) : Nat := e.counter

/-- The texts that are in use as names. -/
def issued (e : Environment) : List String :=
  e.allocations.filterMap fun a => a.name.word?

/-- The key of every parameter with the value it stands for, in order of allocation. -/
def params (e : Environment) : List (Value × Value) :=
  e.allocations.filterMap fun a => a.param?.map fun v => (a.name.handed e.mark, v)

/-- The name of an object in a role. A name that is nothing at all is never found again. -/
def find? (e : Environment) (role : Role) (owner : Nat) : Option Wording :=
  (e.allocations.find? fun a => a.role = role && a.owner == owner && !a.name.isNull).map (·.name)

/-- An object has been given a name in some role. -/
def isRegistered (e : Environment) (owner : Nat) : Bool :=
  e.allocations.any fun a => a.owner == owner

/-- The environment with the counter moved on. -/
def moved (e : Environment) (counter : Nat) : Environment := { e with counter := counter }

/-- The environment with a further allocation. -/
def recorded (e : Environment) (a : Allocation) : Environment :=
  { e with allocations := e.allocations ++ [a] }

/-- Gives an object the first name behind a text, from the counter on, that is free. -/
def allocateText (e : Environment) (role : Role) (owner : Nat) (stem : String)
    (param? : Option Value) : Allocated Environment Wording :=
  let index := firstFree (numberedName stem e.bareFirst) e.issued e.counter
  let name : Wording := .text (numberedName stem e.bareFirst index)
  ⟨(e.moved (index + 1)).recorded ⟨role, owner, name, param?⟩,
    (List.range' e.counter (index - e.counter)).map fun i =>
      ⟨.collision (.text (numberedName stem e.bareFirst i)) (.int i), e.moved (i + 1)⟩,
    .ok name⟩

/-- Gives an object the very first name: a stem that stands for itself, if it can be a key. -/
def allocateBare (e : Environment) (role : Role) (owner : Nat) (stem : Wording) (hashable : Bool)
    (param? : Option Value) : Allocated Environment Wording :=
  let moved := e.moved (e.counter + 1)
  if hashable then ⟨moved.recorded ⟨role, owner, stem, param?⟩, [], .ok stem⟩
  else ⟨moved, [], .error .wrongType⟩

/-- Gives an object its name. -/
def allocate (e : Environment) (role : Role) (owner : Nat) (stem : Wording)
    (param? : Option Value) : Allocated Environment Wording :=
  match stem with
  | .text s => e.allocateText role owner s param?
  | .value v written hashable =>
    if e.counter = 0 ∧ e.bareFirst then
      e.allocateBare role owner (.value v written hashable) hashable param?
    else
      match written with
      | .ok s => e.allocateText role owner s param?
      | .error f => ⟨e.moved (e.counter + 1), [], .error f⟩

/-- The name of an object in a role, allocated on first sight. -/
def nameFor (e : Environment) (role : Role) (owner : Nat) (stem : Wording)
    (param? : Option Value) : Allocated Environment Wording :=
  match e.find? role owner with
  | some name => ⟨e, [], .ok name⟩
  | none => e.allocate role owner stem param?

/-- The stem of an object: the one suggested for it, or else that of its kind. -/
def stemFor (e : Environment) (suggested : Option Name) (kind : Kind) : Wording :=
  (suggested.map Wording.ofName).getD (e.stems kind)

/-- The label of a reference, or of a parameter, which has it beside its key. -/
def labelFor (e : Environment) (b : Bearer) : Allocated Environment Wording :=
  e.nameFor .label b.id (e.stemFor b.stem b.kind) none

/-- The key of a parameter. Its value is recorded with it. -/
def keyFor (e : Environment) (p : Param) : Allocated Environment Wording :=
  e.nameFor .key p.id (e.stemFor p.stem .param) (some p.value)

/-- The key of a reference. It is allocated and kept; but a reference has no value to record with
it, so the call that allocates it fails. -/
def keyForReference (e : Environment) (r : Reference) : Allocated Environment Wording :=
  match e.find? .key r.id with
  | some name => ⟨e, [], .ok name⟩
  | none =>
    let given := e.allocate .key r.id (e.stemFor r.stem .param) none
    { given with answer := given.answer.bind fun _ => .error .missing }

end Environment

end GraphQuery
