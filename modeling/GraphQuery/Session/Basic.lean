import GraphQuery.Assembly.Collection
import GraphQuery.Assembly.Construction
import GraphQuery.Compile
import GraphQuery.Log.Handling

/-!
Sessions: everything that one call can leave behind for the next.

A session has a store of objects, the record of settings that is current, the variables of the
process environment, and a log channel. What a failing call has changed until then stays changed.
`marks` counts the marks that have been given to atoms.
-/

namespace GraphQuery

/-- The state of a session. `events` and `log` are what the present step has reported so far. -/
structure Session where
  store : Store
  current? : Option Nat
  vars : List (String × String)
  channel : LogChannel
  events : List Event
  log : String
  marks : Nat

/-- A step of a session, which may fail. -/
abbrev Operation (α : Type) := ExceptT Fault (StateM Session) α

namespace Session

/-- A session at its start: default settings, no variables, no handler. -/
def initial : Session :=
  ⟨Store.empty.push (.settings .defaults), some 0, [], .initial, [], "", Setting.defaultMark⟩

/-- The current settings, unless there are none or they lack a field. -/
def settings? (s : Session) : Option Settings :=
  match (s.current?.filter fun h => !s.store.isLacking h).bind s.store.get? with
  | some (.settings v) => some v
  | _ => none

/-- A console is among the handlers of the outermost logger, so that nothing that is printed can be
seen. -/
def showsOnConsole (s : Session) : Bool :=
  s.channel.outermost.handlers.any fun v =>
    match s.store.object? v with
    | some (.handler h) => h.console
    | _ => false

end Session

namespace Operation

/-- How objects look at present. -/
def view : Operation ObjectView := return (← get).store.view

/-- Carries out an assembling step on the store of the session. -/
def assemble {α : Type} (step : Assembly α) : Operation α := do
  let s ← get
  let (result, store) := step.run.run s.store
  set { s with store := store }
  match result with
  | .ok a => return a
  | .error f => throw f

/-- The current settings, which have to be there. -/
def settings : Operation Settings := do
  match (← get).settings? with
  | some s => return s
  | none => throw .missing

/-- Goes on with a result, or fails. -/
def settle {α : Type} : Except Fault α → Operation α
  | .ok a => return a
  | .error f => throw f

/-- Gives a record to a logger, if it reaches the level that counts for the logger. -/
def give (logger : String) (r : LogRecord) : Operation Unit := do
  let s ← get
  if s.channel.passes logger r.rank then
    let (result, text) := (s.store.dispatch s.channel logger r).run.run ""
    set { s with log := s.log ++ text }
    settle result

/-- Gives an event to its logger with a time stamp. As the name of the logger something else may be
told. -/
def giveEvent (told : Value) (e : Event) (aboutError : Bool) : Operation Unit := do
  let channel := (← get).channel
  if channel.passes e.source e.severity.rank then
    match channel.stamp? with
    | some stamp =>
      let entries := LogChannel.entries (← view) stamp told e
      give e.source ⟨.event entries, .int e.severity.rank, aboutError⟩
    | none => throw .wrongType

/-- Reports an event: it is kept, or else given to its logger. -/
def report (e : Event) : Operation Unit := do
  if (← get).channel.keeping then modify fun s => { s with events := s.events ++ [e] }
  else giveEvent (.text e.source) e false

/-- Passes a check that needs to know how objects look. -/
def check {α : Type} (c : ObjectView → Except Fault α) : Operation α := do
  settle (c (← view))

/-- Replaces an object. -/
def replace (h : Nat) (o : Object) : Operation Unit :=
  modify fun s => { s with store := s.store.replace h o }

/-- A mark that no atom has. -/
def freshMark : Operation Nat := do
  let s ← get
  set { s with marks := s.marks + 1 }
  return s.marks + 1

/-- The value with a mark of its own, unless it has one. -/
def marked (v : Value) : Operation Value := do
  match v with
  | .atom a 0 => return .atom a (← freshMark)
  | v => return v

end Operation

end GraphQuery
