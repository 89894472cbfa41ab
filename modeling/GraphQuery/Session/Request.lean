import GraphQuery.Session.Configuring
import GraphQuery.Session.Inspecting
import GraphQuery.Session.Logging
import GraphQuery.Text.Placeless

/-!
Requests: every call of the library as data, with its arguments as they are given.

A request is carried out on a session by `Request.perform`. Its answer is a value; the two
formatters of log lines answer a line together with the names of the fields that it was made from.
-/

namespace GraphQuery

/-- A call of the library. -/
inductive Request where
  /-- Assembles a part of a query. -/
  | construct (c : Construction)
  /-- The labels that a value lists. -/
  | labels (values role : Value)
  /-- A clause, statement or union as it is; everything else is refused. -/
  | compilable (v : Value)
  | isIdentifier (v : Value)
  | checkIdentifier (v role : Value)
  | escaped (v : Value)
  /-- Compiles a clause, statement or union. -/
  | compile (v : Value)
  /-- Writes an object with the names of an environment. -/
  | write (v environment : Value)
  /-- The same behind a text, or an empty text when nothing is written. -/
  | writeBehind (v environment lead : Value)
  /-- A compiled query from its parts. -/
  | compiled (text? params? : Option Value)
  /-- The text and the parameters of a compiled query. -/
  | pair (query : Nat)
  | environment (stems bareFirst separator : Value)
  | labelFor (environment : Nat) (v : Value)
  | keyFor (environment : Nat) (v : Value)
  | isRegistered (environment : Nat) (v : Value)
  | params (environment : Nat)
  /-- Whether a clause has a slot of the name. -/
  | supports (clause : Nat) (name : Value)
  /-- The entries of a dictionary that are something. -/
  | context (entries : Value)
  | error (className wording details : Value)
  | settings (given : List (String × Value))
  | getSetting (key : Value)
  | setSetting (key v : Value)
  | reload
  | clearSettings
  | health
  | setVariable (name v : Value)
  | unsetVariable (name : Value)
  | formatLine (event markup : Value)
  /-- Takes the internal entries out of an event. -/
  | dropInternal (event : Value)
  | setUpLogging (level : Value)
  /-- An event of the application, with named details. -/
  | notice (method event details : Value)
  /-- A message of the application, with arguments that are put into it. -/
  | message (logger method text : Value) (arguments : List Value)
  | assign (receiver name v : Value)
  /-- Takes an item out of a list. -/
  | removeItem (list : Nat) (v : Value)
  | isSame (a b : Value)
  | isEqual (a b : Value)
  | quoted (v : Value)
  /-- A call of a value that was assigned in the place of a method. No value can be called. -/
  | uncallable

/-- What a call answers. -/
inductive Answer where
  | value (v : Value)
  /-- A formatted line, with the names of the fields left in the event. -/
  | line (text : String) (remaining : List Value)

namespace Answer

/-- An answer as an argument of another call. -/
def toValue : Answer → Operation Value
  | value v => return v
  | line text remaining => Operation.assemble do
    Assembly.record [("text", .text text), ("remaining", ← Assembly.list remaining)]

end Answer

namespace Request

open Operation

/-- Carries out a call. -/
def perform : Request → Operation Answer
  | construct c => .value <$> assemble c.perform
  | labels values role => .value <$> Operation.labels values role
  | compilable v => do
    let _ ← assemble (Assembly.compilable v)
    return .value v
  | isIdentifier v => return .value (.bool (Text.isIdentifier (← text v)))
  | checkIdentifier v role => .value <$> identifier v role
  | escaped v => .value <$> Operation.escaped v
  | compile v => .value <$> Operation.compile v
  | write v e => .value <$> Operation.write v e
  | writeBehind v e lead => .value <$> Operation.writeBehind v e lead
  | compiled text? params? => .value <$> Operation.compiled text? params?
  | pair h => .value <$> Operation.pair h
  | environment stems bareFirst separator =>
    .value <$> newEnvironment stems bareFirst separator
  | labelFor h v => .value <$> Operation.labelFor h v
  | keyFor h v => .value <$> Operation.keyFor h v
  | isRegistered h v => .value <$> registered h v
  | params h => .value <$> Operation.params h
  | supports h name => do
    match (← get).store.get? h with
    | some (.clause c) =>
      return .value (.bool (c.head.manifest.any fun slot => name.isText slot.name))
    | _ => throw .missing
  | context entries => .value <$> Operation.context entries
  | error className wording details => .value <$> Operation.error className wording details
  | settings given => .value <$> newSettings given
  | getSetting key => .value <$> Operation.getSetting key
  | setSetting key v => .value <$> Operation.setSetting key v
  | reload => .value <$> Operation.reload
  | clearSettings => .value <$> Operation.clearSettings
  | health => .value <$> Operation.health
  | setVariable name v => .value <$> Operation.setVariable name v
  | unsetVariable name => .value <$> Operation.unsetVariable name
  | formatLine event markup => do
    let formatted ← Operation.formatLine event markup
    return .line formatted.text formatted.remaining
  | dropInternal event => .value <$> Operation.dropInternal event
  | setUpLogging level => .value <$> Operation.setUpLogging level
  | notice method event details => .value <$> Operation.notice method event details
  | message logger method text arguments =>
    .value <$> Operation.message logger method text arguments
  | assign receiver name v => .value <$> Operation.assign receiver name v
  | removeItem list v => .value <$> Operation.removeItem list v
  | isSame a b => return .value (.bool (a.same (← view) b))
  | isEqual a b => return .value (.bool (a.equal (← view) b))
  | uncallable => throw .wrongType
  | quoted v => return .value (.text (Text.placeless (← check v.quoted)))

end Request

end GraphQuery
