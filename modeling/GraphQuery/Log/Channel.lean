import GraphQuery.Log.Line
import GraphQuery.Log.Logger
import GraphQuery.Settings.Health
import GraphQuery.Store.View

/-!
The channel of log events: where events go, and how it is set up.

At first all events are kept. From the first set-up on they are reported to loggers instead, from
which they go on to handlers. A set-up that is not admissible changes nothing. Otherwise it removes
the handlers of the outermost logger; whether there is a level of the name that it asks for is found
out after that. So a set-up that fails can leave no handler behind.
-/

namespace GraphQuery

/-- Where events go: whether they are kept, the loggers that something has been set for, and the
time stamp that events get, if the form of time stamps gives one. -/
structure LogChannel where
  keeping : Bool
  loggers : List Logger
  stamp? : Option String
  deriving DecidableEq

namespace LogChannel

/-- The channel before any set-up. -/
def initial : LogChannel := ⟨true, [], some ""⟩

/-! ### Loggers -/

/-- The logger of a name. -/
def logger (channel : LogChannel) (name : String) : Logger :=
  (channel.loggers.find? fun l => l.name = name).getD (.untouched name)

/-- The channel with something set for a logger. -/
def change (channel : LogChannel) (name : String) (f : Logger → Logger) : LogChannel :=
  { channel with
    loggers := f (channel.logger name) :: channel.loggers.filter fun l => l.name ≠ name }

/-- The logger that all others are below. -/
def outermost (channel : LogChannel) : Logger := channel.logger Logger.outermost

/-- A logger and those that it is below. -/
def lineage (channel : LogChannel) (name : String) : List Logger :=
  (Logger.lineage name).map channel.logger

/-- The level that counts for a logger: that of the nearest one that has a level. -/
def level (channel : LogChannel) (name : String) : Int :=
  (((channel.lineage name).find? Logger.hasLevel).bind (·.level.int?)).getD 0

/-- What has a severity of the given number goes further than a logger. -/
def passes (channel : LogChannel) (name : String) (rank : Int) : Bool :=
  0 < rank && channel.level name ≤ rank

/-- The handlers that a logger reports to. -/
def handlers (channel : LogChannel) (name : String) : List Value :=
  (channel.lineage name).flatMap (·.handlers)

/-! ### Set-up -/

/-- A percent sign in the form of a time stamp is written twice, and a null character ends it. -/
def stampOf : List Char → List Char
  | '\x00' :: _ => []
  | '%' :: '%' :: cs => '%' :: stampOf cs
  | c :: cs => c :: stampOf cs
  | [] => []

/-- The time stamp of a form without directives. A byte string gives none. -/
def stampText? : Value → Option String
  | .atom (.bytes _) _ => none
  | form => some (String.ofList (stampOf ((form.text?.getD "").toList)))

/-- A value is let pass as the form of a time stamp. -/
def isStampForm : Value → Bool
  | .atom .null _ | .atom (.text _) _ | .atom (.direction _) _ | .atom (.bytes _) _ => true
  | _ => false

/-- A value is written in letters, so that capitals can be asked of it. -/
def isLettered : Value → Bool
  | .atom (.text _) _ | .atom (.direction _) _ | .atom (.bytes _) _ => true
  | _ => false

/-- The level that is asked for: the one given, or else the configured one. -/
def wanted (view : ObjectView) (settings? : Option Settings) (level : Value) :
    Except Fault Value :=
  if level.truth view then .ok level
  else
    match settings? with
    | some s => .ok (s.value .logLevel)
    | none => .error .missing

/-- The number of a level that is asked for by name, in capitals. -/
def levelNumber (level : Value) : Except Fault Nat :=
  match level.text? with
  | some s =>
    match logLevels.lookup (Text.uppercase s) with
    | some n => .ok n
    | none => .error .wrongValue
  | none => .error .wrongType

/-- What has to hold before anything is changed: there are settings, the level is asked for by
something that is written in letters, and time stamps have a form. -/
def admissible (view : ObjectView) (settings? : Option Settings) (level : Value) :
    Except Fault (Settings × Value) := do
  let level ← wanted view settings? level
  if !isLettered level then throw .missing
  match settings? with
  | some s => if isStampForm (s.value .dateFormat) then return (s, level) else throw .missing
  | none => throw .missing

/-- The channel without handlers at the outermost logger, with the time stamp of a form. -/
def cleared (channel : LogChannel) (form : Value) : LogChannel :=
  { channel.change Logger.outermost fun l => { l with handlers := [] } with
    keeping := false
    stamp? := stampText? form }

/-- The channel with a handler and its level at the outermost logger. -/
def installed (channel : LogChannel) (handle level : Nat) : LogChannel :=
  channel.change Logger.outermost fun l =>
    { l with handlers := [.object handle], level := .int level }

/-- Sets up the channel with a handler of the given handle: the channel afterwards, and the handler
that it then has. -/
def setUp (channel : LogChannel) (view : ObjectView) (settings? : Option Settings) (level : Value)
    (handle : Nat) : LogChannel × Except Fault LogHandler :=
  match admissible view settings? level with
  | .error f => (channel, .error f)
  | .ok (s, level) =>
    let cleared := channel.cleared (s.value .dateFormat)
    match levelNumber level with
    | .error f => (cleared, .error f)
    | .ok n =>
      (cleared.installed handle n,
        .ok ⟨(s.value .richLogging).truth view, .int n, cleared.stamp?⟩)

/-! ### Events -/

/-- A byte string that is part of an event is shown as the text that it encodes. -/
def decoded : Value → Value
  | .atom (.bytes data) _ => .text (Text.ofOctets data)
  | v => v

/-- The details of an event with entries of the channel's own. -/
def stamped (view : ObjectView) (details : List (Name × Value)) (own : List (String × Value)) :
    List (Value × Value) :=
  own.foldl (fun entries e => Value.store view entries (.text e.1) e.2)
    (details.map fun d => (d.1.value, d.2))

/-- An event as the entries that handlers are given, with a time stamp. The name of the logger is
taken for granted. A message of nothing is none. -/
def entries (view : ObjectView) (stamp : String) (logger : Value) (e : Event) :
    List (Value × Value) :=
  stamped view ((e.fields.filter (·.1.word ≠ "stack_info")).map fun f => (f.1, decoded f.2))
    ((e.name.given?.map fun name => ("event", decoded name)).toList
      ++ [("level", .text e.severity.word), ("logger", decoded logger),
        ("timestamp", .text stamp)])

end LogChannel

end GraphQuery
