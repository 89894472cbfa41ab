import GraphQuery.Value.Basic

/-!
Log events: what the library reports about its work, and what an application reports through the
same channel. An event has a name, a severity, a source and named fields in a fixed order.
-/

namespace GraphQuery

/-- The severities of a log event, from the least to the gravest. What has none goes nowhere. -/
inductive Severity where
  | unset
  | debug
  | info
  | warning
  | error
  | critical
  deriving DecidableEq, Repr

namespace Severity

/-- All severities. -/
def all : List Severity := [unset, debug, info, warning, error, critical]

/-- The word for a severity. -/
def word : Severity → String
  | unset => "notset"
  | debug => "debug"
  | info => "info"
  | warning => "warning"
  | error => "error"
  | critical => "critical"

/-- The number that severities are compared by. -/
def rank : Severity → Nat
  | unset => 0
  | debug => 10
  | info => 20
  | warning => 30
  | error => 40
  | critical => 50

/-- The severity of a number. -/
def ofRank? (i : Int) : Option Severity := all.find? fun s => (s.rank : Int) = i

/-- The severity that the name of a logging method stands for. -/
def ofMethod? : String → Option Severity
  | "debug" => some debug
  | "info" => some info
  | "warning" | "warn" => some warning
  | "error" | "exception" => some error
  | "critical" | "fatal" => some critical
  | _ => none

end Severity

/-- The log levels, with the numbers they stand for. -/
def logLevels : List (String × Nat) :=
  [("CRITICAL", 50), ("FATAL", 50), ("ERROR", 40), ("WARN", 30), ("WARNING", 30), ("INFO", 20),
    ("DEBUG", 10), ("NOTSET", 0)]

/-- What happened. -/
inductive Event where
  /-- A name was passed over because it was in use already. -/
  | collision (identifier index : Value)
  /-- A union is about to be written, when the counter stands at `startIndex`. -/
  | union (branches : Nat) (keyword : String) (startIndex : Value)
  /-- A query was compiled; `text?` is told only on demand. -/
  | compiled (root : String) (identifiers params : Nat) (text? : Option Value)
  /-- The settings were read anew. -/
  | reloaded (fields : Nat)
  /-- Log lines are set up. -/
  | configured (level : String) (rich : Value)
  /-- The application says something itself. -/
  | notice (severity : Severity) (message : Value) (details : List (Name × Value))
  deriving Inhabited

namespace Event

/-- The name of an event. -/
def name : Event → Value
  | collision .. => .text "Skipping colliding identifier"
  | union .. => .text "Compiling union"
  | compiled .. => .text "Compiled query"
  | reloaded .. => .text "Configuration reloaded"
  | configured .. => .text "Logging configured"
  | notice _ message _ => message

/-- How grave an event is. -/
def severity : Event → Severity
  | notice severity .. => severity
  | _ => .debug

/-- The name of the logger that an event comes from. -/
def source : Event → String
  | collision .. => "cypher_compose.core.environment"
  | union .. => "cypher_compose.clauses.union"
  | compiled .. => "cypher_compose.statement"
  | reloaded .. => "cypher_compose.config.loader"
  | configured .. => "cypher_compose.core.logging_config"
  | notice .. => "app.main"

/-- Fields with names of the library's own. -/
def ownFields (fields : List (String × Value)) : List (Name × Value) :=
  fields.map fun f => (.text f.1, f.2)

/-- The fields of an event. -/
def fields : Event → List (Name × Value)
  | collision identifier index => ownFields [("identifier", identifier), ("index", index)]
  | union branches keyword startIndex =>
    ownFields [("branches", .int branches), ("keyword", .text keyword),
      ("start_index", startIndex)]
  | compiled root identifiers params text? =>
    ownFields ([("root", .text root), ("identifiers", .int identifiers), ("params", .int params)]
      ++ (text?.map fun text => ("cypher", text)).toList)
  | reloaded fields => ownFields [("fields", .int fields)]
  | configured level rich => ownFields [("level", .text level), ("rich", rich)]
  | notice _ _ details => details

end Event

end GraphQuery
