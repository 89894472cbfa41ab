import GraphQuery.Log.Channel
import GraphQuery.Log.Message

/-!
Records: what a logger gives to handlers.

A record is an event with its entries, or a message with arguments that have yet to be put into it.
A handler makes a line of either. Where nothing is known of lines, an event is the text of its
entries as a dictionary, and a message is itself.
-/

namespace GraphQuery

/-- What a record says. -/
inductive LogContent where
  | event (entries : List (Value × Value))
  /-- A message of a logger, with arguments and further details. -/
  | message (logger : String) (template : Value) (arguments : List Value)
    (details : List (Name × Value))

/-- What a logger gives to handlers: what it says, its level, which is a number, and whether it is
about an error. -/
structure LogRecord where
  content : LogContent
  level : Atom
  aboutError : Bool

namespace LogRecord

/-- The number of the level. -/
def rank (r : LogRecord) : Int := r.level.int?.getD 0

/-- What is told of an error when there is none. -/
def absentError : String := "NoneType: None"

/-- The text of the message, with its arguments put in. -/
def messageText (view : ObjectView) (template : Value) (arguments : List Value) :
    Except Fault String := do
  messageOf view (← template.plain view) arguments

/-- The line of a record. A message gets the time stamp that is given here. -/
def line (view : ObjectView) (stamp? : Option String) (r : LogRecord) : Except Fault LogLine :=
  match r.content with
  | .event entries => LogLine.ofEvent view entries
  | .message logger template arguments details => do
    let text ← messageText view template arguments
    let stamp ← stamp?.elim (.error .wrongType) .ok
    LogLine.ofEvent view (LogChannel.stamped view details
      [("event", .text text), ("level", .text (logLevelName r.level)), ("logger", .text logger),
        ("timestamp", .text stamp)])

/-- What a record says, where nothing is known of lines. -/
def contentText (view : ObjectView) (quoted : Value → Except Fault String) :
    LogContent → Except Fault String
  | .event entries => dictText <$> Store.quotedEntries quoted entries
  | .message _ template arguments _ => messageText view template arguments

/-- The text of a record where nothing is known of lines. An error is told on a line of its own. -/
def text (store : Store) (r : LogRecord) : Except Fault String := do
  let said ← contentText store.view store.quoted r.content
  if !r.aboutError then return said
  return said ++ (if said.endsWith "\n" then "" else "\n") ++ absentError

end LogRecord

end GraphQuery
