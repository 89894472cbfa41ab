import GraphQuery.Text.Uppercase
import GraphQuery.Value.Equality
import GraphQuery.Value.Text
import GraphQuery.Fault

/-!
Log lines: an event as one line of text, plain or with markup for a console.

A line is first taken apart into its parts, which are the same for both forms; the two forms differ
in the tags around the name of the logger, the level, the event and the names of the fields.
Fields whose names begin with an underscore are internal and not shown.
-/

namespace GraphQuery

/-- The parts of a log line. -/
structure LogLine where
  stamp? : Option String
  logger? : Option String
  level : String
  event? : Option String
  fields : List (String × String)
  deriving DecidableEq, Repr

/-- The colours of the levels that have one. -/
def levelColours : List (String × String) :=
  [("CRITICAL", "red"), ("ERROR", "red"), ("WARNING", "yellow"), ("INFO", "green")]

/-- The fields that become parts of their own. -/
def reservedFields : List String := ["level", "timestamp", "logger", "event"]

/-- The longest text that a field shows in full. -/
def fieldWidth : Nat := 80

/-- A text in a log line: what is too long is cut, and dots tell so. -/
def shortened (s : String) : String :=
  if s.length ≤ fieldWidth then s
  else String.ofList (s.toList.take (fieldWidth - 3)) ++ "..."

/-- The last part of a dotted name. -/
def lastPart (name : String) : String :=
  String.ofList (name.toList.reverse.takeWhile (· != '.')).reverse

namespace LogLine

/-- The name that a field goes by, as far as a value has the operations of a text. -/
def fieldName : Value → Except Fault Name
  | .atom (.bytes _) _ => .error .wrongType
  | v => v.name?.elim (.error .missing) .ok

/-- The field is internal. -/
def isInternal (n : Name) : Bool := n.word.toList.head? == some '_'

/-- The value of a field as it is shown. -/
def fieldValue (view : ObjectView) : Value → Except Fault String
  | .atom (.text s) _ => .ok (shortened s)
  | v => v.plain view

/-- A field of the line, unless it is internal. -/
def field (view : ObjectView) (entry : Value × Value) :
    Except Fault (Option (String × String)) := do
  let n ← fieldName entry.1
  if isInternal n then return none
  return some (n.running, ← fieldValue view entry.2)

/-- The short name of a logger. -/
def shortName (view : ObjectView) (v : Value) : Except Fault (Option String) :=
  if v.truth view then (fun n => some (lastPart n.word)) <$> fieldName v else .ok none

/-- The entries that remain when the parts of their own are taken out. -/
def remaining (entries : List (Value × Value)) : List (Value × Value) :=
  reservedFields.foldl Value.remove entries

/-- The level that the entries tell, in capitals. -/
def levelOf (view : ObjectView) (entries : List (Value × Value)) : Except Fault String :=
  Text.uppercase <$> ((Value.lookup? entries "level").getD (.text "INFO")).plain view

/-- A part of the line, unless its value counts as false. -/
def part? (view : ObjectView) (entries : List (Value × Value)) (name : String) :
    Except Fault (Option String) :=
  match (Value.lookup? entries name).filter (·.truth view) with
  | some v => some <$> v.plain view
  | none => .ok none

/-- The parts of the line for an event of the given level. -/
def ofEntries (view : ObjectView) (level : String) (entries : List (Value × Value)) :
    Except Fault LogLine := do
  let stamp? ← part? view entries "timestamp"
  let logger? ← shortName view ((Value.lookup? entries "logger").getD (.text ""))
  let event? ← part? view entries "event"
  let fields ← (remaining entries).mapM (field view)
  return ⟨stamp?, logger?, level, event?, fields.filterMap id⟩

/-- A text between tags. -/
def tagged (tag s : String) : String := "[" ++ tag ++ "]" ++ s ++ "[/" ++ tag ++ "]"

/-- The level, in its colour if it has one. -/
def levelText (markup : Bool) (level : String) : String :=
  match markup, levelColours.lookup level with
  | true, some colour => tagged colour level
  | _, _ => level

/-- The parts of a line as they are shown, in their order. -/
def parts (markup : Bool) (line : LogLine) : List String :=
  line.stamp?.toList
    ++ (line.logger?.map fun name =>
        if markup then tagged "cyan" name else "[" ++ name ++ "]").toList
    ++ [levelText markup line.level]
    ++ (line.event?.map fun event => if markup then tagged "bold" event else event).toList
    ++ if line.fields.isEmpty then []
      else ["(" ++ ", ".intercalate (line.fields.map fun f =>
        (if markup then tagged "dim" f.1 else f.1) ++ "=" ++ f.2) ++ ")"]

/-- The text of a line. -/
def render (markup : Bool) (line : LogLine) : String :=
  " ".intercalate (line.parts markup)

/-- The line for an event. -/
def ofEvent (view : ObjectView) (entries : List (Value × Value)) : Except Fault LogLine := do
  ofEntries view (← levelOf view entries) entries

/-- The entries without the internal ones. -/
def visible (entries : List (Value × Value)) : Except Fault (List (Value × Value)) :=
  entries.filterM fun entry => do return !isInternal (← fieldName entry.1)

end LogLine

end GraphQuery
