import GraphQuery.Settings.Basic
import GraphQuery.Text.Blank
import GraphQuery.Text.Digit

/-!
The health of the current settings: what no single field shows.

* Two name stems are ambiguous when one is the other followed by digits: their names can then be
  the same text, and numbers are passed over.
* Clauses run together unless the separator is white space.
* The log level has to be one that is known.

Fields can hold values of any class, and asking such a value for what only a text has is a fault.
-/

namespace GraphQuery

/-- One text is the other followed by digits. -/
def isNumbered (short long : String) : Bool :=
  short.toList.isPrefixOf long.toList &&
    Text.isDigits (String.ofList (long.toList.drop short.length))

/-- Something that the settings are found to do. -/
structure Finding where
  field : String
  message : String
  deriving DecidableEq, Repr

/-- The findings about one record of settings. -/
structure Health where
  errors : List Finding
  warnings : List Finding

namespace Health

/-- Sound, doubtful or broken. -/
def overall (h : Health) : String :=
  if !h.errors.isEmpty then "error" else if !h.warnings.isEmpty then "warning" else "healthy"

/-- The report when there are no settings at all. -/
def uninitialized : Health :=
  ⟨[⟨"settings", "Configuration object not initialized."⟩], []⟩

/-- The ordered pairs of different fields with name stems. -/
def stemPairs : List (Setting × Setting) :=
  Setting.stems.flatMap fun a => (Setting.stems.filter (· ≠ a)).map fun b => (a, b)

/-- A value begins with one of several others, which are looked at up to the first that it begins
with. -/
def beginsWithAny {α : Type} (part? : Value → Option α) (begins : α → Bool) :
    List Value → Except Fault Bool
  | [] => .ok false
  | v :: rest =>
    match part? v with
    | none => .error .wrongType
    | some a => if begins a then .ok true else beginsWithAny part? begins rest

/-- The byte string that a value is. -/
def bytes? : Value → Option (List UInt8)
  | .atom (.bytes data) _ => some data
  | _ => none

/-- The byte is a digit. -/
def isDigitByte (b : UInt8) : Bool := 0x30 ≤ b && b ≤ 0x39

/-- A sequence is another followed by digits. The other can be given as a choice of several, and is
then as long as they are many. -/
def isExtended {α : Type} (view : ObjectView) (part? : Value → Option (List α))
    (isPrefix : List α → Bool) (areDigits : List α → Bool) (long : List α) (short : Value) :
    Except Fault Bool :=
  match part? short, short.content view with
  | some part, _ => .ok (isPrefix part && areDigits (long.drop part.length))
  | none, .tuple items => do
    return (← beginsWithAny part? isPrefix items) && areDigits (long.drop items.length)
  | none, _ => .error .wrongType

/-- One value is another followed by digits, as far as they can be compared. -/
def ambiguous (view : ObjectView) (short long : Value) : Except Fault Bool :=
  if short.equal view long then .ok false
  else
    match short.text?, long.text?, bytes? long with
    | some short, some long, _ => .ok (isNumbered short long)
    | none, some s, _ =>
      isExtended view (fun v => v.text?.map String.toList) (·.isPrefixOf s.toList)
        (fun cs => Text.isDigits (String.ofList cs)) s.toList short
    | _, none, some data =>
      isExtended view bytes? (·.isPrefixOf data) (fun bs => !bs.isEmpty && bs.all isDigitByte)
        data short
    | _, none, none => .error .missing

/-- The warning about two fields, given the texts of their values. -/
def stemWarning (a b : Setting) (quotedA quotedB : String) : Finding :=
  ⟨b.name, b.name ++ " (" ++ quotedB ++ ") is " ++ a.name ++ " (" ++ quotedA ++
    ") followed by digits; generated identifiers may collide."⟩

/-- The warnings about name stems. -/
def stemWarnings (view : ObjectView) (s : Settings) : Except Fault (List Finding) :=
  List.flatten <$> stemPairs.mapM fun (a, b) => do
    if ← ambiguous view (s.value a) (s.value b) then
      return [stemWarning a b (← (s.value a).quoted view) (← (s.value b).quoted view)]
    else return []

/-- A value is white space, as far as it can be asked. -/
def isSpace (v : Value) : Except Fault Bool :=
  match v.text?, bytes? v with
  | some s, _ => .ok (Text.isBlank s)
  | none, some data => .ok (data.all fun b => b == 0x20 || (9 ≤ b && b ≤ 13))
  | none, none => .error .missing

/-- The errors about the separator. -/
def separatorErrors (view : ObjectView) (s : Settings) : Except Fault (List Finding) := do
  let v := s.value .separator
  if v.truth view then
    if ← isSpace v then return []
  return [⟨Setting.separator.name,
    "CLAUSE_SEPARATOR must be non-empty whitespace; got " ++ (← v.quoted view) ++ "."⟩]

/-- A value names a log level. Only what can be a key can be asked, and it has to have a text; a
tuple counts as its only item. -/
def isLogLevel (view : ObjectView) (v : Value) : Except Fault Bool :=
  if !v.hashable view then .error .wrongType
  else
    match v.text?, v.content view with
    | some s, _ => .ok (logLevels.lookup s).isSome
    | none, .tuple [item] => do
      let _ ← item.plain view
      return false
    | none, .tuple _ => .error .wrongType
    | none, _ => do
      let _ ← v.plain view
      return false

/-- The errors about the log level. -/
def levelErrors (view : ObjectView) (s : Settings) : Except Fault (List Finding) := do
  let v := s.value .logLevel
  if ← isLogLevel view v then return []
  return [⟨Setting.logLevel.name,
    "LOG_LEVEL " ++ (← v.quoted view) ++ " is not a known logging level."⟩]

/-- The health of a record of settings. -/
def ofSettings (view : ObjectView) (s : Settings) : Except Fault Health := do
  let warnings ← stemWarnings view s
  let separator ← separatorErrors view s
  let level ← levelErrors view s
  return ⟨separator ++ level, warnings⟩

end Health

end GraphQuery
