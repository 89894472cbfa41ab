import GraphQuery.Store.Basic

/-!
How objects look in messages and in running text, and which of them are equal.

A collection that is shown inside itself is cut short there; a record or an access to a property
that contains itself has no text, and asking for it is a fault.

* `Store.view`: how all objects look at present.
-/

namespace GraphQuery

/-- The names of the log levels that have one. -/
def logLevelNames : List (Int × String) :=
  [(50, "CRITICAL"), (40, "ERROR"), (30, "WARNING"), (20, "INFO"), (10, "DEBUG"), (0, "NOTSET")]

/-- What a log level is called. The name of a level is called by the number of the level. -/
def logLevelName (level : Atom) : String :=
  match level.int?.bind (logLevelNames.lookup ·), level.name?.bind (logLevels.lookup ·.word) with
  | some name, _ => name
  | none, some n => toString n
  | none, none => "Level " ++ level.plain

/-- Items with commas between them. -/
def commaSeparated (items : List String) : String := ", ".intercalate items

/-- The text of a tuple with the texts of its items. -/
def tupleText : List String → String
  | [item] => "(" ++ item ++ ",)"
  | items => "(" ++ commaSeparated items ++ ")"

/-- The text of a dictionary with the texts of its keys and values. -/
def dictText (entries : List (String × String)) : String :=
  "\x7b" ++ commaSeparated (entries.map fun e => e.1 ++ ": " ++ e.2) ++ "\x7d"

namespace Object

/-- The module that a message names in front of the class. -/
def moduleName : Object → String
  | expression (.call ..) => "expressions.functions"
  | expression _ => "expressions.operations"
  | column _ | sortItem _ => "expressions.projection"
  | nodeElement _ | relationshipElement _ | pattern _ | chain _ => "pattern.pattern"
  | clause c =>
    match c.head with
    | .read .. => "clauses.match"
    | .create _ => "clauses.create"
    | .project _ => "clauses.projection"
  | fragment .. => "clauses.capabilities"
  | statement _ => "statement"
  | union .. => "clauses.union"
  | environment .. | looseEnvironment _ => "core.environment"
  | settings _ => "config.settings"
  | compiled _ => "models.compiled_query"
  | error _ => "core.exceptions"
  | _ => "references"

/-- The text of an object that has none of its own: its class and that it is somewhere. -/
def placed (o : Object) : String :=
  "<cypher_compose." ++ o.moduleName ++ "." ++ o.className ++ " object at 0x>"

end Object

namespace Store

/-! ### Texts -/

section Texts

/- The text of a value in a message. -/
variable (quoted : Value → Except Fault String)

/-- The texts of entries. -/
def quotedEntries (entries : List (Value × Value)) : Except Fault (List (String × String)) :=
  entries.mapM fun e => do return (← quoted e.1, ← quoted e.2)

/-- The fields of a record with their texts, without those that are gone. -/
def fieldTexts (s : Store) (h : Nat) (between : String) (fields : List (String × String)) :
    String :=
  between.intercalate
    ((fields.filter fun f => !s.isGone h f.1).map fun f => f.1 ++ "=" ++ f.2)

/-- The fields of a record with their values. -/
def quotedFields (s : Store) (h : Nat) (between : String) (fields : List (String × Value)) :
    Except Fault String := do
  let texts ← fields.mapM fun f => do return (f.1, ← quoted f.2)
  return s.fieldTexts h between texts

/-- The fields of a compiled query with their values. -/
def quotedQuery (s : Store) (h : Nat) (between : String) (q : CompiledQuery) :
    Except Fault String := do
  let params ← quotedEntries quoted q.params
  return s.fieldTexts h between [("text", Text.quoted q.text), ("params", dictText params)]

/-- The names of a property access with points between them. -/
def quotedPath (s : Store) (path : Attribute (List Name)) : Except Fault String := do
  let names ← path.resolve .ok fun v =>
    match v with
    | .atom a _ =>
      a.name?.elim (.error .wrongType) fun n => .ok (n.word.toList.map (.text ·.toString))
    | .object h =>
      match s.content h with
      | .list items | .tuple items =>
        items.mapM fun v => v.name?.elim (.error .wrongType) .ok
      | .dict entries => entries.mapM fun e => e.1.name?.elim (.error .wrongType) .ok
      | _ => .error .wrongType
  return ".".intercalate (names.map Name.word)

/-- What the level of a handler is called. A collection is none, but the only item of a tuple is. -/
def quotedLevel (s : Store) : Value → Except Fault String
  | .atom a _ => .ok (logLevelName a)
  | .object h =>
    match s.content h with
    | .tuple [.atom a _] => .ok ("Level " ++ a.plain)
    | .nothing => do return "Level " ++ (← quoted (.object h))
    | _ => .error .wrongType

/-- The text of an object in a message, given those of the values in it. `inside` tells whether the
object is shown inside itself. -/
def quotedObject (s : Store) (h : Nat) (inside : Bool) : Object → Except Fault String
  | .list items =>
    if inside then .ok "[...]"
    else do return "[" ++ commaSeparated (← items.mapM quoted) ++ "]"
  | .tuple items => if inside then .ok "(...)" else do return tupleText (← items.mapM quoted)
  | .dict entries =>
    if inside then .ok "\x7b...\x7d" else do return dictText (← quotedEntries quoted entries)
  | .reference r => .ok ("<" ++ r.className ++ " " ++ r.kind.word ++ " at 0x>")
  | .param p => do return "Param(" ++ (← quoted p.value) ++ ")"
  | .expression (.property base path) => do
    let base ← quoted base
    return "PropertyRef(" ++ base ++ ", " ++ (← quotedPath s path) ++ ")"
  | .settings v => do
    return "CypherComposeSettings(" ++ (← s.quotedFields quoted h ", " v.fields) ++ ")"
  | .compiled q => do return "CompiledQuery(" ++ (← s.quotedQuery quoted h ", " q) ++ ")"
  | .error e => do
    return e.className ++ "(" ++ commaSeparated (← e.arguments.mapM quoted) ++ ")"
  | .handler handler => do
    if s.isGone h "level" then throw .missing
    return "<" ++ handler.className ++ " (" ++ (← s.quotedLevel quoted handler.level) ++ ")>"
  | o => .ok o.placed

end Texts

/-- A value counts as true. -/
def truth (s : Store) : Value → Bool
  | .atom a _ => a.truth
  | .object h => (s.content h).truth

/-- The plain text of an error: its message, and its details when there are any. Alone the message
has to be a text, and is written as its word. -/
def plainError (s : Store) (plain : Value → Except Fault String) (e : ErrorRecord) :
    Except Fault String :=
  if s.truth e.details then do
    let message ← plain e.message
    return message ++ " (Details: " ++ (← plain e.details) ++ ")"
  else
    match e.message.text? with
    | some s => .ok s
    | none => .error .wrongType

/-- The text of a value in a message, where the collections in `outer` are being shown. -/
def quotedWithin (s : Store) : Nat → List Nat → Value → Except Fault String
  | _, _, .atom a _ => .ok a.quoted
  | 0, _, .object _ => .error .endless
  | depth + 1, outer, .object h =>
    match s.get? h with
    | some o => s.quotedObject (s.quotedWithin depth (h :: outer)) h (outer.contains h) o
    | none => .ok ""

/-- The text of a value in running text. -/
def plainWithin (s : Store) (quoted : Value → Except Fault String) :
    Nat → Value → Except Fault String
  | _, .atom a _ => .ok a.plain
  | 0, .object _ => .error .endless
  | depth + 1, .object h =>
    match s.get? h with
    | some (.settings v) => s.quotedFields quoted h " " v.fields
    | some (.compiled q) => s.quotedQuery quoted h " " q
    | some (.error e) =>
      if s.isLacking h then .error .missing else plainError s (s.plainWithin quoted depth) e
    | some _ => quoted (.object h)
    | none => .ok ""

/-! ### Equality -/

/-- The object can be a key: neither a collection that can change nor a record, nor a tuple that
holds one. -/
def hashableWithin (s : Store) : Nat → Nat → Bool
  | 0, _ => true
  | depth + 1, h =>
    match s.get? h with
    | some (.list _) | some (.dict _) | some (.settings _) | some (.compiled _) => false
    | some (.tuple items) => items.all fun v =>
      match v with
      | .atom _ _ => true
      | .object g => s.hashableWithin depth g
    | _ => true

/-- All items are matched in turn. -/
def matchedItems (matched : Value → Value → Bool) : List Value → List Value → Bool
  | [], [] => true
  | x :: xs, y :: ys => matched x y && matchedItems matched xs ys
  | _, _ => false

/-- Every entry of the first dictionary has a matching one in the second, and they are as many. -/
def matchedEntries (matched : Value → Value → Bool) (xs ys : List (Value × Value)) : Bool :=
  xs.length == ys.length && xs.all fun x => ys.any fun y => matched x.1 y.1 && matched x.2 y.2

/-- Two objects are equal, given which of the values in them match. Collections and records are
compared by what they hold, everything else is equal to itself alone. -/
def equalObjects (matched : Value → Value → Bool) : Object → Object → Bool
  | .list xs, .list ys => matchedItems matched xs ys
  | .tuple xs, .tuple ys => matchedItems matched xs ys
  | .dict xs, .dict ys => matchedEntries matched xs ys
  | .compiled p, .compiled q => p.text == q.text && matchedEntries matched p.params q.params
  | .settings p, .settings q =>
    Setting.all.all fun field => matched (p.value field) (q.value field)
  | _, _ => false

/-- The object is compared by what it holds. -/
def comparesParts : Object → Bool
  | .list _ | .tuple _ | .dict _ | .compiled _ | .settings _ => true
  | _ => false

/-- Two objects are equal, compared `depth` objects deep. -/
def equalWithin (s : Store) : Nat → Nat → Nat → Bool
  | 0, g, h => g == h
  | depth + 1, g, h =>
    match s.get? g, s.get? h with
    | some a, some b =>
      if comparesParts a then
        equalObjects (matchedBy fun g h => g == h || s.equalWithin depth g h) a b
      else g == h
    | _, _ => g == h
where
  /-- Two values match, given which objects do: they are the same one, or equal. -/
  matchedBy (matched : Nat → Nat → Bool) : Value → Value → Bool
    | .atom a m, .atom b n => (a == b && m == n && m != 0) || a.equal b
    | .object g, .object h => matched g h
    | _, _ => false

/-! ### Views -/

/-- A bound for how deep texts go: between two collections that are shown one inside the other, no
other object is met twice. -/
def depth (s : Store) : Nat := (s.next + 1) * (s.next + 1)

/-- The text of a value in a message. -/
def quoted (s : Store) (v : Value) : Except Fault String := s.quotedWithin s.depth [] v

/-- The text of a value in running text. -/
def plain (s : Store) (v : Value) : Except Fault String :=
  s.plainWithin s.quoted s.depth v

/-- How objects look at present. -/
def view (s : Store) : ObjectView where
  typeName := s.className
  content := s.content
  quoted h := s.quoted (.object h)
  plain h := s.plain (.object h)
  equal := s.equalWithin s.depth
  hashable := s.hashableWithin (s.next + 1)

end Store

end GraphQuery
