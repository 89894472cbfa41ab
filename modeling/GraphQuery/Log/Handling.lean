import GraphQuery.Log.Record
import GraphQuery.Markup.Tag

/-!
Handling of records: what handlers print.

A handler takes what reaches its level and passes its filters, puts it into a line, and prints the
line. A stream prints on the text that can be seen; a line that cannot be put together is left out.
A console shows the line somewhere else, and whoever reports to it learns of a line that cannot be
put together or that is no sound markup.

Attributes of a handler can be assigned. A value in the place of a method cannot be called, and what
stands in the place of a part is asked for what the handler needs of it.

* `Store.handle`: a record at a handler.
* `Store.dispatch`: a record at all handlers that a logger reports to.
-/

namespace GraphQuery

/-- A step that prints on the text that can be seen, and may fail. What has been printed stays. -/
abbrev Printing (α : Type) := ExceptT Fault (StateM String) α

namespace Printing

/-- Goes on with a result, or fails. -/
def settle {α : Type} : Except Fault α → Printing α
  | .ok a => return a
  | .error f => throw f

/-- What a step comes to, as a value. -/
def attempt {α : Type} (step : Printing α) : Printing (Except Fault α) :=
  ExceptT.lift step.run

end Printing

namespace Store

/-- Calls of the methods of an object are possible: nothing was assigned in their place. -/
def answers (s : Store) (h : Nat) (methods : List String) : Except Fault Unit :=
  if methods.any (s.hasAssigned h) then .error .wrongType else .ok ()

/-! ### Filters -/

/-- The filters of a handler. -/
def filters (s : Store) (h : Nat) : Except Fault (List Value) :=
  match s.assigned? h "filters" with
  | none => .ok []
  | some v => (v.items? s.view).elim (.error .wrongType) .ok

/-- Asks a filter, of which at most `depth` can stand behind one another. Only a handler is one, and
it lets everything pass that its own filters do. -/
def passFilter (s : Store) : Nat → Value → Except Fault Unit
  | 0, _ => .error .endless
  | depth + 1, v =>
    match v, s.object? v with
    | .object h, some (.handler _) => do
      s.answers h ["filter"]
      (← s.filters h).forM (s.passFilter depth)
    | _, _ => .error .wrongType

/-- A record passes filters. -/
def passFilters (s : Store) (filters : List Value) : Except Fault Unit :=
  filters.forM (s.passFilter (s.next + 1))

/-! ### Lines -/

/-- The text of a form without directives: braces in it are written twice. -/
def unbraced : List Char → Except Fault (List Char)
  | '\x7b' :: '\x7b' :: cs => ('\x7b' :: ·) <$> unbraced cs
  | '\x7d' :: '\x7d' :: cs => ('\x7d' :: ·) <$> unbraced cs
  | ['\x7b'] => .error .wrongValue
  | '\x7b' :: _ => .error .missingKey
  | '\x7d' :: _ => .error .wrongValue
  | c :: cs => (c :: ·) <$> unbraced cs
  | [] => .ok []

/-- The text of a record at a handler, when at most `depth` handlers can stand behind one another. A
text in the place of what puts lines together is itself the text, and another handler puts them
together in its own way. -/
def formatted (s : Store) (r : LogRecord) : Nat → Nat → LogHandler → Except Fault String
  | 0, _, _ => .error .endless
  | depth + 1, h, handler => do
    s.answers h ["format"]
    match s.assigned? h "formatter" with
    | none => return (← r.line s.view handler.stamp?).render handler.console
    | some v =>
      if !v.truth s.view then r.text s
      else
        match v, v.text?, s.object? v with
        | _, some form, _ => String.ofList <$> unbraced form.toList
        | .object g, none, some (.handler other) => s.formatted r depth g other
        | .object g, none, _ => do
          s.answers g ["format"]
          throw .missing
        | .atom _ _, none, _ => throw .missing

/-- The text of a record at a handler. -/
def lineText (s : Store) (r : LogRecord) (h : Nat) (handler : LogHandler) :
    Except Fault String :=
  s.formatted r (s.next + 1) h handler

/-! ### Consoles -/

/-- What stands in the place of a part of a handler counts as true. -/
def hasTrue (s : Store) (h : Nat) (name : String) : Bool :=
  (s.assigned? h name).any (·.truth s.view)

/-- The words that a console is to point out are texts. -/
def checkKeywords (s : Store) (h : Nat) : Except Fault Unit :=
  match (s.assigned? h "keywords").filter (·.truth s.view) with
  | none => .ok ()
  | some v =>
    match v.items? s.view with
    | some words => if words.all (·.text?.isSome) then .ok () else .error .wrongType
    | none => .error .wrongType

/-- What a console needs to show a text. -/
def checkShown (s : Store) (h : Nat) (text : String) : Except Fault Unit := do
  s.answers h ["render_message"]
  if ((s.assigned? h "markup").getD (.bool true)).truth s.view then Markup.check text
  if s.hasTrue h "highlighter" then throw .wrongType
  s.checkKeywords h
  s.answers h ["render", "get_level_text"]
  if ((s.assigned? h "formatter").bind Value.given?).isSome then throw .missing
  s.answers h ["_log_render"]
  if s.hasAssigned h "console" then throw .missing

/-! ### Streams -/

/-- What a stream writes of a record. -/
def streamText (s : Store) (r : LogRecord) (h : Nat) (handler : LogHandler) :
    Except Fault String := do
  let text ← s.lineText r h handler
  if s.hasAssigned h "stream" then throw .missing
  match ((s.assigned? h "terminator").getD (.text "\n")).text? with
  | some ending => return text ++ ending
  | none => throw .wrongType

/-- A line of a stream is left out, if there is a way to do so. -/
def leaveOut (s : Store) (h : Nat) : Printing Unit :=
  Printing.settle (s.answers h ["handleError"])

/-! ### Handlers -/

/-- Prints a record. -/
def emit (s : Store) (r : LogRecord) (h : Nat) (handler : LogHandler) : Printing Unit := do
  Printing.settle (s.answers h ["emit"])
  if handler.console then
    Printing.settle do s.checkShown h (← s.lineText r h handler)
  else
    match s.streamText r h handler with
    | .ok text =>
      modify (· ++ text)
      if s.hasAssigned h "flush" then s.leaveOut h
    | .error .endless => throw .endless
    | .error _ => s.leaveOut h

/-- Closes a handler to others while a record is printed, and opens it again whatever comes of
it. -/
def locked (s : Store) (h : Nat) (step : Printing Unit) : Printing Unit := do
  Printing.settle (s.answers h ["acquire"])
  if s.hasTrue h "lock" then throw .missing
  let result ← step.attempt
  Printing.settle (s.answers h ["release"])
  Printing.settle result

/-- The level of a handler. What is none has a level only if it is assigned one. -/
def handlerLevel (s : Store) (v : Value) : Except Fault Value :=
  match v, s.object? v with
  | .object h, some (.handler handler) =>
    if s.isGone h "level" then .error .missing else .ok handler.level
  | .object h, _ => (s.assigned? h "level").elim (.error .missing) .ok
  | _, _ => .error .missing

/-- A record at a handler, if it reaches its level, which has to be a number. -/
def handle (s : Store) (r : LogRecord) (v : Value) : Printing Unit := do
  match (← Printing.settle (s.handlerLevel v)).atMost? r.rank with
  | none => throw .wrongType
  | some false => return
  | some true =>
    match v, s.object? v with
    | .object h, some (.handler handler) =>
      Printing.settle do
        s.answers h ["handle"]
        if s.isLacking h then throw .missing
        s.passFilters [v]
      s.locked h (s.emit r h handler)
    | .object h, _ =>
      Printing.settle (s.answers h ["handle"])
      throw .missing
    | .atom _ _, _ => throw .missing

/-- A record at a logger that lets it pass: it goes to all handlers in turn. -/
def dispatch (s : Store) (channel : LogChannel) (name : String) (r : LogRecord) :
    Printing Unit := do
  Printing.settle (s.passFilters (channel.logger name).filters)
  (channel.handlers name).forM (s.handle r)

end Store

end GraphQuery
