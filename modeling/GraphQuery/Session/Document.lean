import GraphQuery.Session.Program
import GraphQuery.Text.Placeless

/-!
Documents: what is shown of the values and objects of a session.

A document describes itself: an object is a record of its class name and of what can be seen of it,
and an object with a text in a query shows that text, written with the names of a fresh
environment. Where a value is only quoted from somewhere else, as among the parameters of a query or
in an event, the objects in it are shown by their class names alone.

* `Session.documentWithin`: what a value shows. An object that contains itself cannot be shown, nor
  can one of which a part is not what it has to be.
-/

namespace GraphQuery

/-- A value that describes itself. -/
inductive Document where
  | null
  | bool (b : Bool)
  | int (i : Int)
  | text (s : String)
  /-- A floating-point number, by its shortest text. -/
  | float (s : String)
  | bytes (data : List UInt8)
  | array (items : List Document)
  | tuple (items : List Document)
  | dict (entries : List (Document × Document))
  /-- Named fields, whose order means nothing. -/
  | record (fields : List (String × Document))
  deriving Inhabited

/-- The document of texts. -/
def Document.ofTexts (items : List String) : Document := .array (items.map .text)

/-- A record that names its class. -/
def Document.ofClass (className : String) (fields : List (String × Document)) : Document :=
  .record (("type", .text className) :: fields)

/-- The document of an atom, given what is shown of directions. -/
def Atom.document (ofDirection : Direction → Document) : Atom → Document
  | null => .null
  | bool b => .bool b
  | int i => .int i
  | text s => .text s
  | float s => .float s
  | bytes data => .bytes data
  | direction d => ofDirection d

/-- The document of a name: its word. -/
def Name.document (n : Name) : Document := .text n.word

/-- The document of a name or of nothing. -/
def Document.ofName? (n : Option Name) : Document := n.elim .null Name.document

/-- An issue as a record. -/
def Issue.document (i : Issue) : Document :=
  .record [("field", .text i.field), ("type", .text i.rule), ("message", .text i.message)]

/-- The message of a fault as it is shown. A refusal quotes values, and their places are left out;
everything else is told word for word. -/
def Fault.shownMessage? (f : Fault) : Option String :=
  match f with
  | .refused _ => f.message?.map Text.placeless
  | _ => f.message?

/-- The fields that tell a fault. -/
def Fault.fields (f : Fault) : List (String × Document) :=
  ("error", .text f.kind)
    :: (f.shownMessage?.map fun m => ("message", Document.text m)).toList
    ++ match f with
      | .invalid issues => [("issues", .array (issues.map Issue.document))]
      | _ => []

/-- How much is shown of the objects in a value. -/
inductive Detail where
  /-- Their class names. -/
  | names
  /-- Everything. -/
  | full
  deriving DecidableEq

/-- How the values in an object are shown: in full, or only as quoted from somewhere else. -/
structure Showing where
  inFull : Value → Except Fault Document
  inBrief : Value → Except Fault Document

namespace Showing

/-- What stands where a text is wanted: its word, if it is a text at all. -/
def worded (inner : Showing) (v : Value) : Except Fault Document :=
  match v.text? with
  | some s => .ok (.text s)
  | none => inner.inBrief v

/-- Parameters with their values. -/
def params (inner : Showing) (params : List (Value × Value)) : Except Fault Document :=
  .array <$> params.mapM fun p => do return .array [← inner.worded p.1, ← inner.inBrief p.2]

end Showing

namespace Session

/-! ### Objects -/

/-- What is written for an object, with the parameters that it takes. -/
def written (s : Session) (inner : Showing) (settings : Settings) (h : Nat) :
    Except Fault (List (String × Document)) := do
  let w := s.store.write h (s.store.freshEnvironment settings)
  let v ← w.answer
  return [("cypher", ← inner.worded v), ("params", ← inner.params w.pen.env.params)]

/-- The text of an object in a query, written with the names of a fresh environment under the
current settings, or the fault that this meets. -/
def textFields (s : Session) (inner : Showing) (h : Nat) : List (String × Document) :=
  match s.settings?.elim (.error .missing) fun settings => s.written inner settings h with
  | .ok fields => fields
  | .error f => [("render_error", .record f.fields)]

/-- What only references of a class show. -/
def classFields : RefClass → List (String × Document)
  | .node labels => [("labels", .array (labels.map Name.document))]
  | .relationship type => [("rel_type", .ofName? type)]
  | _ => []

/-- The number of things that an attribute holds. -/
def sizeOf {α : Type} (s : Session) (a : Attribute (List α)) : Except Fault Nat :=
  a.resolve (fun items => .ok items.length) s.store.sizeOf

/-- The names of a property access. -/
def pathDocument (s : Session) (inner : Showing) (path : Attribute (List Name)) :
    Except Fault Document :=
  path.resolve (fun names => .ok (.array (names.map Name.document))) fun v =>
    match v.items? s.store.view with
    | some items => .array <$> items.mapM inner.worded
    | none => .error .wrongType

/-- What a clause shows. -/
def clauseFields (s : Session) (inner : Showing) (h : Nat) (c : Clause) :
    Except Fault (List (String × Document)) := do
  let populated := ("populated", .array (← (← s.store.populated h c).mapM inner.inFull))
  match c.head with
  | .read _ isOptional _ =>
    return [populated, ("patterns", .int (← s.store.patternCount h c)),
      ("optional", ← inner.inFull isOptional)]
  | .create _ => return [populated, ("patterns", .int (← s.store.patternCount h c))]
  | .project _ => return [populated]

/-- The class names of values. -/
def classNames (s : Session) (values : List Value) : Document :=
  .ofTexts (values.map (Value.typeName s.store.view))

/-- What an environment shows. -/
def environmentFields (inner : Showing) (size separator : Value)
    (params : List (Value × Value)) : Except Fault (List (String × Document)) := do
  return [("size", ← inner.inFull size), ("separator", ← inner.inFull separator),
    ("params", ← inner.params params)]

/-- What an error shows. -/
def errorFields (s : Session) (inner : Showing) (h : Nat) (e : ErrorRecord) :
    Except Fault (List (String × Document)) := do
  let text ← s.store.plain (.object h)
  let message ← match e.message.text? with
    | some word => pure (Document.text word)
    | none => inner.inFull e.message
  return [("text", .text (Text.placeless text)), ("message", message),
    ("details", ← inner.inFull e.details)]

/-- What a log handler shows. -/
def handlerFields (s : Session) (inner : Showing) (h : LogHandler) :
    Except Fault (List (String × Document)) := do
  return [("level", ← inner.inFull h.level),
    ("root_level", ← inner.inFull s.channel.outermost.level),
    ("root_handlers", s.classNames s.channel.outermost.handlers)]

/-- What an object that lacks something shows besides its text in a query. There is next to nothing
that needs none of it: the slots of a clause that can have none, and the level of a handler. -/
def lackingFields (s : Session) (inner : Showing) (h : Nat) :
    Object → Except Fault (List (String × Document))
  | .clause c => do
    let names ← s.store.slotNames h c
    if names.isEmpty && c.head.patterns.isEmpty then return [("populated", .array [])]
    else throw .missing
  | .handler handler =>
    if s.store.isGone h "level" then .error .missing else s.handlerFields inner handler
  | _ => .error .missing

/-- What an object shows besides its text in a query. -/
def objectFields (s : Session) (inner : Showing) (h : Nat) :
    Object → Except Fault (List (String × Document))
  | .reference r =>
    return [("kind", .text r.kind.word), ("prefix", .ofName? r.stem)] ++ classFields r.is
  | .param p => do
    return [("kind", .text Kind.param.word), ("prefix", .ofName? p.stem),
      ("value", ← inner.inBrief p.value)]
  | .expression (.property _ path) => return [("path", ← s.pathDocument inner path)]
  | .column c => return [("is_star", .bool c.isStar)]
  | .pattern p => return [("elements", .int (← s.sizeOf p.elements))]
  | .clause c => s.clauseFields inner h c
  | .statement nodes => return [("nodes", s.classNames (← s.store.nodesOf h nodes))]
  | .union branches all =>
    return [("branches", s.classNames (← s.store.branchesOf h branches)),
      ("keeps_duplicates", ← inner.inFull all)]
  | .environment n l =>
    let e := n.environment s.store.view l
    environmentFields inner (.int e.size) n.separator e.params
  | .looseEnvironment e => do
    environmentFields inner e.counter e.separator (← e.entries s.store.view)
  | .settings fields => do
    let pairs ← fields.fields.mapM fun f => do return .array [.text f.1, ← inner.inFull f.2]
    return [("fields", .array pairs)]
  | .compiled q => return [("text", .text q.text), ("params", ← inner.params q.params)]
  | .error e => s.errorFields inner h e
  | .handler handler => s.handlerFields inner handler
  | _ => return []

/-- An object that is no collection, with all that it shows. -/
def objectDocument (s : Session) (inner : Showing) (h : Nat) (o : Object) :
    Except Fault Document := do
  let fields ← if s.store.isLacking h then s.lackingFields inner h o else s.objectFields inner h o
  return .ofClass o.className (fields ++ if s.store.isWritable h then s.textFields inner h else [])

/-- A direction. -/
def directionDocument (detail : Detail) (d : Direction) : Document :=
  .ofClass "Direction" (match detail with
    | .names => []
    | .full => [("value", .text d.word)])

/-- A value in some detail, `depth` objects deep. The keys of dictionaries are always shown in the
detail of `keys`. -/
def documentWithin (s : Session) (keys : Detail) : Nat → Detail → Value → Except Fault Document
  | _, detail, .atom a _ => .ok (a.document (directionDocument detail))
  | 0, _, .object _ => .error .endless
  | depth + 1, detail, .object h =>
    match s.store.get? h, detail with
    | some (.list items), _ => .array <$> items.mapM (s.documentWithin keys depth detail)
    | some (.tuple items), _ => .tuple <$> items.mapM (s.documentWithin keys depth detail)
    | some (.dict entries), _ => .dict <$> entries.mapM fun e => do
      return (← s.documentWithin keys depth keys e.1, ← s.documentWithin keys depth detail e.2)
    | some o, .names => .ok (.ofClass o.className [])
    | some o, .full =>
      s.objectDocument ⟨s.documentWithin keys depth .full, s.documentWithin keys depth .names⟩ h o
    | none, _ => .ok .null

/-- How values are shown on demand, quietly or not. -/
def showing (s : Session) (quiet : Bool) : Showing :=
  let keys := if quiet then .names else .full
  ⟨s.documentWithin keys (s.store.next + 1) keys, s.documentWithin keys (s.store.next + 1) .names⟩

end Session

/-- The document of an answer. -/
def Answer.document (showing : Showing) : Answer → Except Fault Document
  | value v => showing.inFull v
  | line text remaining => do
    return .record [("text", .text text), ("remaining", .array (← remaining.mapM showing.inFull))]

/-- The document of an event. A message of nothing is none. -/
def Event.document (showing : Showing) (e : Event) : Except Fault Document := do
  let fields ← e.fields.mapM fun f => do return (f.1.word, ← showing.inBrief f.2)
  let name ← e.name.given?.toList.mapM fun name => do return ("event", ← showing.inBrief name)
  return .record (fields ++ name ++ [("method", .text e.severity.word)])

namespace Report

/-- What a step answers: its result, or its fault and the state of what it was called on. A result
that cannot be shown is a fault. -/
def resultFields (r : Report) (showing : Showing) : List (String × Document) :=
  match r.result.bind (Answer.document showing) with
  | .ok d => [("ok", d)]
  | .error f =>
    f.fields ++ (r.receiver?.bind fun v =>
      (showing.inFull v).toOption.map fun d => ("on", d)).toList

/-- The document of a step: its result, and the events or the log lines that it left. -/
def document (r : Report) (quiet : Bool) : Document :=
  let s := r.session
  let showing := s.showing quiet
  .record (r.resultFields showing
    ++ (if s.channel.keeping && !s.events.isEmpty then
      [("events", .array (s.events.filterMap fun e => (e.document showing).toOption))] else [])
    ++ (if s.log.isEmpty || s.showsOnConsole then [] else [("log", .text s.log)]))

end Report

end GraphQuery
