import GraphQuery.Session.Compiling

/-!
Log lines, the set-up of the channel, and what an application reports through it.
-/

namespace GraphQuery.Operation

/-! ### Formatting -/

/-- A formatted line, with the names of the fields left in the event. -/
structure Formatted where
  text : String
  remaining : List Value

/-- Formats an event. The parts of their own are taken out of the dictionary, the level before
anything is made of it, the others next; so they are gone even when the rest fails. -/
def formatLine (event markup : Value) : Operation Formatted := do
  match event, event.content (← view) with
  | .object h, .dict entries =>
    replace h (.dict (Value.remove entries "level"))
    let level ← check fun view => LogLine.levelOf view entries
    let remaining := LogLine.remaining entries
    replace h (.dict remaining)
    let line ← check fun view => LogLine.ofEntries view level entries
    return ⟨line.render (markup.truth (← view)), remaining.map (·.1)⟩
  | _, .list _ => throw .wrongType
  | _, _ => throw .missing

/-- Takes the internal entries out of a dictionary, and answers the dictionary. -/
def dropInternal (event : Value) : Operation Value := do
  match event, event.entries? (← view) with
  | .object h, some entries =>
    replace h (.dict (← settle (LogLine.visible entries)))
    return event
  | _, _ => throw .missing

/-! ### The channel -/

/-- Sets up the channel of log events. -/
def setUpLogging (level : Value) : Operation Value := do
  let s ← get
  let (channel, result) := s.channel.setUp s.store.view s.settings? level s.store.next
  set { s with channel := channel }
  let handler ← settle result
  let v ← assemble (Assembly.made (.handler handler))
  let settings ← settings
  report (.configured (Text.uppercase (level.text?.getD "")) (settings.value .richLogging))
  return v

/-! ### Events of an application -/

/-- Names that details cannot have, as the call takes them itself. -/
def takenNames : List String := ["self", "method_name"]

/-- Named details of an event. -/
def details (v : Value) : Operation (List (Name × Value)) := do
  match v.entries? (← view) with
  | some entries => entries.mapM fun entry =>
    match entry.1.name? with
    | some n => if takenNames.contains n.word then throw .wrongType else return (n, entry.2)
    | none => throw .wrongType
  | none => throw .wrongType

/-- The detail of a name. -/
def detail? (details : List (Name × Value)) (name : String) : Option Value :=
  (details.find? (·.1.word == name)).map (·.2)

/-- The details without that of a name. -/
def withoutDetail (details : List (Name × Value)) (name : String) : List (Name × Value) :=
  details.filter (·.1.word != name)

/-- The name of the detail whose value is put into the message. -/
def argumentsName : String := "positional_args"

/-- The first item of a collection of one, and nothing of others. What is no collection has no
items. -/
def onlyItem (view : ObjectView) (v : Value) : Except Fault (Option Value) :=
  match v.content view, v.items? view with
  | .record _, _ | .nothing, none => .error .wrongType
  | .dict [entry], _ =>
    if (Value.int 0).equal view entry.1 then .ok (some entry.2) else .error .missingKey
  | _, some [item] => .ok (some item)
  | _, _ => .ok none

/-- The arguments that a value gives for a message: a single dictionary that is not empty counts by
itself. -/
def messageArguments (view : ObjectView) (v : Value) : Except Fault Value := do
  match ← onlyItem view v with
  | some item => return if (item.entries? view).any (!·.isEmpty) then item else v
  | none => return v

/-- The message of an event with arguments put in. -/
def filledIn (view : ObjectView) (message arguments : Value) : Except Fault Value := do
  let arguments ← messageArguments view arguments
  match message.given?, message.text? with
  | none, _ => throw .missingKey
  | some _, some s => .text <$> messageWith view s arguments
  | some _, none => throw .wrongType

/-- An event before it is printed: a detail with arguments is put into the message and taken out of
the details. -/
def prepared (view : ObjectView) (message : Value) (details : List (Name × Value)) :
    Except Fault (Value × List (Name × Value)) :=
  match (detail? details argumentsName).bind Value.given? with
  | none => .ok (message, details)
  | some v =>
    let others := withoutDetail details argumentsName
    if v.truth view then (fun message => (message, others)) <$> filledIn view message v
    else .ok (message, others)

/-- The name of the detail that an event takes the name of its logger from. -/
def recordName : String := "_record"

/-- The name that a value has as an attribute. -/
def nameAttribute (store : Store) (v : Value) : Except Fault Value :=
  match v, store.object? v with
  | .atom (.direction d) _, _ => .ok (.text (Text.uppercase d.word))
  | _, some (.expression (.call name _)) => .ok name
  | .object h, some (.handler _) => .ok ((store.assigned? h "name").getD .null)
  | .object h, _ => (store.assigned? h "name").elim (.error .missing) .ok
  | _, _ => .error .missing

/-- The logger that is told of an event with the given details. -/
def toldLogger (store : Store) (source : String) (details : List (Name × Value)) :
    Except Fault Value :=
  match (detail? details recordName).bind Value.given? with
  | some v => nameAttribute store v
  | none => .ok (.text source)

/-- Reports an event of the application with the given details. -/
def announce (severity : Severity) (aboutError : Bool) (message : Value)
    (details : List (Name × Value)) : Operation Unit := do
  let s ← get
  let e : Event := .notice severity message details
  if s.channel.keeping then report e
  else if s.channel.passes e.source severity.rank then
    let told ← settle (toldLogger s.store e.source details)
    let (message, details) ← check fun view => prepared view message details
    giveEvent told (.notice severity message details) aboutError

/-- The severity that a number stands for. While events are kept, negative numbers stand for none
at all. -/
def numberedSeverity (keeping : Bool) (v : Value) : Operation (Option Severity) := do
  if !v.hashable (← view) then throw .wrongType
  match v, v.int? with
  | _, some i =>
    match Severity.ofRank? i with
    | some s => return some s
    | none => if keeping && i < 0 then return none else throw .missingKey
  | .atom (.float s) _, none =>
    if keeping && s.startsWith "-" then return none else throw .missingKey
  | _, none => throw (if keeping then .wrongType else .missingKey)

/-- Reports an event of the severity of a number. The event itself is one of the details; it has to
be there while events are kept. -/
def announceNumbered (number : Value) (details : List (Name × Value)) : Operation Unit := do
  let keeping := (← get).channel.keeping
  let event? := detail? details "event"
  if (detail? details "level").isSome || (keeping && event?.isNone) then throw .wrongType
  if let some severity ← numberedSeverity keeping number then
    announce severity false (event?.getD .null) (withoutDetail details "event")

/-! ### Loggers -/

/-- Sets something for a logger. -/
def changeLogger (name : String) (f : Logger → Logger) : Operation Unit :=
  modify fun s => { s with channel := s.channel.change name f }

/-- Sets the level of a logger, by its number or by its name in capitals. -/
def setLevel (logger : String) (v : Value) : Operation Unit := do
  match v with
  | .atom (.int _) _ | .atom (.bool _) _ => changeLogger logger fun l => { l with level := v }
  | .atom (.text s) _ =>
    match logLevels.lookup s with
    | some n => changeLogger logger fun l => { l with level := .int n }
    | none => throw .wrongValue
  | _ => throw .wrongType

/-- What a logger can be asked with a single argument, besides reporting. -/
def questions : List String :=
  ["isEnabledFor", "getChild", "setLevel", "addHandler", "removeHandler", "handle", "callHandlers"]

/-- What else a logger can be asked with a single argument, unless it is the application's own. -/
def filterQuestions : List String := ["addFilter", "removeFilter", "filter"]

/-- What a logger has that cannot be called with a single argument. -/
def uncallables : List String :=
  ["hasHandlers", "getEffectiveLevel", "makeRecord", "name", "level", "parent", "propagate",
    "handlers", "disabled"]

/-- What else a logger has that cannot be called, unless it is the application's own. -/
def innerUncallables : List String := ["filters", "manager", "root"]

/-- Asks a logger something with a single argument. Nothing but a record can be handled, and no
value is one. -/
def askOne (logger method : String) (v : Value) : Operation Unit := do
  let view ← view
  match method with
  | "isEnabledFor" =>
    match v with
    | .atom (.int _) _ | .atom (.bool _) _ | .atom (.float _) _ => return
    | _ => throw .wrongType
  | "getChild" => let _ ← text v
  | "setLevel" => setLevel logger v
  | "addHandler" =>
    changeLogger logger fun l => { l with handlers := Logger.withLast view l.handlers v }
  | "removeHandler" =>
    changeLogger logger fun l => { l with handlers := Logger.without view l.handlers v }
  | "addFilter" =>
    changeLogger logger fun l => { l with filters := Logger.withLast view l.filters v }
  | "removeFilter" =>
    changeLogger logger fun l => { l with filters := Logger.without view l.filters v }
  | "callHandlers" => throw .missing
  | _ =>
    let s ← get
    settle (s.store.passFilters (s.channel.logger logger).filters)
    if method = "handle" then throw .missing

/-- Asks a logger something that it knows, with whatever arguments. -/
def ask (logger method : String) (arguments : List Value) : Operation Unit := do
  if method = "findCaller" then
    if 2 < arguments.length then throw .wrongType
  else
    match arguments with
    | [v] => askOne logger method v
    | _ => throw .wrongType

/-! ### The logger of the application -/

/-- The name of the application's logger. -/
def applicationLogger : String := (Event.notice .info .null []).source

/-- Reporting that is put off, and never comes to be done. -/
def deferred (keeping : Bool) : List String :=
  ["adebug", "ainfo", "awarning", "aerror", "acritical", "afatal", "aexception", "alog"]
    ++ if keeping then ["awarn", "amsg", "anotset"] else []

/-- What else an application can do with its logger, which carries no context. While events are kept
it is no more than changing the context. -/
def askApplication (method : String) (v : Value) (details : List (Name × Value)) :
    Operation Unit := do
  let keeping := (← get).channel.keeping
  if method = "bind" ∨ method = "new" then throw .wrongType
  else if method = "unbind" ∨ method = "try_unbind" then
    if !details.isEmpty || !v.hashable (← view) then throw .wrongType
    if method = "unbind" then throw .missingKey
  else if (deferred keeping).contains method then
    if (detail? details "event").isSome then throw .wrongType
  else if keeping then
    if method = "get_effective_level" then throw .wrongType
    if method ≠ "is_enabled_for" then throw .missing
    if !details.isEmpty || (v.atMost? 0).isNone then throw .wrongType
  else if uncallables.contains method then throw .wrongType
  else if !("findCaller" :: questions).contains method then throw .missing
  else if !details.isEmpty then throw .wrongType
  else ask applicationLogger method [v]

/-- The severity that a method of an application's logger stands for. -/
def applicationSeverity? (keeping : Bool) (method : String) : Option Severity :=
  if keeping && method = "msg" then some .info
  else if keeping && method = "notset" then some .unset
  else Severity.ofMethod? method

/-- Reports an event of the application. -/
def notice (method event entries : Value) : Operation Value := do
  let word ← text method
  match applicationSeverity? (← get).channel.keeping word with
  | some severity =>
    let details ← details entries
    if (detail? details "event").isSome then throw .wrongType
    let aboutError := word = "exception"
    announce severity aboutError event
      (if aboutError && (detail? details "exc_info").isNone then
        details ++ [(.text "exc_info", .bool true)] else details)
  | none =>
    if word = "log" then announceNumbered event (← details entries)
    else askApplication word event (← details entries)
  return .null

/-! ### Messages of an application -/

/-- The name of a logger. What counts as false is the outermost logger. -/
def loggerName (v : Value) : Operation String := do
  if v.truth (← view) then text v else return Logger.outermost

/-- The detail that a message about an error has, when there is no error. -/
def absentError : Operation (List (Name × Value)) := do
  return [(.text "exc_info", ← assemble (Assembly.tuple [.null, .null, .null]))]

/-- A message of the application, or something else that is asked of a logger. -/
def message (logger method template : Value) (arguments : List Value) : Operation Value := do
  let logger ← loggerName logger
  let word ← text method
  match Severity.ofMethod? word, template, arguments with
  | some severity, _, _ =>
    let aboutError := word = "exception"
    let details ← if aboutError then absentError else pure []
    give logger ⟨.message logger template arguments details, .int severity.rank, aboutError⟩
  | none, level, arguments =>
    if word = "log" then
      match level, arguments with
      | .atom (.int i) _, template :: arguments =>
        give logger ⟨.message logger template arguments [], .int i, false⟩
      | .atom (.bool b) _, template :: arguments =>
        give logger ⟨.message logger template arguments [], .bool b, false⟩
      | _, _ => throw .wrongType
    else if (questions ++ filterQuestions ++ ["findCaller"]).contains word then
      ask logger word (level :: arguments)
    else throw (if (uncallables ++ innerUncallables).contains word then .wrongType else .missing)
  return .null

end GraphQuery.Operation
