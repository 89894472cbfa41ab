import GraphQuery.Session.Basic
import GraphQuery.Store.Loose

/-!
Names, texts and compiled queries: the calls that write objects with the names of an environment.
-/

namespace GraphQuery.Operation

/-! ### Names and texts -/

/-- The text that a value is; nothing else will do. -/
def text (v : Value) : Operation String :=
  match v.text? with
  | some s => return s
  | none => throw .wrongType

/-- A value that has to be an identifier in some role. -/
def identifier (v role : Value) : Operation Value := do
  match v.text?.filter Text.isIdentifier with
  | some _ => return v
  | none =>
    let plainRole ← check role.plain
    let quoted ← check v.quoted
    match role.given? with
    | none => throw (.refused (.identifier plainRole none quoted))
    | some role => throw (.refused (.identifier plainRole (some (← check role.quoted)) quoted))

/-- A name as it stands in a query: itself if it is an identifier, else in quotes. -/
def escaped (v : Value) : Operation Value := do
  let s ← text v
  if Text.isIdentifier s then return v
  return .text (Text.escaped s)

/-- The labels that a value lists, each of them a text for the given role. -/
def labels (v role : Value) : Operation Value := do
  let role := (role.plain (← view)).toOption.getD ""
  assemble do Assembly.tuple ((← Assembly.labels role v).map Name.value)

/-! ### Environments -/

/-- The environment of a handle. -/
def environment (h : Nat) : Operation Environment := do
  match (← get).store.get? h with
  | some (.environment naming ledger) => return naming.environment (← view) ledger
  | _ => throw .missing

/-- Remembers the names that an environment has given. -/
def keep (h : Nat) (e : Environment) : Operation Unit := do
  match (← get).store.get? h with
  | some (.environment naming _) => replace h (.environment naming e.toLedger)
  | _ => throw .missing

/-- Reports what happened while names were given. At each event it is remembered what had been given
until then, so that it stays if the event cannot be reported. -/
def follow {σ : Type} (keep : σ → Operation Unit) (occurrences : List (Occurrence σ)) :
    Operation Unit :=
  occurrences.forM fun o => do
    keep o.env
    report o.event

/-- Carries out an operation on the environment of a handle that may allocate, and hands out the
name. -/
def allocating (h : Nat) (f : Environment → Allocated Environment Wording) : Operation Value := do
  let result := f (← environment h)
  follow (keep h) result.occurrences
  keep h result.env
  return (← settle result.answer).handed result.env.mark

/-- The loose environment of a handle, at work. -/
def loosened? (h : Nat) : Operation (Option Loosened) := do
  let s ← get
  match s.store.get? h with
  | some (.looseEnvironment parts) =>
    if s.store.isLacking h then throw .missing
    return some ⟨s.store, h, parts⟩
  | _ => return none

/-- Remembers what a loose environment has come to. -/
def keepLoose (e : Loosened) : Operation Unit :=
  modify fun s => { s with store := e.store.replace e.handle (.looseEnvironment e.parts) }

/-- Carries out a step of a loose environment. -/
def loosely (e : Loosened) (step : Loosely Value) : Operation Value := do
  let result := e.outcome step
  follow keepLoose result.occurrences
  keepLoose result.env
  settle result.answer

/-- The kinds that a dictionary gives name stems for. -/
def givenStems (v : Value) : Operation (List (Kind × Value)) := do
  match v.given?, v.entries? (← view) with
  | none, _ => return []
  | some _, some entries => entries.mapM fun entry =>
    match entry.1.text?.bind Kind.ofWord? with
    | some kind => return (kind, entry.2)
    | none => throw .wrongValue
  | some _, none => throw .missing

/-- A new environment. -/
def newEnvironment (stems bareFirst separator : Value) : Operation Value := do
  let given ← givenStems stems
  let naming := (← settings).naming given bareFirst.given? separator.given?
  let mark ← freshMark
  assemble (Assembly.made (.environment naming (.blank mark)))

/-- The label of a value in an environment: of a reference or parameter. What could at least be
looked up fails for want of a stem, everything else already when it is looked up. -/
def labelFor (h : Nat) (v : Value) : Operation Value := do
  let bearer := (← get).store.bearer v
  match ← loosened? h with
  | some e => loosely e (Loosened.labelOf v bearer)
  | none =>
    let b ← settle bearer
    allocating h fun e => e.labelFor b

/-- The key of a value in an environment. -/
def keyFor (h : Nat) (v : Value) : Operation Value := do
  let bearer := (← get).store.bearer v
  match ← loosened? h with
  | some e => loosely e (Loosened.keyOf v bearer)
  | none =>
    match ← settle bearer with
    | .reference r => allocating h fun e => e.keyForReference r
    | .param p => allocating h fun e => e.keyFor p

/-- A value has a name in an environment. -/
def registered (h : Nat) (v : Value) : Operation Value := do
  let view ← view
  match ← loosened? h with
  | some e => return .bool (← settle (e.parts.isRegistered view v))
  | none =>
    if !v.hashable view then throw .wrongType
    match v with
    | .object g => return .bool ((← environment h).isRegistered g)
    | .atom _ _ => return .bool false

/-- The keys of an environment with the values they stand for. -/
def params (h : Nat) : Operation Value := do
  match ← loosened? h with
  | some e => assemble (Assembly.dict (← settle (e.parts.entries (← view))))
  | none => assemble (Assembly.dict (← environment h).params)

/-- The environment of a handle as a loose one: its tables become dictionaries. -/
def loosen (h : Nat) : Operation Unit := do
  match (← get).store.get? h with
  | some (.environment n l) =>
    let parts ← assemble (Assembly.loosened n l)
    replace h (.looseEnvironment parts)
  | _ => return

/-! ### Writing and compiling -/

/-- Writes an object with the names of an environment, which keeps them. Without an environment,
only what has no names in it can be written. -/
def write (v e : Value) : Operation Value := do
  let s ← get
  match v with
  | .atom _ _ => throw .missing
  | .object g =>
    if !s.store.isWritable g then throw .missing
    match e, s.store.object? e with
    | .object h, some (.environment ..) =>
      let w := s.store.write g (← environment h)
      follow (keep h) w.occurrences
      keep h w.pen.env
      settle w.answer
    | .object h, some (.looseEnvironment parts) =>
      if s.store.isLacking h then return .text (← settle (s.store.template g).standalone)
      let w := s.store.write g (⟨s.store, h, parts⟩ : Loosened)
      follow keepLoose w.occurrences
      keepLoose w.pen.env
      settle w.answer
    | _, _ => .text <$> settle (s.store.template g).standalone

/-- What is written for an object, behind a text; nothing when it is nothing. -/
def writeBehind (v e lead : Value) : Operation Value := do
  match v.given? with
  | none => return .text ""
  | some v =>
    let written ← write v e
    if written.truth (← view) then
      let lead ← check lead.plain
      return .text (lead ++ (← check written.plain))
    else return .text ""

/-- Compiles a clause, statement or union under the current settings. -/
def compile (v : Value) : Operation Value := do
  let h ← assemble (Assembly.compilable v)
  let settings ← settings
  let compilation := (← get).store.compile settings h
  compilation.events.forM report
  let q ← settle compilation.result
  assemble (Assembly.made (.compiled q))

/-- What is wrong with the text of a query that is put together from its parts. -/
def textIssues : Option Value → List Issue
  | none => [⟨"text", "missing", "Field required"⟩]
  | some v =>
    match acceptText v with
    | .ok _ => []
    | .error (rule, message) => [⟨"text", rule, message⟩]

/-- What is wrong with the parameters of a query that is put together from its parts. -/
def paramIssues (view : ObjectView) : Option Value → List Issue
  | none => []
  | some v =>
    match v.entries? view with
    | some entries => Store.keyIssues view entries
    | none => [⟨"params", "dict_type", "Input should be a valid dictionary"⟩]

/-- A compiled query from its parts, which are checked. -/
def compiled (text? params? : Option Value) : Operation Value := do
  let view ← view
  let issues := textIssues text? ++ paramIssues view params?
  if !issues.isEmpty then throw (.invalid issues)
  let text := (text?.bind fun v => (acceptText v).toOption).getD ""
  let entries := (params?.bind (·.entries? view)).getD []
  assemble (Assembly.made (.compiled ⟨text, Store.textKeyed view entries⟩))

/-- The text and the parameters of a compiled query. -/
def pair (h : Nat) : Operation Value := do
  let store := (← get).store
  match store.get? h with
  | some (.compiled q) =>
    if store.isLacking h then throw .missing
    assemble do Assembly.tuple [.text q.text, ← Assembly.dict q.params]
  | _ => throw .missing

end GraphQuery.Operation
