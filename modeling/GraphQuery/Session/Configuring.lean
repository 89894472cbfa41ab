import GraphQuery.Session.Inspecting

/-!
Settings and the process environment that they are read from.
-/

namespace GraphQuery.Operation

/-- The value of a setting, or of an attribute that was assigned to the current settings. -/
def getSetting (key : Value) : Operation Value := do
  let name ← text key
  let s ← get
  match s.current?, s.current?.bind s.store.get?, Setting.ofName? name with
  | some h, some (.settings settings), some field =>
    if s.store.isGone h name then throw .missing
    return settings.value field
  | some h, _, none => settle ((s.store.assigned? h name).elim (.error .missing) .ok)
  | _, _, _ => throw .missing

/-- Changes the setting of a name, without any check of the value. -/
def setSetting (key v : Value) : Operation Value := do
  if !key.hashable (← view) then throw .wrongType
  match key.text?.bind Setting.ofName?, (← get).current? with
  | some field, some h =>
    assignAttribute h field.name v
    return .null
  | some _, none => throw .missing
  | none, _ => throw (.unknownSetting (← check key.plain))

/-- A new record of settings, which is not made the current one. -/
def newSettings (given : List (String × Value)) : Operation Value := do
  let vars ← settle (Variables.asAsked (← view) (← get).vars given)
  let settings ← settle (Settings.load vars given (← freshMark))
  assemble (Assembly.made (.settings settings))

/-- Reads the settings anew from the process environment. -/
def reload : Operation Value := do
  let settings ← settle (Settings.load (.usual (← get).vars) [] (← freshMark))
  let h ← assemble (Assembly.add fun _ => .settings settings)
  modify fun s => { s with current? := some h }
  report (.reloaded Setting.all.length)
  return .object h

/-- Leaves no settings at all. -/
def clearSettings : Operation Value := do
  modify fun s => { s with current? := none }
  return .null

/-- The report on the health of the current settings. -/
def health : Operation Value := do
  if (← get).current?.isNone then assemble (Assembly.report Health.uninitialized)
  else
    let fields ← settings
    assemble (Assembly.report (← check fun view => Health.ofSettings view fields))

/-- The variables with one of them set, in the place that it had before. -/
def withVariable (vars : List (String × String)) (name v : String) :
    List (String × String) :=
  if vars.any (·.1 == name) then
    vars.map fun entry => if entry.1 == name then (name, v) else entry
  else vars ++ [(name, v)]

/-- Sets a variable of the process environment. -/
def setVariable (name v : Value) : Operation Value := do
  let name ← text name
  let v ← text v
  if name.contains '=' || name.contains '\x00' || v.contains '\x00' then throw .wrongValue
  if name.isEmpty then throw .unnamed
  modify fun s => { s with vars := withVariable s.vars name v }
  return .null

/-- Takes a variable out of the process environment. -/
def unsetVariable (name : Value) : Operation Value := do
  let name ← text name
  modify fun s => { s with vars := s.vars.filter (·.1 != name) }
  return .null

end GraphQuery.Operation
