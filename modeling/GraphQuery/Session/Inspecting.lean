import GraphQuery.Session.Compiling
import GraphQuery.Store.Attribute

/-!
Objects of any class: making errors, assigning attributes, and comparing.
-/

namespace GraphQuery.Operation

/-- An error as an object. Details that count as false are none. -/
def error (className message details : Value) : Operation Value := do
  let className ← text className
  if !ErrorRecord.classNames.contains className then throw .missing
  let details ← if details.truth (← view) then pure details else assemble (Assembly.dict [])
  assemble (Assembly.made (.error ⟨className, [message], message, details⟩))

/-- The entries of a dictionary that are something. The keys have to be texts. -/
def context (v : Value) : Operation Value := do
  match v.entries? (← view) with
  | some entries =>
    let _ ← entries.mapM fun entry => text entry.1
    assemble (Assembly.dict (entries.filter fun entry => !entry.2.isNull))
  | none => throw .wrongType

/-- Attributes of a direction that are its own. -/
def directionAttributes : List String := ["value", "name"]

/-- Notes that an attribute of an object was assigned. -/
def noteAssignment (h : Nat) (name : String) (v : Value) : Operation Unit :=
  modify fun s => { s with store := s.store.noteAssignment h name v }

/-- Assigns a single attribute of an object. An environment that is given a part of its own becomes
a loose one. -/
def assignSingle (h : Nat) (name : String) (v : Value) : Operation Unit := do
  if looseAttributes.contains name then loosen h
  match (← get).store.get? h with
  | some o =>
    replace h (← settle (o.assign (← view) name v))
    noteAssignment h name v
  | none => throw .missing

/-- Makes attributes of the entries of a table, as far as they can be any. A compiled query is made
anew. -/
def takeTable (h : Nat) (entries : List (Value × Value)) : Operation Unit := do
  entries.forM fun entry => entry.1.text?.forM fun name =>
    tryCatch (assignSingle h name entry.2) fun _ => return
  let view ← view
  let text? := Value.lookup? entries "text"
  let params? := Value.lookup? entries "params"
  match (← get).store.get? h, text?.bind Value.text?, params?.bind (Value.entries? view) with
  | some (.compiled _), some text, some params =>
    replace h (.compiled ⟨text, params⟩)
    noteAssignment h "text" (text?.getD .null)
    noteAssignment h "params" (params?.getD .null)
  | _, _, _ => return

/-- Assigns an attribute of an object, which may be the table of all its attributes. -/
def assignAttribute (h : Nat) (name : String) (v : Value) : Operation Unit := do
  assignSingle h name v
  if name = Object.tableAttribute then
    let s ← get
    if (s.store.get? h).any Object.hasTable then takeTable h ((v.entries? s.store.view).getD [])

/-- What comes of assigning an attribute of an atom. A direction takes any attribute but its own,
all others take none. -/
def atomTakes (a : Atom) (name : String) : Except Fault Unit :=
  if name = Object.classAttribute then .error .wrongType
  else
    match a with
    | .direction _ => if directionAttributes.contains name then .error .missing else .ok ()
    | _ => .error .missing

/-- Assigns an attribute of a value. -/
def assign (receiver name v : Value) : Operation Value := do
  let name ← text name
  match receiver with
  | .object h => assignAttribute h name v
  | .atom a _ => settle (atomTakes a name)
  return .null

/-- Takes the first item out of a list that matches a value. -/
def removeItem (h : Nat) (v : Value) : Operation Value := do
  let view ← view
  match view.content h with
  | .list items =>
    if items.any (Value.matched view · v) then
      replace h (.list (items.eraseP (Value.matched view · v)))
      return .null
    else throw .wrongValue
  | _ => throw .missing

end GraphQuery.Operation
