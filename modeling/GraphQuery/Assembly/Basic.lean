import GraphQuery.Store.Tree

/-!
Assembling: calls that make objects out of values that nothing has checked yet.

An assembling step works on the store. When it fails, what it has added to the store stays there;
nothing refers to it. A value that cannot stand in a query is a literal: wherever an expression is
wanted it is wrapped into a parameter of its own, so it never becomes part of the text of a query.
-/

namespace GraphQuery

/-- A step that works on the store and may fail. -/
abbrev Assembly (α : Type) := ExceptT Fault (StateM Store) α

namespace Assembly

/-- Refuses for a reason. -/
def refuse {α : Type} (cause : Refusal) : Assembly α := throw (.refused cause)

/-- Goes on with a result, or fails. -/
def settle {α : Type} : Except Fault α → Assembly α
  | .ok a => return a
  | .error f => throw f

/-- How objects look at present. -/
def view : Assembly ObjectView := return (← get).view

/-- Passes a check that needs to know how objects look. -/
def check {α : Type} (c : ObjectView → Except Fault α) : Assembly α := do
  settle (c (← view))

/-- The name of the class of a value. -/
def typeName (v : Value) : Assembly String := return v.typeName (← view)

/-- The text of a value in a message. -/
def quoted (v : Value) : Assembly String := check v.quoted

/-- The text of a value in running text. -/
def plain (v : Value) : Assembly String := check v.plain

/-! ### Objects -/

/-- Adds an object that knows its own handle, and answers the handle. -/
def add (o : Nat → Object) : Assembly Nat := do
  let s ← get
  set (s.push (o s.next))
  return s.next

/-- Adds an object, and answers the value that stands for it. -/
def made (o : Object) : Assembly Value := return .object (← add fun _ => o)

/-- The object that a value stands for. -/
def object? (v : Value) : Assembly (Option Object) := return (← get).object? v

/-- The reference that a value stands for. -/
def reference? (v : Value) : Assembly (Option Reference) := do
  match ← object? v with
  | some (.reference r) => return some r
  | _ => return none

/-- The parameter that a value stands for. -/
def param? (v : Value) : Assembly (Option Param) := do
  match ← object? v with
  | some (.param p) => return some p
  | _ => return none

/-- The value can stand in a query. -/
def isExpression (v : Value) : Assembly Bool :=
  match v with
  | .object h => return (← get).isCompilable h
  | .atom _ _ => return false

/-- A literal in a parameter of its own. -/
def wrap (v : Value) : Assembly Param := do
  let h ← add fun h => .param ⟨h, v, none⟩
  return ⟨h, v, none⟩

/-- A value as an expression: itself if it can stand in a query, else in a parameter of its own. -/
def expression (v : Value) : Assembly Value := do
  if ← isExpression v then return v
  return .object (← wrap v).id

/-! ### Collections -/

/-- The fields of a record, each a pair of its name and its value. -/
def fieldPairs (fields : List (String × Value)) : Assembly (List Value) :=
  fields.mapM fun f => made (.tuple [.text f.1, f.2])

/-- The items that a value holds. -/
def listed (v : Value) : Assembly (List Value) := do
  match v.items? (← view) with
  | some items => return items
  | none => throw .wrongType

/-- The items that a value runs through. Records run through their fields. -/
def items (v : Value) : Assembly (List Value) := do
  match ← object? v with
  | some (.compiled q) =>
    let params ← made (.dict q.params)
    fieldPairs [("text", .text q.text), ("params", params)]
  | some (.settings s) => fieldPairs s.fields
  | _ => listed v

/-- The labels that a value lists; a text is a single label. -/
def labels (role : String) (v : Value) : Assembly (List Name) := do
  match v.name? with
  | some _ => return [← check fun view => checkLabel view role v]
  | none => (← items v).mapM fun v => check fun view => checkLabel view role v

/-- Takes the values one after another as far as they pass: what the passing ones give, and the
fault of the first that does not. -/
def whilePassing {α : Type} (pass : Value → Assembly α) :
    List Value → StateM Store (List α × Option Fault)
  | [] => return ([], none)
  | v :: rest => do
    match ← (pass v).run with
    | .error f => return ([], some f)
    | .ok a =>
      let (others, fault?) ← whilePassing pass rest
      return (a :: others, fault?)

end Assembly

end GraphQuery
