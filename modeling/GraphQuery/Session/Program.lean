import GraphQuery.Session.Callable

/-!
Programs: calls as terms, and steps that give their answers names.

A term is a literal, a collection of terms, a name, or a call. Its parts are evaluated from left to
right, the receiver of a call before its arguments; the method is looked up in between. The first
fault ends the evaluation, and what was done until then stays done. Every evaluation of a literal, a
collection or a call makes something new, so it is shared only through the name of a step.

* `Term.answer`: what a term gives, given what the names in it stand for.
* `Program.step`: one step of a program, reported with the state that it leaves.
-/

namespace GraphQuery

/-- A call with its arguments, or anything else that an argument can be. -/
inductive Term where
  | literal (a : Atom)
  | list (items : List Term)
  | tuple (items : List Term)
  | dict (entries : List (Term × Term))
  /-- What an earlier step has given a name. -/
  | name (n : String)
  /-- A call without a receiver. -/
  | function (callee : String) (placed : List Term) (named : List (String × Term))
  /-- A call on a receiver. -/
  | method (receiver : Term) (callee : String) (placed : List Term) (named : List (String × Term))
  deriving Inhabited

/-- What names stand for. The first entry of a name counts. -/
abbrev Bindings := List (String × Value)

/-- An answer in which a value that is new has a mark of its own. -/
def Answer.marked : Answer → Operation Answer
  | .value v => .value <$> Operation.marked v
  | .line text remaining => return .line text remaining

/-- A call that can be made, with arguments. -/
def Callable.apply (c : Callable) (placed : List Value) (named : List (String × Value)) :
    Operation Answer := do
  let arguments ← Operation.settle (c.signature.bind placed named)
  (← (c.request arguments).perform).marked

/-- The function of a name. -/
def Operation.function (callee : String) : Operation Callable :=
  match Callable.function? callee with
  | some c => return c
  | none => throw .unbound

/-- The method of a name on a receiver. -/
def Operation.method (receiver : Value) (callee : String) : Operation Callable := do
  if !Callable.methodNames.contains callee then throw .unbound
  match Callable.method? (← get).store receiver callee with
  | some c => return c
  | none => throw .missing

mutual

/-- What a term gives. -/
def Term.answer (bound : Bindings) : Term → Operation Answer
  | .literal a => return .value (.atom a (← Operation.freshMark))
  | .list items => do
    let items ← Term.values bound items
    .value <$> Operation.assemble (Assembly.list items)
  | .tuple items => do
    let items ← Term.values bound items
    .value <$> Operation.assemble (Assembly.tuple items)
  | .dict entries => do
    let entries ← Term.entries bound [] entries
    .value <$> Operation.assemble (Assembly.dict entries)
  | .name n =>
    match bound.lookup n with
    | some v => return .value v
    | none => throw .unbound
  | .function callee placed named => do
    let c ← Operation.function callee
    let placed ← Term.values bound placed
    c.apply placed (← Term.namedValues bound named)
  | .method receiver callee placed named => do
    let receiver ← (← receiver.answer bound).toValue
    let c ← Operation.method receiver callee
    let placed ← Term.values bound placed
    c.apply placed (← Term.namedValues bound named)

/-- The values of terms, from left to right. -/
def Term.values (bound : Bindings) : List Term → Operation (List Value)
  | [] => return []
  | t :: rest => do
    let v ← (← t.answer bound).toValue
    return v :: (← Term.values bound rest)

/-- The entries of a dictionary, from left to right behind those that it has already. What cannot be
a key is refused once its value is there. -/
def Term.entries (bound : Bindings) (before : List (Value × Value)) :
    List (Term × Term) → Operation (List (Value × Value))
  | [] => return before
  | (key, t) :: rest => do
    let key ← (← key.answer bound).toValue
    let v ← (← t.answer bound).toValue
    let before ← Operation.assemble (Assembly.insert before key v)
    Term.entries bound before rest

/-- The values of arguments that are given by name. -/
def Term.namedValues (bound : Bindings) :
    List (String × Term) → Operation (List (String × Value))
  | [] => return []
  | (n, t) :: rest => do
    let v ← (← t.answer bound).toValue
    return (n, v) :: (← Term.namedValues bound rest)

end

/-- A step of a program: a term, and the name that its value gets. -/
structure Step where
  term : Term
  name? : Option String

/-- A session together with what names stand for in it. -/
structure Program where
  session : Session
  bound : Bindings

/-- What came of a step: its answer, what the step was called on if that had a name, and the session
afterwards, with the events and the log of this step. -/
structure Report where
  result : Except Fault Answer
  receiver? : Option Value
  session : Session

namespace Program

/-- A program before its first step. -/
def initial : Program := ⟨.initial, []⟩

/-- What a step is called on, if the term says so by a name that stands for something. -/
def receiver? (bound : Bindings) : Term → Option Value
  | .method (.name n) .. => bound.lookup n
  | _ => none

/-- The answer of a step, and the names after it. A step that fails names nothing. -/
def answer (bound : Bindings) (s : Step) : Operation (Answer × Bindings) := do
  let a ← s.term.answer bound
  match s.name? with
  | some n => return (a, (n, ← a.toValue) :: bound)
  | none => return (a, bound)

/-- Carries out a step. The events and the log of the step before are forgotten. -/
def step (p : Program) (s : Step) : Report × Program :=
  let before := { p.session with events := [], log := "" }
  let (result, after) := (answer p.bound s).run.run before
  (⟨result.map (·.1), receiver? p.bound s.term, after⟩,
    ⟨after, (result.toOption.map (·.2)).getD p.bound⟩)

/-- Carries out the steps one after another. -/
def reports (p : Program) : List Step → List Report
  | [] => []
  | s :: rest =>
    let (report, next) := p.step s
    report :: next.reports rest

end Program

end GraphQuery
