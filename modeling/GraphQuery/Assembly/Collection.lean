import GraphQuery.Assembly.Basic
import GraphQuery.Settings.Health

/-!
Making collections: lists, tuples and dictionaries, which are objects like all others, and what is
made of them: the tables of a loose environment, and the report on the health of the settings.
-/

namespace GraphQuery.Assembly

/-- A list. -/
def list (items : List Value) : Assembly Value := made (.list items)

/-- A tuple. -/
def tuple (items : List Value) : Assembly Value := made (.tuple items)

/-- A dictionary of different keys. -/
def dict (entries : List (Value × Value)) : Assembly Value := made (.dict entries)

/-- A dictionary with texts as keys. -/
def record (fields : List (String × Value)) : Assembly Value :=
  dict (fields.map fun f => (.text f.1, f.2))

/-- The entries of a dictionary with a further one. What cannot be a key is refused. -/
def insert (entries : List (Value × Value)) (key v : Value) : Assembly (List (Value × Value)) := do
  let view ← view
  if !key.hashable view then throw .wrongType
  return Value.store view entries key v

/-- The entries of the names that an environment has given in a role. -/
def roleEntries (l : Ledger) (role : Role) : List (Value × Value) :=
  (l.allocations.filter fun a => a.role = role).map fun a => (.object a.owner, a.name.handed l.mark)

/-- An environment taken apart: its tables as dictionaries. -/
def loosened (n : Naming) (l : Ledger) : Assembly LooseEnvironment := do
  return {
    stems := ← record (Kind.all.map fun kind => (kind.word, n.stems kind))
    bareFirst := n.bareFirst
    separator := n.separator
    counter := .int l.counter
    issued := .made (l.allocations.map fun a => a.name.handed l.mark)
    labels := ← dict (roleEntries l .label)
    keys := ← dict (roleEntries l .key)
    params := ← dict (l.allocations.filterMap fun a =>
      a.param?.map fun v => (a.name.handed l.mark, v))
    mark := l.mark }

/-- A finding as a dictionary. -/
def finding (f : Finding) : Assembly Value :=
  record [("field", .text f.field), ("message", .text f.message)]

/-- The report on the health of the settings. -/
def report (h : Health) : Assembly Value := do
  let errors ← list (← h.errors.mapM finding)
  let warnings ← list (← h.warnings.mapM finding)
  let info ← list []
  let issues ← record [("errors", errors), ("warnings", warnings), ("info", info)]
  record [("overall_health", .text h.overall), ("issues", issues)]

end GraphQuery.Assembly
