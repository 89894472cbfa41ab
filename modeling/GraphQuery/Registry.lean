import GraphQuery.Environment

/-!
Registries: whatever gives names to references and parameters while a query is written.

An environment is one. What else can give names only has to answer the same questions.
-/

namespace GraphQuery

/-- What gives names while a query is written: labels, keys, the separator of clauses, how many
numbers are used up, and the mark of the texts that are handed out. -/
class Registry (σ : Type) where
  labelFor : σ → Bearer → Allocated σ Wording
  keyFor : σ → Param → Allocated σ Wording
  separator : σ → Wording
  size : σ → Value
  mark : σ → Nat

/-- An environment gives the names that it allocates. -/
instance : Registry Environment where
  labelFor := Environment.labelFor
  keyFor := Environment.keyFor
  separator := Environment.separator
  size e := .int e.size
  mark e := e.mark

end GraphQuery
