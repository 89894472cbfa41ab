import GraphQuery.Store.Tree

/-!
Compiling: an object is written with the names of a fresh environment, which gives the text of the
query and the values of its parameters.
-/

namespace GraphQuery

/-- What came of compiling: the events on the way, and the query. -/
structure Compilation where
  events : List Event
  result : Except Fault CompiledQuery

namespace Store

/-- An object written with the names of a registry. -/
def write {σ : Type} [Registry σ] (s : Store) (h : Nat) (e : σ) : Writing σ :=
  (s.template h).render e

/-- The fresh environment of a build under the given settings. -/
def freshEnvironment (s : Store) (settings : Settings) : Environment :=
  (settings.naming [] none none).environment s.view (.blank 0)

/-- The key of an entry as a message tells it: nought and one are the numbers of truth values. -/
def keyText (view : ObjectView) (key : Value) : String :=
  match key with
  | .atom (.bool b) _ => if b then "1" else "0"
  | key => (key.plain view).toOption.getD ""

/-- The keys that are no texts are rejected when the query is put together. -/
def keyIssues (view : ObjectView) (params : List (Value × Value)) : List Issue :=
  params.filterMap fun entry =>
    match acceptText entry.1 with
    | .ok _ => none
    | .error (rule, message) => some ⟨"params." ++ keyText view entry.1 ++ ".[key]", rule, message⟩

/-- The parameters of a query, with their keys as texts. -/
def textKeyed (view : ObjectView) (params : List (Value × Value)) : List (Value × Value) :=
  params.foldl (fun entries entry =>
    Value.store view entries ((acceptText entry.1).toOption.elim entry.1 .text) entry.2) []

/-- The event of a finished compilation. -/
def compiledEvent (s : Store) (settings : Settings) (h : Nat) (w : Writing Environment) : Event :=
  .compiled (s.className h) w.pen.env.size w.pen.env.params.length
    (if (settings.value .logText).truth s.view then some w.value else none)

/-- A query of a text and parameters, which are checked when it is put together. -/
def query (view : ObjectView) (text : Value) (params : List (Value × Value)) :
    Except Fault CompiledQuery :=
  match acceptText text, keyIssues view params with
  | .ok s, [] => .ok ⟨s, textKeyed view params⟩
  | .ok _, issues => .error (.invalid issues)
  | .error (rule, message), issues => .error (.invalid (⟨"text", rule, message⟩ :: issues))

/-- Compiles a clause, a statement or a union. -/
def compile (s : Store) (settings : Settings) (h : Nat) : Compilation :=
  let w := s.write h (s.freshEnvironment settings)
  match w.fault? with
  | some f => ⟨w.events, .error f⟩
  | none =>
    ⟨w.events ++ [s.compiledEvent settings h w], query s.view w.value w.pen.env.params⟩

end Store

end GraphQuery
