import GraphQuery.Proofs.Store.Likeness
import GraphQuery.Proofs.Tree.Tidiness

/-!
Trees that the library makes.

Their operators, functions and keywords are words of the library, their labels and keys are those of
what is there, and patterns are made of elements. Where a fault is met, at most one part has been
written. A boolean combination has several operands where the store is known to be typed, so that is
only asked for on demand.

* `Tree.Made`: a tree that the library makes, with one constructor for each form.
* `Tree.Made.clean`: such a tree is clean.
-/

namespace GraphQuery

/-! ### Keywords -/

/-- The keywords of clauses on patterns. -/
def clauseKeywords : List String := ["MATCH", "OPTIONAL MATCH", "CREATE"]

/-- The words between the branches of a union. -/
def unionKeywords : List String := ["UNION", "UNION ALL"]

theorem isQuiet_comparisonOperators : ∀ word ∈ comparisonOperators, Text.IsQuiet word := by decide

theorem isQuiet_checkOperators : ∀ word ∈ checkOperators, Text.IsQuiet word := by decide

theorem isQuiet_junctionOperators : ∀ word ∈ junctionOperators, Text.IsQuiet word := by decide

theorem isQuiet_functionNames : ∀ word ∈ functionNames, Text.IsQuiet word := by decide

theorem isQuiet_sortOrders : ∀ word ∈ sortOrders, Text.IsQuiet word := by decide

theorem isQuiet_clauseKeywords : ∀ word ∈ clauseKeywords, Text.IsQuiet word := by decide

theorem isQuiet_unionKeywords : ∀ word ∈ unionKeywords, Text.IsQuiet word := by decide

namespace Tree

/-! ### Trees -/

/-- The tree is a node or a relationship of a pattern, or stuck in the place of one. -/
def isElement : Tree → Bool
  | node .. | relationship .. | stuck .. => true
  | _ => false

section Made

variable (strict : Prop) (G : Grounds)

/-- Trees that are made of words of the library and of what is there. -/
inductive Made : Tree → Prop where
  | label {b : Bearer} : G.bearer b → Made (.label b)
  | key {p : Param} : G.param p → Made (.key p)
  | property {t : Tree} (path : List Name) : Made t → Made (.property t path)
  | comparison {o : String} {t u : Tree} : o ∈ comparisonOperators → Made t → Made u →
      Made (.comparison o t u)
  | check {o : String} {t : Tree} : o ∈ checkOperators → Made t → Made (.check o t)
  | junction {o : String} {ts : List Tree} : o ∈ junctionOperators → (strict → 2 ≤ ts.length) →
      (∀ t ∈ ts, Made t) → Made (.junction o ts)
  | negation {t : Tree} : Made t → Made (.negation t)
  | call {name : String} {ts : List Tree} : name ∈ functionNames → (∀ t ∈ ts, Made t) →
      Made (.call name ts)
  | star : Made .star
  | column {t : Tree} : Made t → Made (.column t)
  | aliased {t : Tree} (n : Name) : Made t → Made (.aliased t (.name n))
  | aliasedBearer {t : Tree} {b : Bearer} : G.bearer b → Made t → Made (.aliased t (.bearer b))
  | sorted {t : Tree} {order : String} : order ∈ sortOrders → Made t → Made (.sorted t order)
  | node {b : Bearer} (labels : List Name) {ps : List (Name × Tree)} : G.bearer b →
      (∀ p ∈ ps, Made p.2) → Made (.node b labels ps)
  | relationship {b : Bearer} (type : Option Name) {ps : List (Name × Tree)} (d : Direction) :
      G.bearer b → (∀ p ∈ ps, Made p.2) → Made (.relationship b type ps d)
  | pattern {ts : List Tree} : (∀ t ∈ ts, t.isElement = true) → (∀ t ∈ ts, Made t) →
      Made (.pattern ts)
  | filter {t : Tree} : Made t → Made (.filter t)
  | assignments {es : List (Tree × Tree)} : (∀ e ∈ es, Made e.1) → (∀ e ∈ es, Made e.2) →
      Made (.assignments es)
  | removals {ts : List Tree} : (∀ t ∈ ts, Made t) → Made (.removals ts)
  | deletions {ts : List Tree} (detach : Bool) : (∀ t ∈ ts, Made t) → Made (.deletions detach ts)
  | projection {ts us : List Tree} {skip limit : Option Param} (kind : ProjectionKind)
      (distinct : Bool) : (∀ t ∈ ts, Made t) → (∀ u ∈ us, Made u) →
      (∀ p, skip = some p → G.param p) → (∀ p, limit = some p → G.param p) →
      Made (.projection kind distinct ts us skip limit)
  | patternClause {keyword : String} {path : Option Bearer} {ts us : List Tree} :
      keyword ∈ clauseKeywords → (∀ b, path = some b → G.bearer b) → (∀ t ∈ ts, Made t) →
      (∀ u ∈ us, Made u) → Made (.patternClause keyword path ts us)
  | projectionClause {t : Tree} {us : List Tree} : Made t → (∀ u ∈ us, Made u) →
      Made (.projectionClause t us)
  | statement {ts : List Tree} : (∀ t ∈ ts, Made t) → Made (.statement ts)
  | union {keyword : String} {ts : List Tree} : keyword ∈ unionKeywords → (∀ t ∈ ts, Made t) →
      Made (.union keyword ts)
  | stuck (f : Fault) : Made (.stuck [] f)
  | halted {t : Tree} (f : Fault) : Made t → Made (.stuck [t] f)

end Made

/-! ### Tidiness -/

variable {strict : Prop} {G : Grounds} {t : Tree}

/-- A tree that the library makes is clean, and closed if it is an element of a pattern. -/
theorem Made.tidy (made : t.Made strict G) : t.Clean G ∧ (t.isElement = true → t.Closed G) := by
  have other {t : Tree} (clean : t.Clean G) (noElement : t.isElement = false) :
      t.Clean G ∧ (t.isElement = true → t.Closed G) := by
    refine ⟨clean, fun isElement => ?_⟩
    rw [noElement] at isElement
    cases isElement
  have element {t : Tree} (closed : t.Closed G) (sole : t.sole? = none) :
      t.Clean G ∧ (t.isElement = true → t.Closed G) := ⟨closed.clean sole, fun _ => closed⟩
  induction made with
  | label b => exact other (.label b) rfl
  | key p => exact other (.key p) rfl
  | property path _ ih => exact other (ih.1.property path) rfl
  | @comparison o _ _ mem _ _ ih ih' =>
    exact other (.comparison (isQuiet_comparisonOperators o mem) ih.1 ih'.1) rfl
  | @check o _ mem _ ih => exact other (.check (isQuiet_checkOperators o mem) ih.1) rfl
  | @junction o _ mem _ _ ih =>
    exact other (.junction (isQuiet_junctionOperators o mem) fun t mem => (ih t mem).1) rfl
  | negation _ ih => exact other ih.1.negation rfl
  | @call name _ mem _ ih =>
    exact other (.call (isQuiet_functionNames name mem) fun t mem => (ih t mem).1) rfl
  | star => exact other .star rfl
  | column _ ih => exact other ih.1.column rfl
  | aliased n _ ih => exact other (ih.1.aliased n) rfl
  | aliasedBearer b _ ih => exact other (ih.1.aliasedBearer b) rfl
  | @sorted _ order mem _ ih => exact other (ih.1.sorted (isQuiet_sortOrders order mem)) rfl
  | node labels b _ ih => exact element (.node b labels fun p mem => (ih p mem).1) rfl
  | relationship type d b _ ih =>
    exact element (.relationship b type (fun p mem => (ih p mem).1) d) rfl
  | pattern elements _ ih =>
    exact other (.pattern fun t mem => (ih t mem).2 (elements t mem)) rfl
  | filter _ ih => exact other ih.1.filter rfl
  | assignments _ _ ih ih' =>
    exact other (.assignments fun e mem => ⟨(ih e mem).1, (ih' e mem).1⟩) rfl
  | removals _ ih => exact other (.removals fun t mem => (ih t mem).1) rfl
  | deletions detach _ ih => exact other (.deletions detach fun t mem => (ih t mem).1) rfl
  | projection kind distinct _ _ skips limits ih ih' =>
    exact other (.projection kind distinct (fun t mem => (ih t mem).1)
      (fun u mem => (ih' u mem).1) skips limits) rfl
  | @patternClause keyword _ _ _ mem paths _ _ ih ih' =>
    exact other (.patternClause (isQuiet_clauseKeywords keyword mem) paths
      (fun t mem => (ih t mem).1) fun u mem => (ih' u mem).1) rfl
  | projectionClause _ _ ih ih' =>
    exact other (.projectionClause ih.1 fun u mem => (ih' u mem).1) rfl
  | statement _ ih => exact other (.statement fun t mem => (ih t mem).1) rfl
  | @union keyword _ mem _ ih =>
    exact other (.union (isQuiet_unionKeywords keyword mem) fun t mem => (ih t mem).1) rfl
  | stuck f => exact element (.stuck f) rfl
  | halted f _ ih => exact element (ih.1.halted f) rfl

/-- A tree that the library makes is clean. -/
theorem Made.clean (made : t.Made strict G) : t.Clean G := made.tidy.1

end Tree

end GraphQuery
