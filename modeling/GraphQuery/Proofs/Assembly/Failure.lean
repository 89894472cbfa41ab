import GraphQuery.Proofs.Assembly.Frame

/-!
What builder calls that fail leave of their clause.

A clause refuses a call before it looks at the arguments if it has no slot for what the call would
add, if it has no rows to order, or if its patterns can share no path. Whatever the arguments are,
nothing becomes of such a call. All other builders but those that go through their arguments one by
one take them first and change the clause afterwards, so a failure leaves it as it was.

* `Clause.Refuses`: the calls that a clause refuses, each with its fault.
* `build_of_refuses`: the call fails with that fault, and the clause stays.
* `Builder.isWhole`: the builders that change a clause once all arguments are taken, if at all.
* `clause_of_failed`: where such a builder fails, the clause stays.
-/

namespace GraphQuery

open Assembly

/-! ### Calls that are refused -/

/-- The builder changes the ordering of rows. -/
def Builder.isOrdering : Builder → Bool
  | orderBy _ | skip _ | limit _ => true
  | _ => false

/-- A clause refuses a call with a fault: it does not have the slot, there is no projection with
rows to order, or several patterns would have to share a path. -/
inductive Clause.Refuses (c : Clause) : Builder → Fault → Prop where
  | unsupported {b : Builder} {slot : Slot} (fills : b.slot? = some slot)
      (absent : c.supports slot = false) : Refuses c b (c.unsupported slot)
  | unordered {b : Builder} (orders : b.isOrdering = true) (absent : c.mapOrdering? id = none) :
      Refuses c b (.refused (.nothingToOrder c.className))
  | shared {v : Value} (supports : c.supports .path = true)
      (several : 1 < c.head.patterns.length) :
      Refuses c (.path v) (.refused (.sharedPath c.head.patterns.length))

namespace Clause

variable {c : Clause}

theorem onSlot_of_unsupported {slot : Slot} (absent : c.supports slot = false)
    (change : Clause → Built) : c.onSlot slot change = c.refuse (c.unsupported slot) := by
  rw [onSlot, absent]
  rfl

theorem onSlot_of_supports {slot : Slot} (supports : c.supports slot = true)
    (change : Clause → Built) : c.onSlot slot change = change c := if_pos supports

/-- Whether there is an ordering does not depend on how it is to be changed. -/
theorem mapOrdering?_eq_none {g : Ordering → Ordering} (absent : c.mapOrdering? g = none)
    (f : Ordering → Ordering) : c.mapOrdering? f = none := by
  unfold mapOrdering? at absent ⊢
  split at absent
  · cases absent
  · cases absent
  · cases absent
  · rfl

/-- An ordering that is left as it is leaves the clause as it is. -/
theorem eq_of_mapOrdering?_id {c' : Clause} (found : c.mapOrdering? id = some c') : c' = c := by
  unfold mapOrdering? at found
  split at found
  · rename_i p _ _ head_eq
    cases found
    exact congrArg (fun head => { c with head := head }) head_eq.symm
  · rename_i p returning_eq _
    cases found
    exact congrArg (fun returning => { c with returning := returning }) returning_eq.symm
  · rename_i p returning_eq passing_eq _
    cases found
    exact congrArg (fun passing => { c with passing := passing }) passing_eq.symm
  · cases found

theorem onOrdering_of_absent (absent : c.mapOrdering? id = none) (f : Ordering → Ordering)
    (fault? : Option Fault) :
    c.onOrdering f fault? = c.refuse (.refused (.nothingToOrder c.className)) := by
  rw [onOrdering, mapOrdering?_eq_none absent f]

/-- The clause stays where the ordering does. -/
theorem onOrdering_id (fault? : Option Fault) : (c.onOrdering id fault?).clause = c := by
  unfold onOrdering
  split
  · exact eq_of_mapOrdering?_id ‹_›
  · rfl

/-- A change of a slot that leaves the clause as it is where it fails. -/
theorem onSlot_of_failed {slot : Slot} {change : Clause → Built} {f : Fault}
    (keeps : (change c).fault? = some f → (change c).clause = c)
    (failed : (c.onSlot slot change).fault? = some f) : (c.onSlot slot change).clause = c := by
  unfold onSlot at failed ⊢
  split
  · rename_i supports
    rw [if_pos supports] at failed
    exact keeps failed
  · rfl

theorem filterBy_of_failed {predicate : Except Fault Value} {f : Fault}
    (failed : (c.filterBy predicate).fault? = some f) : (c.filterBy predicate).clause = c := by
  refine onSlot_of_failed (fun failed => ?_) failed
  cases predicate with
  | ok v => cases failed
  | error f => rfl

theorem project_of_failed {kind : ProjectionKind} {columns : Except Fault (List Column)}
    {distinct : Value} {f : Fault} (failed : (c.project kind columns distinct).fault? = some f) :
    (c.project kind columns distinct).clause = c := by
  refine onSlot_of_failed (fun failed => ?_) failed
  cases columns with
  | ok columns => cases failed
  | error f => rfl

/-- A row count that cannot be taken leaves the ordering as it is, or there is none. -/
theorem onOrdering_of_failed {g : Ordering → Ordering} {f : Fault}
    (failed : (c.onOrdering g none).fault? = some f) : (c.onOrdering g none).clause = c := by
  unfold onOrdering at failed ⊢
  split
  · rename_i found
    rw [found] at failed
    cases failed
  · rfl

theorem skip_of_failed {count : Except Fault Param} {f : Fault}
    (failed : (c.skip count).fault? = some f) : (c.skip count).clause = c := by
  cases count with
  | ok p => exact onOrdering_of_failed failed
  | error f => exact onOrdering_id _

theorem limit_of_failed {count : Except Fault Param} {f : Fault}
    (failed : (c.limit count).fault? = some f) : (c.limit count).clause = c := by
  cases count with
  | ok p => exact onOrdering_of_failed failed
  | error f => exact onOrdering_id _

end Clause

/-- A call that a clause refuses fails, whatever its arguments are, and the clause stays. -/
theorem build_of_refuses {c : Clause} {b : Builder} {f : Fault} (refuses : c.Refuses b f)
    (s : Store) : (outcome (build c b) s).1 = c.refuse f := by
  cases refuses with
  | unsupported fills absent =>
    have refused := Clause.onSlot_of_unsupported absent
    cases b with
    | path v =>
      cases fills
      change c.bindPath _ = _
      rw [Clause.bindPath, if_neg (by simp [absent])]
      exact refused _
    | restrict v | relax v =>
      cases fills
      change c.filterBy _ = _
      exact refused _
    | assign vs =>
      cases fills
      change c.assign _ _ = _
      exact refused _
    | remove vs =>
      cases fills
      change c.removeProperties _ _ = _
      exact refused _
    | delete vs detach =>
      cases fills
      change c.delete _ _ _ = _
      exact refused _
    | project kind vs distinct =>
      cases fills
      change c.project _ _ _ = _
      exact refused _
    | orderBy | skip | limit | makeOptional => cases fills
  | unordered orders absent =>
    cases b with
    | orderBy vs => exact Clause.onOrdering_of_absent absent _ _
    | skip v =>
      change c.skip (outcome (rowCount "SKIP" v).run s).1 = _
      unfold Clause.skip
      split <;> exact Clause.onOrdering_of_absent absent _ _
    | limit v =>
      change c.limit (outcome (rowCount "LIMIT" v).run s).1 = _
      unfold Clause.limit
      split <;> exact Clause.onOrdering_of_absent absent _ _
    | _ => cases orders
  | shared supports several =>
    change c.bindPath _ = _
    rw [Clause.bindPath, supports, if_pos (by simpa using several)]

/-! ### Builders that take their arguments first -/

/-- The builder changes its clause once all its arguments have been taken, if at all. The others go
through their arguments one by one, or make their slot first. -/
def Builder.isWhole : Builder → Bool
  | restrict _ | relax _ | project .. | skip _ | limit _ | makeOptional => true
  | path _ | assign _ | remove _ | delete .. | orderBy _ => false

/-- Where such a builder fails, the clause stays. -/
theorem clause_of_failed {c : Clause} {b : Builder} (whole : b.isWhole = true) {s : Store}
    {f : Fault} (failed : (outcome (build c b) s).1.fault? = some f) :
    (outcome (build c b) s).1.clause = c := by
  cases b with
  | restrict v | relax v => exact Clause.filterBy_of_failed failed
  | project kind vs distinct => exact Clause.project_of_failed failed
  | skip v => exact Clause.skip_of_failed failed
  | limit v => exact Clause.limit_of_failed failed
  | makeOptional =>
    unfold build at failed ⊢
    cases optional : c.makeOptional? with
    | none => rfl
    | some c' =>
      rw [optional] at failed
      cases failed
  | _ => cases whole

end GraphQuery
