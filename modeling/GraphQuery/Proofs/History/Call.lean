import GraphQuery.Clause
import GraphQuery.Tree

/-!
What builder calls that have succeeded come to, one after another.

How calls combine is told by the calls alone: which of them count for a part of a clause, and
whether the last of them counts or all of them do in turn. What orders rows goes to the projection
that is returned once there is one, and before that to the one that is handed on.

* `Call`: a builder call with its arguments as they are taken.
* `History.path`, `History.predicates`, `History.columns`, `History.ordering`: what calls come to.
* `History.orderingOf`: the ordering of a trailing projection.
* `History.contents`: what a clause comes to that has been made with a head.
-/

namespace GraphQuery

/-- How a predicate is joined to the one before. -/
inductive Connective where
  | and
  | or
  deriving DecidableEq, Repr

/-- The operator of a connective. -/
def Connective.word : Connective → String
  | and => "AND"
  | or => "OR"

/-- A builder call with its arguments as they are taken. -/
inductive Call where
  | path (r : Reference)
  | join (connective : Connective) (predicate : Value)
  | assign (entries : List (Value × Value))
  | remove (properties : List Value)
  | delete (references : List Reference) (detach : Bool)
  | project (kind : ProjectionKind) (columns : List Column) (distinct : Value)
  | orderBy (items : List SortItem)
  | skip (count : Param)
  | limit (count : Param)
  | makeOptional

namespace Call

/-! ### What a single call gives -/

/-- The path that is bound. -/
def path? : Call → Option Reference
  | path r => some r
  | _ => none

/-- The predicate, and how it is joined. -/
def predicate? : Call → Option (Connective × Value)
  | join connective v => some (connective, v)
  | _ => none

/-- The assignments of values to properties. -/
def entries : Call → List (Value × Value)
  | assign entries => entries
  | _ => []

/-- The properties to remove. -/
def removed : Call → List Value
  | remove properties => properties
  | _ => []

/-- The references to delete. -/
def deleted : Call → List Reference
  | delete references _ => references
  | _ => []

/-- Relationships are to be deleted as well. -/
def detaches : Call → Bool
  | delete _ detach => detach
  | _ => false

/-- The columns of a projection, and whether its rows are distinct. -/
def columns? (kind : ProjectionKind) : Call → Option (List Column × Value)
  | project kind' columns distinct => if kind' = kind then some (columns, distinct) else none
  | _ => none

/-- Something is returned. -/
def returns (c : Call) : Bool := (c.columns? .returning).isSome

/-- The sort items. -/
def sortItems : Call → List SortItem
  | orderBy items => items
  | _ => []

/-- How many rows are skipped. -/
def skip? : Call → Option Param
  | skip count => some count
  | _ => none

/-- How many rows are kept. -/
def limit? : Call → Option Param
  | limit count => some count
  | _ => none

/-- The call is for the ordering of rows. -/
def orders : Call → Bool
  | orderBy _ | skip _ | limit _ => true
  | _ => false

/-- The patterns may be absent. -/
def optional : Call → Bool
  | makeOptional => true
  | _ => false

/-- What the call makes of an ordering. -/
def reorder : Call → Ordering → Ordering
  | orderBy items, o => { o with sortItems := o.sortItems ++ items }
  | skip count, o => { o with skip := some count }
  | limit count, o => { o with limit := some count }
  | _, o => o

/-- Other calls leave orderings alone. -/
theorem reorder_of_not {c : Call} (other : c.orders = false) (o : Ordering) : c.reorder o = o := by
  cases c with
  | orderBy | skip | limit => cases other
  | _ => rfl

/-- What orders rows gives no columns. -/
theorem columns?_of_orders (c : Call) (orders : c.orders = true) (kind : ProjectionKind) :
    c.columns? kind = none := by
  cases c with
  | project => cases orders
  | _ => rfl

/-- What returns something does not order anything. -/
theorem orders_of_returns {c : Call} (returns : c.returns = true) : c.orders = false := by
  cases c with
  | project => rfl
  | _ => cases returns

end Call

/-! ### What calls come to -/

namespace History

variable (calls : List Call)

/-- The path that was bound last. -/
def path : Option Reference := (calls.filterMap Call.path?).getLast?

/-- All predicates in turn. -/
def predicates : List (Connective × Value) := calls.filterMap Call.predicate?

/-- The columns that a projection was given last, and whether its rows are distinct. -/
def columns (kind : ProjectionKind) : Option (List Column × Value) :=
  (calls.filterMap (Call.columns? kind)).getLast?

/-- Sort items in turn, and the row counts that came last. -/
def ordering : Ordering where
  sortItems := calls.flatMap Call.sortItems
  skip := (calls.filterMap Call.skip?).getLast?
  limit := (calls.filterMap Call.limit?).getLast?

/-- The calls whose orderings go to a trailing projection: once something is returned they go there,
and before that to what is handed on. -/
def routed : ProjectionKind → List Call
  | .passing => calls.takeWhile fun c => !c.returns
  | .returning => calls.dropWhile fun c => !c.returns

/-- The ordering of a trailing projection. -/
def orderingOf (kind : ProjectionKind) : Ordering := ordering (routed calls kind)

/-- A trailing projection. -/
def projection? (kind : ProjectionKind) : Option Projection :=
  (columns calls kind).map fun given => ⟨kind, given.1, given.2, orderingOf calls kind⟩

/-- The projection that a further ordering goes to. -/
def target : ProjectionKind := if calls.any Call.returns then .returning else .passing

/-! ### One call more -/

variable {calls} (c : Call)

theorem ordering_snoc : ordering (calls ++ [c]) = c.reorder (ordering calls) := by
  cases c <;> simp [ordering, Call.reorder, Call.sortItems, Call.skip?, Call.limit?]

/-- Once something is returned, all that follows goes there. -/
theorem routed_append_of_returns (returns : calls.any Call.returns = true) (others : List Call) :
    routed (calls ++ others) .passing = routed calls .passing ∧
      routed (calls ++ others) .returning = routed calls .returning ++ others := by
  induction calls with
  | nil => cases returns
  | cons c calls ih =>
    cases first : c.returns with
    | true => simp [routed, first]
    | false =>
      have later : calls.any Call.returns = true := by simpa [first] using returns
      obtain ⟨passing, returning⟩ := ih later
      simp only [routed, List.cons_append, List.takeWhile_cons, List.dropWhile_cons, first,
        Bool.not_false, if_true] at passing returning ⊢
      exact ⟨congrArg (c :: ·) passing, returning⟩

/-- As long as nothing is returned, all that was called goes to what is handed on. -/
theorem routed_append_of_not (silent : calls.any Call.returns = false) (others : List Call) :
    routed (calls ++ others) .passing = calls ++ routed others .passing ∧
      routed (calls ++ others) .returning = routed others .returning := by
  have goesOn : ∀ c ∈ calls, (!c.returns) = true := by
    intro c mem
    rw [Bool.eq_false_iff.mpr (List.any_eq_false.mp silent c mem)]
    rfl
  exact ⟨List.takeWhile_append_of_pos goesOn, List.dropWhile_append_of_pos goesOn⟩

/-- As long as nothing is returned, all orderings are those of what is handed on. -/
theorem orderingOf_of_not (silent : calls.any Call.returns = false) :
    orderingOf calls .passing = ordering calls ∧ orderingOf calls .returning = .unordered := by
  have routed := routed_append_of_not silent []
  rw [List.append_nil] at routed
  rw [orderingOf, orderingOf, routed.1, routed.2]
  exact ⟨congrArg ordering (List.append_nil _), rfl⟩

/-- A further ordering goes to the projection that it is for, and the other one keeps its own. -/
theorem orderingOf_snoc (kind : ProjectionKind) : orderingOf (calls ++ [c]) kind =
    if kind = target calls then c.reorder (orderingOf calls kind) else orderingOf calls kind := by
  unfold target
  cases returns : calls.any Call.returns with
  | true =>
    obtain ⟨passing, returning⟩ := routed_append_of_returns returns [c]
    cases kind with
    | passing => simp [orderingOf, passing]
    | returning => simp [orderingOf, returning, ordering_snoc]
  | false =>
    obtain ⟨before, before'⟩ := orderingOf_of_not returns
    cases own : c.returns with
    | false =>
      have silent : (calls ++ [c]).any Call.returns = false := by simp [returns, own]
      obtain ⟨passing, returning⟩ := orderingOf_of_not silent
      cases kind with
      | passing => simp [passing, before, ordering_snoc]
      | returning => simp [returning, before']
    | true =>
      obtain ⟨passing, returning⟩ := routed_append_of_not returns [c]
      have single : routed [c] .passing = [] ∧ routed [c] .returning = [c] := by simp [routed, own]
      have reorder := Call.reorder_of_not (Call.orders_of_returns own)
      have after : orderingOf (calls ++ [c]) .passing = ordering calls := by
        rw [orderingOf, passing, single.1, List.append_nil]
      have after' : orderingOf (calls ++ [c]) .returning = .unordered := by
        rw [orderingOf, returning, single.2, ← List.nil_append [c], ordering_snoc, reorder]
        rfl
      cases kind with
      | passing => simp [after, before, reorder]
      | returning => simp [after', before']

variable {c}

/-- Other calls leave the columns alone. -/
theorem columns_snoc_of_none {kind : ProjectionKind} (none : c.columns? kind = none) :
    columns (calls ++ [c]) kind = columns calls kind := by
  simp [columns, none]

/-- The columns that come last count. -/
theorem columns_snoc_of_some {kind : ProjectionKind} {given : List Column × Value}
    (some : c.columns? kind = some given) : columns (calls ++ [c]) kind = given := by
  simp [columns, some]

/-- There are columns to return just in case something is returned. -/
theorem columns_returning_eq_none_iff :
    columns calls .returning = none ↔ calls.any Call.returns = false := by
  rw [columns, List.getLast?_eq_none_iff, List.filterMap_eq_nil_iff, List.any_eq_false]
  simp [Call.returns]

theorem target_of_some {p : Projection} (found : projection? calls .returning = some p) :
    target calls = .returning := by
  cases returns : calls.any Call.returns with
  | true => exact if_pos returns
  | false =>
    rw [projection?, columns_returning_eq_none_iff.mpr returns] at found
    cases found

theorem target_of_none (absent : projection? calls .returning = none) :
    target calls = .passing := by
  rw [projection?, Option.map_eq_none_iff, columns_returning_eq_none_iff] at absent
  rw [target, absent]
  rfl

/-- Other calls leave a trailing projection alone. -/
theorem projection?_snoc_of_none {kind : ProjectionKind} (none : c.columns? kind = none)
    (other : c.orders = false) : projection? (calls ++ [c]) kind = projection? calls kind := by
  rw [projection?, projection?, columns_snoc_of_none none, orderingOf_snoc]
  simp [Call.reorder_of_not other]

end History

/-! ### What clauses come to -/

/-- What becomes of the head of a clause: its patterns may be absent if they are to be, and a
projection that stands alone gets all orderings. -/
def Head.after (calls : List Call) : Head → Head
  | read optionalClass isOptional patterns =>
    read optionalClass (if calls.any Call.optional then .bool true else isOptional) patterns
  | create patterns => create patterns
  | project p => project { p with ordering := History.ordering calls }

/-- What a clause comes to: its head, and what is in its slots. -/
structure Contents where
  head : Head
  path : Option Reference
  predicates : List (Connective × Value)
  assignments : List (Value × Value)
  removals : List Value
  deletion : Deletion
  passing : Option Projection
  returning : Option Projection

/-- What a clause comes to that has been made with a head and on which builders have been called. -/
def History.contents (head : Head) (calls : List Call) : Contents where
  head := head.after calls
  path := path calls
  predicates := predicates calls
  assignments := calls.flatMap Call.entries
  removals := calls.flatMap Call.removed
  deletion := ⟨calls.flatMap Call.deleted, calls.any Call.detaches⟩
  passing := projection? calls .passing
  returning := projection? calls .returning

namespace Head

variable {calls : List Call} {c : Call}

theorem after_snoc (head : Head) (other : c.orders = false) (mandatory : c.optional = false) :
    head.after (calls ++ [c]) = head.after calls := by
  cases head with
  | read optionalClass isOptional patterns => simp [after, mandatory]
  | create patterns => rfl
  | project p => simp [after, History.ordering_snoc, Call.reorder_of_not other]

/-- No call changes what a clause can carry. -/
theorem manifest_after (head : Head) : (head.after calls).manifest = head.manifest := by
  cases head <;> rfl

/-- An ordering of a trailing projection leaves the head alone. -/
theorem after_snoc_of_orders {head : Head} (pattern : ∀ p, head ≠ .project p)
    (orders : c.orders = true) : head.after (calls ++ [c]) = head.after calls := by
  have mandatory : c.optional = false := by
    cases c with
    | makeOptional => cases orders
    | _ => rfl
  cases head with
  | read optionalClass isOptional patterns => simp [after, mandatory]
  | create patterns => rfl
  | project p => exact absurd rfl (pattern p)

end Head

namespace History

variable {calls : List Call} (head : Head)

/-- What a clause comes to after one call more. -/
theorem contents_snoc (c : Call) : contents head (calls ++ [c]) =
    { head := head.after (calls ++ [c])
      path := c.path?.or (path calls)
      predicates := predicates calls ++ c.predicate?.toList
      assignments := calls.flatMap Call.entries ++ c.entries
      removals := calls.flatMap Call.removed ++ c.removed
      deletion :=
        ⟨calls.flatMap Call.deleted ++ c.deleted, calls.any Call.detaches || c.detaches⟩
      passing := projection? (calls ++ [c]) .passing
      returning := projection? (calls ++ [c]) .returning } := by
  have predicates : (calls ++ [c]).filterMap Call.predicate? =
      calls.filterMap Call.predicate? ++ c.predicate?.toList := by
    cases predicate : c.predicate? <;> simp [predicate]
  simp [contents, path, History.predicates, predicates, List.getLast?_append]

/-- What calls come to that are for no projection, no ordering and not for the head. -/
theorem contents_snoc_of_slot {c : Call} (other : c.orders = false) (mandatory : c.optional = false)
    (noColumns : ∀ kind, c.columns? kind = none) : contents head (calls ++ [c]) =
      { contents head calls with
        path := c.path?.or (path calls)
        predicates := predicates calls ++ c.predicate?.toList
        assignments := calls.flatMap Call.entries ++ c.entries
        removals := calls.flatMap Call.removed ++ c.removed
        deletion := ⟨calls.flatMap Call.deleted ++ c.deleted,
          calls.any Call.detaches || c.detaches⟩ } := by
  rw [contents_snoc, head.after_snoc other mandatory, projection?_snoc_of_none (noColumns _) other,
    projection?_snoc_of_none (noColumns _) other]
  rfl

theorem contents_path (r : Reference) : contents head (calls ++ [.path r]) =
    { contents head calls with path := some r } := by
  rw [contents_snoc_of_slot head rfl rfl fun _ => rfl]
  simp [contents, Call.path?, Call.predicate?, Call.entries, Call.removed, Call.deleted,
    Call.detaches]

theorem contents_join (connective : Connective) (v : Value) :
    contents head (calls ++ [.join connective v]) =
      { contents head calls with predicates := predicates calls ++ [(connective, v)] } := by
  rw [contents_snoc_of_slot head rfl rfl fun _ => rfl]
  simp [contents, Call.path?, Call.predicate?, Call.entries, Call.removed, Call.deleted,
    Call.detaches]

theorem contents_assign (entries : List (Value × Value)) :
    contents head (calls ++ [.assign entries]) =
      { contents head calls with assignments := calls.flatMap Call.entries ++ entries } := by
  rw [contents_snoc_of_slot head rfl rfl fun _ => rfl]
  simp [contents, Call.path?, Call.predicate?, Call.entries, Call.removed, Call.deleted,
    Call.detaches]

theorem contents_remove (properties : List Value) : contents head (calls ++ [.remove properties]) =
    { contents head calls with removals := calls.flatMap Call.removed ++ properties } := by
  rw [contents_snoc_of_slot head rfl rfl fun _ => rfl]
  simp [contents, Call.path?, Call.predicate?, Call.entries, Call.removed, Call.deleted,
    Call.detaches]

theorem contents_delete (references : List Reference) (detach : Bool) :
    contents head (calls ++ [.delete references detach]) =
      { contents head calls with
        deletion := ⟨calls.flatMap Call.deleted ++ references,
          calls.any Call.detaches || detach⟩ } := by
  rw [contents_snoc_of_slot head rfl rfl fun _ => rfl]
  simp [contents, Call.path?, Call.predicate?, Call.entries, Call.removed, Call.deleted,
    Call.detaches]

theorem contents_makeOptional : contents head (calls ++ [.makeOptional]) =
    { contents head calls with head := head.after (calls ++ [.makeOptional]) } := by
  rw [contents_snoc, projection?_snoc_of_none rfl rfl, projection?_snoc_of_none rfl rfl]
  simp [contents, Call.path?, Call.predicate?, Call.entries, Call.removed, Call.deleted,
    Call.detaches]

/-- Columns take the place of those before, and the ordering stays. -/
theorem contents_project (kind : ProjectionKind) (columns : List Column) (distinct : Value) :
    contents head (calls ++ [.project kind columns distinct]) =
      { contents head calls with
        passing := if kind = .passing then
          some ⟨.passing, columns, distinct, orderingOf calls .passing⟩
          else projection? calls .passing
        returning := if kind = .returning then
          some ⟨.returning, columns, distinct, orderingOf calls .returning⟩
          else projection? calls .returning } := by
  have ordering : ∀ kind', orderingOf (calls ++ [.project kind columns distinct]) kind' =
      orderingOf calls kind' := by
    intro kind'
    rw [orderingOf_snoc]
    simp [Call.reorder]
  have projections : ∀ kind', projection? (calls ++ [.project kind columns distinct]) kind' =
      if kind = kind' then some ⟨kind', columns, distinct, orderingOf calls kind'⟩
      else projection? calls kind' := by
    intro kind'
    by_cases eq : kind = kind'
    · have given : Call.columns? kind' (.project kind columns distinct) =
          some (columns, distinct) := if_pos eq
      rw [projection?, columns_snoc_of_some given, ordering, if_pos eq]
      rfl
    · have none : Call.columns? kind' (.project kind columns distinct) = none := if_neg eq
      rw [projection?_snoc_of_none none rfl, if_neg eq]
  rw [contents_snoc, projections, projections, head.after_snoc rfl rfl]
  simp [contents, Call.path?, Call.predicate?, Call.entries, Call.removed, Call.deleted,
    Call.detaches]

section Orders

variable {c : Call} (orders : c.orders = true)
include orders

/-- A further ordering changes the projection that it goes to. -/
theorem projection?_snoc_of_orders (kind : ProjectionKind) :
    projection? (calls ++ [c]) kind = (projection? calls kind).map fun p =>
      if kind = target calls then { p with ordering := c.reorder p.ordering } else p := by
  have none := c.columns?_of_orders orders kind
  rw [projection?, columns_snoc_of_none none, orderingOf_snoc, projection?, Option.map_map]
  congr 1
  funext given
  simp only [Function.comp_apply]
  split <;> rfl

theorem contents_orders : contents head (calls ++ [c]) =
    { contents head calls with
      head := head.after (calls ++ [c])
      passing := projection? (calls ++ [c]) .passing
      returning := projection? (calls ++ [c]) .returning } := by
  cases c with
  | orderBy | skip | limit =>
    rw [contents_snoc]
    simp [contents, Call.path?, Call.predicate?, Call.entries, Call.removed, Call.deleted,
      Call.detaches]
  | _ => cases orders

end Orders

end History

end GraphQuery
