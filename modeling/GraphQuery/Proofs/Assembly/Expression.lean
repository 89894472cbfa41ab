import GraphQuery.Assembly.Expression
import GraphQuery.Proofs.Assembly.Leaf

/-!
Making expressions, columns and sort items in two runs. Literals among the operands are wrapped, so
what is made is the same in both runs.

* `agree_comparison`, `agree_junction`, `agree_call`: expressions.
* `agree_column`, `agree_sortItem`: what a projection takes.
* `agree_rowCount`: row counts, which are parameters of the same handle.
* `agree_conjoined`, `agree_disjoined`: filters.
-/

namespace GraphQuery

open Assembly

variable {R : Value → Value → Prop} {s s' : Store}

theorem stable_operand : Stable (Operand R) := fun _ _ _ _ _ _ grows grows' h => h.mono grows grows'

/-! ### Expressions -/

theorem agree_comparison (like : s.Alike R s') {operator : String}
    (exported : operator ∈ comparisonOperators) {left left' right right' : Value}
    (operand : Operand R s s' left left') (operand' : Operand R s s' right right') :
    Agree R Standing s s' (comparison operator left right) (comparison operator left' right') := by
  refine (agree_expression like operand).bind ?_
  rintro t t' l _ like grows grows' ⟨rfl, -⟩
  refine (agree_expression like (operand'.mono grows grows')).bind ?_
  rintro u u' r _ like - - ⟨rfl, stands⟩
  exact agree_madeStanding like rfl (.expression (.comparison exported stands.isNull_eq))

theorem agree_postCheck (like : s.Alike R s') {operator : String}
    (exported : operator ∈ checkOperators) {v v' : Value} (operand : Operand R s s' v v') :
    Agree R Standing s s' (postCheck operator v) (postCheck operator v') := by
  refine (agree_expression like operand).bind ?_
  rintro t t' v _ like - - ⟨rfl, -⟩
  exact agree_madeStanding like rfl (.expression (.check exported))

theorem agree_negation (like : s.Alike R s') {v v' : Value} (operand : Operand R s s' v v') :
    Agree R Standing s s' (negation v) (negation v') := by
  refine (agree_expression like operand).bind ?_
  rintro t t' v _ like - - ⟨rfl, -⟩
  exact agree_madeStanding like rfl (.expression .negation)

/-- Operands become the same values in turn. -/
theorem agree_operands (like : s.Alike R s') {vs vs' : List Value}
    (operands : List.Forall₂ (Operand R s s') vs vs') :
    Agree R (fun t _ as bs => bs = as ∧ ∀ a ∈ as, t.Stands a) s s' (vs.mapM expression)
      (vs'.mapM expression) := by
  refine (Agree.mapM stable_operand stable_standing (fun like h => agree_expression like h) like
    operands).imp ?_
  intro t t' as bs _ _ _ results
  induction results with
  | nil => exact ⟨rfl, fun _ mem => absurd mem List.not_mem_nil⟩
  | cons first _ ih =>
    refine ⟨congrArg₂ List.cons first.1 ih.1, ?_⟩
    exact List.forall_mem_cons.mpr ⟨first.2, ih.2⟩

theorem agree_call (like : s.Alike R s') {name : String} (exported : name ∈ functionNames)
    {vs vs' : List Value} (operands : List.Forall₂ (Operand R s s') vs vs') :
    Agree R Standing s s' (call (.text name) vs) (call (.text name) vs') := by
  refine (agree_operands like operands).bind ?_
  rintro t t' as _ like - - ⟨rfl, -⟩
  exact agree_madeStanding like rfl (.expression (.call exported))

theorem agree_junction (like : s.Alike R s') {operator : String}
    (exported : operator ∈ junctionOperators) {vs vs' : List Value}
    (operands : List.Forall₂ (Operand R s s') vs vs') :
    Agree R Standing s s' (junction operator vs) (junction operator vs') := by
  cases operands with
  | nil => exact .refused like
  | cons first others =>
    refine (agree_operands like (.cons first others)).bind ?_
    rintro t t' as _ like - - ⟨rfl, stands⟩
    split
    · exact Agree.pure like ⟨rfl, stands _ (List.mem_singleton.mpr rfl)⟩
    · exact agree_madeStanding like rfl (.expression (.junction exported))

/-! ### Columns and sort items -/

theorem agree_columnName (like : s.Alike R s') (v : Value) :
    Agree R Same s s' (columnName v) (columnName v) := by
  have named : Agree R Same s s'
      (do
        let _ ← check fun view => checkIdentifier view "projection alias" v
        return v)
      (do
        let _ ← check fun view => checkIdentifier view "projection alias" v
        return v) :=
    Agree.check like (checkIdentifier_answers _ _ _ v) fun _ _ _ => Agree.pure like rfl
  refine Agree.onReference like named fun r _ => ?_
  obtain ⟨id, stem, is⟩ := r
  cases is with
  | var => exact Agree.pure like rfl
  | _ => exact named

theorem agree_projected (like : s.Alike R s') (v : Value) :
    Agree R Same s s' (projected v) (projected v) := by
  refine Agree.isExpression like (like.stands_iff v) (fun _ => Agree.pure like rfl) fun _ => ?_
  exact .refusedQuoted like

/-- What is found behind a value that is a pair in both runs or in none: nothing, the same pair,
data that is no pair, or like parts of queries. -/
theorem Value.Paired.object?_cases {v : Value} (paired : v.Paired s s') (like : s.Alike R s') :
    (s.object? v = none ∧ s'.object? v = none) ∨
    (∃ a b, s.object? v = some (.tuple [a, b]) ∧ s'.object? v = some (.tuple [a, b])) ∨
    (∃ o o', s.object? v = some o ∧ s'.object? v = some o' ∧ o.isData = true ∧ o'.isData = true ∧
      (∀ a b, o ≠ .tuple [a, b]) ∧ ∀ a b, o' ≠ .tuple [a, b]) ∨
    ∃ o o', s.object? v = some o ∧ s'.object? v = some o' ∧ o.isData = false ∧
      o'.isData = false := by
  rcases like.object?_cases v with absent | ⟨h, o, o', rfl, found, found', alike⟩
  · exact .inl absent
  · right
    cases alike with
    | data isData isData' =>
      by_cases pair : ∃ a b, o = .tuple [a, b]
      · obtain ⟨a, b, rfl⟩ := pair
        exact .inl ⟨a, b, found, (paired.pair_iff a b).mp found⟩
      · refine .inr (.inl ⟨o, o', found, found', isData, isData', ?_, ?_⟩)
        · exact fun a b eq => pair ⟨a, b, eq⟩
        · rintro a b rfl
          have found := found.symm.trans ((paired.pair_iff a b).mpr found')
          exact pair ⟨a, b, Option.some_inj.mp found⟩
    | _ => exact .inr (.inr ⟨_, _, found, found', rfl, rfl⟩)

/-- Data does not stand in queries. -/
theorem Store.not_stands_of_isData {s : Store} {v : Value} {o : Object}
    (found : s.object? v = some o) (isData : o.isData = true) : ¬ s.Stands v := by
  rintro ⟨o', found', compilable⟩
  obtain rfl : o = o' := Option.some_inj.mp (found.symm.trans found')
  rw [Object.isCompilable_of_isData isData] at compilable
  cases compilable

/-- What does not stand in queries is no column. -/
theorem fails_projected {s : Store} (unassigned : s.assignments = []) {v : Value}
    (absent : ¬ s.Stands v) : Fails s (projected v) := by
  obtain ⟨b, eq, iff⟩ := outcome_isExpression unassigned v
  cases b with
  | true => exact absurd (iff.mp rfl) absent
  | false => exact .after_ok eq (.after (reads_quoted v) fun _ => .refuse s _)

/-- Data is no column unless it is a pair. -/
theorem fails_columnOf {s : Store} (unassigned : s.assignments = []) {v : Value} {o : Object}
    (found : s.object? v = some o) (isData : o.isData = true) (noPair : ∀ a b, o ≠ .tuple [a, b])
    (ofPair : Value → Value → Assembly Column) :
    Fails s (match some o with
      | some (.tuple [e, name]) => ofPair e name
      | some (.tuple items) => refuse (.columnPair items.length)
      | _ => do return ⟨← projected v, .null⟩) := by
  have other : Fails s (do return (⟨← projected v, .null⟩ : Column)) :=
    .bind (fails_projected unassigned (Store.not_stands_of_isData found isData)) _
  split
  · rename_i eq
    exact absurd (Option.some_inj.mp eq) (noPair _ _)
  · exact .refuse s _
  · exact other

theorem agree_column (like : s.Alike R s') {v : Value} (paired : v.Paired s s') :
    Agree R Same s s' (column v) (column v) := by
  have other : Agree R Same s s' (do return (⟨← projected v, .null⟩ : Column))
      (do return (⟨← projected v, .null⟩ : Column)) := by
    refine (agree_projected like v).bind ?_
    rintro t t' e _ like - - rfl
    exact Agree.pure like rfl
  unfold column
  by_cases star : isStar v = true
  · rw [if_pos star]
    exact Agree.pure like rfl
  · rw [if_neg star]
    refine Agree.object? ?_
    rcases paired.object?_cases like with ⟨absent, absent'⟩ | ⟨e, name, found, found'⟩ |
      ⟨o, o', found, found', isData, isData', noPair, noPair'⟩ |
      ⟨o, o', found, found', notData, notData'⟩
    · rw [absent, absent']
      exact other
    · rw [found, found']
      refine (agree_projected like e).bind ?_
      rintro t t' _ e like - - rfl
      refine (agree_columnName like name).bind ?_
      rintro t t' _ name like - - rfl
      exact Agree.pure like rfl
    · rw [found, found']
      exact .of_fails like (fails_columnOf like.unassigned found isData noPair _)
        (fails_columnOf like.unassigned' found' isData' noPair' _)
    · rw [found, found']
      cases o <;> cases notData <;> cases o' <;> cases notData' <;> exact other

theorem agree_columns (like : s.Alike R s') {vs : List Value} (paired : ∀ v ∈ vs, v.Paired s s') :
    Agree R Same s s' (columns vs) (columns vs) := by
  refine (Agree.mapM_same (A := fun s s' v => v.Paired s s') (fun grows grows' h =>
    h.mono grows grows') (fun like h => agree_column like h) like paired).bind ?_
  rintro t t' _ columns like - - rfl
  split
  · exact .refused like
  · exact Agree.pure like rfl

theorem agree_someColumns (like : s.Alike R s') (kind : ProjectionKind) {vs : List Value}
    (paired : ∀ v ∈ vs, v.Paired s s') :
    Agree R Same s s' (someColumns kind vs) (someColumns kind vs) := by
  unfold someColumns
  split
  · exact .refused like
  · exact agree_columns like paired

/-- An order that reads the same in both runs is the same order. -/
theorem agree_sortOrder (like : s.Alike R s') {v : Value}
    (plain_eq : v.plain s.view = v.plain s'.view) :
    Agree R (fun t t' a b => t = s ∧ t' = s' ∧ b = a ∧ a ∈ sortOrders) s s' (sortOrder v)
      (sortOrder v) := by
  have read : Answers Eq (v.plain s.view) (v.plain s'.view) := by
    rw [plain_eq]
    cases v.plain s'.view with
    | ok text => exact .ok rfl
    | error f => exact .error
  refine Agree.check like read ?_
  rintro text _ rfl
  dsimp only
  split
  · rename_i order
    exact Agree.pure like ⟨rfl, rfl, rfl, by simpa [sortOrders] using order⟩
  · exact .refusedQuoted like

/-- A sort item in the making: its expression and its order. -/
def sortItemOf (e : Value) (order : String) : Assembly SortItem := do
  if ← isExpression e then return ⟨e, .text order⟩
  refuse (.sortItem (← quoted e))

theorem agree_sortItemOf (like : s.Alike R s') (e : Value) {order : String}
    (exported : order ∈ sortOrders) :
    Agree R (fun t t' a b => t = s ∧ t' = s' ∧ b = a ∧ a.Exported) s s' (sortItemOf e order)
      (sortItemOf e order) := by
  refine Agree.isExpression like (like.stands_iff e) (fun _ => ?_) fun _ => ?_
  · exact Agree.pure like ⟨rfl, rfl, rfl, .made exported⟩
  · exact .refusedQuoted like

/-- Data is no sort item unless it is a pair. -/
theorem fails_sortItem {s : Store} (unassigned : s.assignments = []) {v : Value} {o : Object}
    (found : s.object? v = some o) (isData : o.isData = true)
    (noPair : ∀ a b, o ≠ .tuple [a, b]) : Fails s (sortItem v) := by
  have read : outcome (object? v).run s = (.ok (some o), s) := by
    rw [← found]
    rfl
  refine .after_ok read ?_
  split
  · rename_i eq
    exact absurd (Option.some_inj.mp eq) (noPair _ _)
  · exact .bind (.refuse s _) _
  · refine .after_ok (a := (v, SortItem.ascending)) rfl ?_
    obtain ⟨b, eq, iff⟩ := outcome_isExpression unassigned v
    cases b with
    | true => exact absurd (iff.mp rfl) (Store.not_stands_of_isData found isData)
    | false => exact .after_ok eq (.after (reads_quoted v) fun _ => .refuse s _)

theorem agree_sortItem (like : s.Alike R s') {v : Value} (sorting : v.Sorting s s') :
    Agree R (fun t t' a b => t = s ∧ t' = s' ∧ b = a ∧ a.Exported) s s' (sortItem v)
      (sortItem v) := by
  have ascending : SortItem.ascending ∈ sortOrders := by decide
  rcases sorting.object?_cases like with ⟨absent, absent'⟩ | ⟨e, order, found, found'⟩ |
    ⟨o, o', found, found', isData, isData', noPair, noPair'⟩ |
    ⟨o, o', found, found', notData, notData'⟩
  · refine Agree.object? ?_
    rw [absent, absent']
    exact agree_sortItemOf like v ascending
  · refine Agree.object? ?_
    rw [found, found']
    refine (agree_sortOrder like (sorting.plain_eq e order found)).bind ?_
    rintro t t' _ order - - - ⟨rfl, rfl, rfl, exported⟩
    exact agree_sortItemOf like e exported
  · exact .of_fails like (fails_sortItem like.unassigned found isData noPair)
      (fails_sortItem like.unassigned' found' isData' noPair')
  · refine Agree.object? ?_
    rw [found, found']
    cases o <;> cases notData <;> cases o' <;> cases notData' <;>
      exact agree_sortItemOf like v ascending

/-! ### Row counts -/

/-- Arguments that are row counts: natural numbers in the places of each other, or one value that is
none. -/
inductive RowCount (R : Value → Value → Prop) : Value → Value → Prop where
  | literal {i j mark mark' : Nat} :
      R (.atom (.int (.ofNat i)) mark) (.atom (.int (.ofNat j)) mark') →
      RowCount R (.atom (.int (.ofNat i)) mark) (.atom (.int (.ofNat j)) mark')
  | other {v : Value} : (∀ i mark, v ≠ .atom (.int (.ofNat i)) mark) → RowCount R v v

/-- A row count that is related to itself stands in the place of itself. -/
theorem RowCount.same {v : Value} (related : R v v) : RowCount R v v := by
  rcases v with ⟨a, mark⟩ | h
  · rcases a with _ | _ | (i | i) | _ | _ | _ | _
    case int.ofNat => exact .literal related
    all_goals exact .other fun i mark eq => by cases eq
  · exact .other fun i mark eq => by cases eq

theorem agree_rowCount (like : s.Alike R s') (role : String) {v v' : Value}
    (count : RowCount R v v') :
    Agree R Param.Alike s s' (rowCount role v) (rowCount role v') := by
  refine Agree.param? ?_
  cases count with
  | literal related => exact agree_wrap like related
  | other none =>
    rcases like.param?_cases v with ⟨absent, absent'⟩ | ⟨p, p', rfl, found, found', alike⟩
    · rw [absent, absent']
      split
      · rename_i eq
        cases eq
      · exact absurd rfl (none _ _)
      · exact .refusedQuoted like
    · rw [found, found']
      exact Agree.pure like alike

/-! ### Filters -/

theorem agree_conjoined (like : s.Alike R s') {current : Option Value}
    (standing : ∀ v, current = some v → s.Stands v) {predicate : Value}
    (stands : s.Stands predicate) :
    Agree R Standing s s' (conjoined current predicate) (conjoined current predicate) := by
  cases current with
  | none => exact Agree.pure like ⟨rfl, stands⟩
  | some v =>
    have joined : Agree R Standing s s' (junction "AND" [v, predicate])
        (junction "AND" [v, predicate]) :=
      agree_junction like (by decide)
        (.cons (.standing (standing v rfl)) (.cons (.standing stands) .nil))
    refine Agree.onObject like joined fun o o' _ _ alike => ?_
    cases alike with
    | expression exported =>
      cases exported with
      | junction _ =>
        dsimp only
        split
        · refine (Agree.pure (P := Same) like rfl).bind ?_
          rintro t t' _ operands like - - rfl
          exact agree_madeStanding like rfl (.expression (.junction (by decide)))
        · exact joined
      | _ => exact joined
    | data isData isData' =>
      cases o <;> cases isData <;> cases o' <;> cases isData' <;> exact joined
    | _ => exact joined

theorem agree_disjoined (like : s.Alike R s') {current : Option Value}
    (standing : ∀ v, current = some v → s.Stands v) {predicate : Value}
    (stands : s.Stands predicate) :
    Agree R Standing s s' (disjoined current predicate) (disjoined current predicate) := by
  cases current with
  | none => exact Agree.pure like ⟨rfl, stands⟩
  | some v =>
    exact agree_junction like (by decide)
      (.cons (.standing (standing v rfl)) (.cons (.standing stands) .nil))

end GraphQuery
