import GraphQuery.Proofs.Assembly.Layering

/-!
What a builder makes its object of.

A builder call on a clause, `then` on a statement and `all` on a union change one object. It is made
of what it was made of before, of what it is handed, and of what is new. Everything else stays as it
is, whether or not the call succeeds.

* `Construction.handed`: the values that a call hands to the object that it changes.
* `Store.Changes`: a store with further objects in which one object has changed.
* `Store.Assembled.changes`: what a call does to a store.
* `Store.Assembled.isComplete`: whatever is assembled is made of objects that are there.
-/

namespace GraphQuery

open Assembly Relation

/-! ### What is handed over -/

/-- The values that a pair holds. What is no pair is a single value. -/
def Store.unpacked (s : Store) (v : Value) : List Value :=
  match s.object? v with
  | some (.tuple items) => items
  | _ => [v]

/-- The values that a builder hands to its clause. Paths, references and row counts are no parts of
it. -/
def Builder.handed (s : Store) : Builder → List Value
  | restrict v | relax v => [v]
  | remove vs => vs
  | assign vs | project _ vs _ | orderBy vs => vs.flatMap s.unpacked
  | path _ | delete .. | skip _ | limit _ | makeOptional => []

/-- The values that a call hands to the object that it changes. -/
def Construction.handed (s : Store) : Construction → List Value
  | build _ b => b.handed s
  | append _ v => [v]
  | _ => []

/-- What an object can be made of after a call: of what is in it, of what it is handed, and of what
is new. -/
def Store.Sources (s : Store) (h : Nat) (handed : List Value) (g : Nat) : Prop :=
  TransGen s.Contains h g ∨ .object g ∈ handed ∨ s.next ≤ g

/-! ### The parts of a clause -/

namespace Clause

/-- What changes nothing but a slot, or nothing at all. -/
theorem mem_parts_onSlot {c : Clause} {slot : Slot} {change : Clause → Built} {P : Value → Prop}
    (changed : ∀ v ∈ (change c).clause.parts, v ∈ c.parts ∨ P v) :
    ∀ v ∈ (c.onSlot slot change).clause.parts, v ∈ c.parts ∨ P v := by
  unfold onSlot
  split
  · exact changed
  · exact fun v mem => .inl mem

theorem mem_parts_filterBy (c : Clause) (predicate : Except Fault Value) :
    ∀ v ∈ (c.filterBy predicate).clause.parts, v ∈ c.parts ∨ predicate = .ok v := by
  refine mem_parts_onSlot fun v mem => ?_
  cases predicate with
  | error f => exact .inl mem
  | ok w =>
    simp only [parts, List.mem_append, Option.toList_some, List.mem_singleton, Option.mem_toList]
      at mem ⊢
    grind

theorem mem_parts_assign (c : Clause) (entries : List (Value × Value)) (fault? : Option Fault) :
    ∀ v ∈ (c.assign entries fault?).clause.parts,
      v ∈ c.parts ∨ ∃ e ∈ entries, v = e.1 ∨ v = e.2 := by
  refine mem_parts_onSlot fun v mem => ?_
  simp only [parts, List.mem_append, Option.getD_some, List.flatMap_append, List.mem_flatMap]
    at mem ⊢
  grind

theorem mem_parts_removeProperties (c : Clause) (ps : List Value) (fault? : Option Fault) :
    ∀ v ∈ (c.removeProperties ps fault?).clause.parts, v ∈ c.parts ∨ v ∈ ps := by
  refine mem_parts_onSlot fun v mem => ?_
  simp only [parts, List.mem_append, Option.getD_some] at mem ⊢
  grind

/-- A projection of other columns keeps what it sorts by. -/
theorem mem_parts_project (c : Clause) (kind : ProjectionKind)
    (columns : Except Fault (List Column)) (distinct : Value) :
    ∀ v ∈ (c.project kind columns distinct).clause.parts,
      v ∈ c.parts ∨ ∃ cs, columns = .ok cs ∧ v ∈ cs.map Column.expression := by
  refine mem_parts_onSlot fun v mem => ?_
  cases columns with
  | error f => exact .inl mem
  | ok cs =>
    have trailing : ∀ v ∈ (c.projection? kind).elim [] Projection.parts, v ∈ c.parts := by
      intro v mem
      cases kind <;> simp only [projection?, parts, List.mem_append] at mem ⊢ <;> grind
    have replaced : ∀ v ∈ (Projection.replace ((c.projection? kind).getD
        ⟨kind, [], .bool false, .unordered⟩) cs distinct).parts,
        v ∈ c.parts ∨ v ∈ cs.map Column.expression := by
      intro v mem
      rcases List.mem_append.mp mem with mem | mem
      · exact .inr mem
      · refine .inl (trailing v ?_)
        cases found : c.projection? kind with
        | none =>
          rw [found] at mem
          cases mem
        | some p =>
          rw [found] at mem
          exact List.mem_append_right _ mem
    dsimp only [withProjection] at mem
    split at mem
    all_goals
      simp only [parts, Option.elim_some, List.mem_append] at mem replaced ⊢
      grind

theorem mem_parts_onOrdering (c : Clause) {f : Ordering → Ordering} {P : Value → Prop}
    (ordered : ∀ o : Ordering, ∀ i ∈ (f o).sortItems, i ∈ o.sortItems ∨ P i.expression)
    (fault? : Option Fault) :
    ∀ v ∈ (c.onOrdering f fault?).clause.parts, v ∈ c.parts ∨ P v := by
  have projection : ∀ p : Projection, ∀ v ∈ Projection.parts { p with ordering := f p.ordering },
      v ∈ p.parts ∨ P v := by
    intro p v mem
    simp only [Projection.parts, List.mem_append, List.mem_map] at mem ⊢
    grind
  unfold onOrdering
  cases eq : c.mapOrdering? f with
  | none => exact fun v mem => .inl mem
  | some c' =>
    intro v mem
    rcases c.mapOrdering?_cases eq with ⟨p, head, rfl⟩ | ⟨p, found, rfl⟩ | ⟨p, found, rfl⟩
    all_goals
      simp only [parts, Head.parts, Option.elim_some, List.mem_append] at mem ⊢
      grind

theorem mem_parts_orderBy (c : Clause) (items : List SortItem) (fault? : Option Fault) :
    ∀ v ∈ (c.orderBy items fault?).clause.parts, v ∈ c.parts ∨ ∃ i ∈ items, v = i.expression := by
  have given : ∀ i ∈ items, ∃ j ∈ items, i.expression = j.expression := fun i mem => ⟨i, mem, rfl⟩
  refine c.mem_parts_onOrdering (fun o i mem => ?_) fault?
  exact (List.mem_append.mp mem).imp id (given i)

/-- What leaves the sort items alone brings nothing new. -/
theorem mem_parts_onCounts (c : Clause) {f : Ordering → Ordering}
    (sorted : ∀ o, (f o).sortItems = o.sortItems) (fault? : Option Fault) :
    ∀ v ∈ (c.onOrdering f fault?).clause.parts, v ∈ c.parts := by
  intro v mem
  have same := c.mem_parts_onOrdering (P := fun _ => False)
    (fun o i mem => .inl (sorted o ▸ mem)) fault?
  exact (same v mem).resolve_right id

theorem mem_parts_skip (c : Clause) (count : Except Fault Param) :
    ∀ v ∈ (c.skip count).clause.parts, v ∈ c.parts := by
  cases count with
  | ok p => exact c.mem_parts_onCounts (f := fun o => { o with skip := some p }) (fun _ => rfl) _
  | error f => exact c.mem_parts_onCounts (f := id) (fun _ => rfl) _

theorem mem_parts_limit (c : Clause) (count : Except Fault Param) :
    ∀ v ∈ (c.limit count).clause.parts, v ∈ c.parts := by
  cases count with
  | ok p => exact c.mem_parts_onCounts (f := fun o => { o with limit := some p }) (fun _ => rfl) _
  | error f => exact c.mem_parts_onCounts (f := id) (fun _ => rfl) _

theorem parts_makeOptional? {c c' : Clause} (eq : c.makeOptional? = some c') :
    c'.parts = c.parts := by
  unfold makeOptional? at eq
  split at eq
  · rename_i optionalClass isOptional patterns head
    cases eq
    simp only [parts, Head.parts, head, Head.patterns]
  · cases eq

theorem parts_bindPath (c : Clause) (path : Except Fault Reference) :
    (c.bindPath path).clause.parts = c.parts := by
  unfold bindPath onSlot
  split
  · rfl
  · split
    · cases path <;> rfl
    · rfl

theorem parts_delete (c : Clause) (references : List Reference) (detach : Bool)
    (fault? : Option Fault) : (c.delete references detach fault?).clause.parts = c.parts := by
  unfold delete onSlot
  split <;> rfl

end Clause

/-! ### Arguments -/

variable {given : Nat → Prop} {s t : Store}

namespace Store

theorem unpacked_of_tuple {v : Value} {items : List Value}
    (found : s.object? v = some (.tuple items)) : s.unpacked v = items := by
  rw [unpacked, found]

theorem unpacked_of_other {v : Value} (noTuple : ∀ items, s.object? v ≠ some (.tuple items)) :
    s.unpacked v = [v] := by
  unfold unpacked
  split
  · exact absurd ‹_› (noTuple _)
  · rfl

/-- A known value holds the same values later. -/
theorem unpacked_eq {v : Value} (known : s.Knows v) (grows : s.Grows t) :
    t.unpacked v = s.unpacked v := by
  by_cases isTuple : ∃ items, s.object? v = some (.tuple items)
  · obtain ⟨items, found⟩ := isTuple
    rw [unpacked_of_tuple found, unpacked_of_tuple (grows.object?_eq found)]
  · have noTuple : ∀ items, s.object? v ≠ some (.tuple items) := fun items eq => isTuple ⟨items, eq⟩
    rw [unpacked_of_other noTuple, unpacked_of_other fun items eq =>
      noTuple items ((known.object?_iff grows).mp eq)]

/-- What a known value hands over is among given objects, and so is all that is new. -/
structure Offers (given : Nat → Prop) (s : Store) (v : Value) : Prop where
  known : s.Knows v
  unpacked : ∀ w ∈ s.unpacked v, w.IsOf given
  new : ∀ g, s.next ≤ g → given g

end Store

theorem lasting_offers : Lasting (Store.Offers given) := by
  intro s t v grows offers
  refine ⟨offers.known.mono grows, ?_, fun g le => ?_⟩
  · rw [Store.unpacked_eq offers.known grows]
    exact offers.unpacked
  · exact offers.new g (Nat.le_trans (Store.Grows.next_le grows) le)

section Arguments

variable (typed : s.Typed False) {v : Value}
include typed

theorem yields_givenAssignment (offers : s.Offers given v) :
    Yields False (fun _ e => e.1.IsOf given ∧ e.2.IsOf given) s (assignment v) := by
  refine .object? ?_
  split
  · rename_i target value found
    have inside := offers.unpacked
    rw [Store.unpacked_of_tuple found, List.forall_mem_cons, List.forall_mem_singleton] at inside
    refine .object? ?_
    split
    · exact (yields_givenOperand typed offers.new inside.2).bind fun typed _ operand =>
        .ok typed ⟨inside.1, operand.2⟩
    · exact .refuseTyped typed _ _
  · exact .refuseQuoted typed v _

theorem yields_givenRemoval (isOf : v.IsOf given) :
    Yields False (fun _ w => w.IsOf given) s (removal v) := by
  refine .object? ?_
  split
  · exact .ok typed isOf
  · exact .refuseTyped typed v _

theorem yields_givenProjected (isOf : v.IsOf given) :
    Yields False (fun _ w => w.IsOf given) s (projected v) := by
  refine .isExpression typed (fun _ => ?_) ?_
  · exact .ok typed isOf
  · exact .refuseQuoted typed v _

theorem yields_givenColumn (offers : s.Offers given v) :
    Yields False (fun _ c => c.expression.IsOf given) s (column v) := by
  unfold column
  split
  · exact .ok typed (by rintro g ⟨⟩)
  · refine .object? ?_
    split
    · rename_i e name found
      have inside := offers.unpacked
      rw [Store.unpacked_of_tuple found, List.forall_mem_cons] at inside
      refine (yields_givenProjected typed inside.1).bind fun typed _ isOf => ?_
      exact (yields_columnName typed name).bind fun typed _ _ => .ok typed isOf
    · exact .refuse typed _
    · rename_i noPair noTuple
      have inside := offers.unpacked
      rw [Store.unpacked_of_other noTuple, List.forall_mem_singleton] at inside
      exact (yields_givenProjected typed inside).bind fun typed _ isOf => .ok typed isOf

theorem yields_givenColumns (kind : ProjectionKind) {vs : List Value}
    (offers : ∀ v ∈ vs, s.Offers given v) :
    Yields False (fun _ cs => ∀ c ∈ cs, c.expression.IsOf given) s (someColumns kind vs) := by
  have columns : Yields False (fun _ cs => ∀ c ∈ cs, c.expression.IsOf given) s (columns vs) := by
    refine (Yields.mapM lasting_offers (Q := fun _ (c : Column) => c.expression.IsOf given)
      (fun _ _ _ _ h => h) (fun typed h => yields_givenColumn typed h) typed offers).bind ?_
    rintro t cs typed - ⟨-, each⟩
    split
    · exact .stopped typed _ _
    · exact .ok typed each
  unfold someColumns
  split
  · exact .stopped typed _ _
  · exact columns

theorem yields_givenSortItem (offers : s.Offers given v) :
    Yields False (fun _ i => i.expression.IsOf given) s (sortItem v) := by
  have ordered : ∀ {t : Store} {e : Value} (order : String), t.Typed False → e.IsOf given →
      Yields False (fun _ i => i.expression.IsOf given) t (sortItemOf e order) := by
    intro t e order typed isOf
    refine .isExpression typed (fun _ => ?_) ?_
    · exact .ok typed isOf
    · exact .refuseQuoted typed e _
  refine .object? ?_
  dsimp only
  split
  · rename_i e order found
    have inside := offers.unpacked
    rw [Store.unpacked_of_tuple found, List.forall_mem_cons] at inside
    exact (yields_sortOrder typed _).bind fun typed _ _ => ordered _ typed inside.1
  · exact .stopped typed _ _
  · rename_i noPair noTuple
    have inside := offers.unpacked
    rw [Store.unpacked_of_other noTuple, List.forall_mem_singleton] at inside
    exact ordered _ typed inside

end Arguments

/-! ### Builders -/

section Builders

variable (typed : s.Typed False) (new : ∀ g, s.next ≤ g → given g) {c : Clause}
  (clause : c.Typed s) (parts : ∀ v ∈ c.parts, v.IsOf given)
include typed new parts

/-- A predicate is joined to the filter of a clause, which is made of given objects. -/
theorem supplies_filter {join : Option Value → Value → Assembly Value}
    (joins : ∀ {t : Store} {w : Value}, t.Typed False → s.Grows t → t.Stands w → w.IsOf given →
      Supplies given t (join c.filter w)) {v : Value} (isOf : v.IsOf given) :
    let m : Assembly Value := do join c.filter (← expression v)
    Layers given s m.run ∧ ∀ w ∈ (c.filterBy (outcome m.run s).1).clause.parts, w.IsOf given := by
  intro m
  have supplies : Supplies given s m :=
    .taking (furnishes_expression v) (yields_givenOperand typed new isOf)
      fun typed grows operand => joins typed grows operand.1 operand.2
  refine ⟨supplies.layers, fun w mem => ?_⟩
  rcases c.mem_parts_filterBy _ w mem with before | joined
  · exact parts w before
  · exact (supplies.yields.result w joined).2

include clause in
/-- What a builder adds is made of given objects, and so is what it makes of its clause. -/
theorem supplies_build {b : Builder}
    (inside : ∀ v e, c.filter = some v → s.object? v = some (.expression e) →
      ∀ w ∈ e.parts, w.IsOf given)
    (known : ∀ v ∈ b.arguments, s.Knows v) (handed : ∀ v ∈ b.handed s, v.IsOf given) :
    Layers given s (build c b) ∧
      ∀ w ∈ (outcome (build c b) s).1.clause.parts, w.IsOf given := by
  have filter : ∀ v, c.filter = some v → v ∈ c.parts := fun v => c.mem_parts_of_filter
  have offers : ∀ vs : List Value, (∀ v ∈ vs, s.Knows v) →
      (∀ v ∈ vs.flatMap s.unpacked, v.IsOf given) → ∀ v ∈ vs, s.Offers given v :=
    fun vs known handed v mem => ⟨known v mem, fun w inside =>
      handed w (List.mem_flatMap.mpr ⟨v, mem, inside⟩), new⟩
  cases b with
  | path v =>
    refine ⟨.map (.of_furnishes (furnishes_path v)) _, ?_⟩
    exact (c.parts_bindPath _).symm ▸ parts
  | restrict v =>
    refine supplies_filter typed new parts (fun typed grows stands isOf => ?_)
      (handed v List.mem_cons_self)
    refine supplies_conjoined typed (fun g le => new g (Nat.le_trans grows.next_le le)) stands isOf
      fun w eq => ⟨parts w (filter w eq), fun e found => inside w e eq ?_⟩
    exact ((clause.filter w eq).knows.object?_iff grows).mp found
  | relax v =>
    refine supplies_filter typed new parts (fun typed grows stands isOf => ?_)
      (handed v List.mem_cons_self)
    exact supplies_disjoined typed (fun g le => new g (Nat.le_trans grows.next_le le)) stands isOf
      fun w eq => parts w (filter w eq)
  | assign vs =>
    have entries := (Leaves.whilePassingOf lasting_offers
      (Q := fun _ (e : Value × Value) => e.1.IsOf given ∧ e.2.IsOf given) (fun _ _ _ _ h => h)
      (fun typed h => yields_givenAssignment typed h) typed (offers vs known handed)).result
    refine ⟨.map (.of_furnishes (.whilePassing furnishes_assignment vs)) _, fun w mem => ?_⟩
    rcases c.mem_parts_assign _ _ w mem with before | ⟨e, entry, rfl | rfl⟩
    · exact parts w before
    · exact (entries e entry).1
    · exact (entries e entry).2
  | remove vs =>
    have properties := (Leaves.whilePassingOf (A := fun _ v => v.IsOf given)
      (Q := fun _ (w : Value) => w.IsOf given) (fun _ _ _ _ h => h) (fun _ _ _ _ h => h)
      (fun typed h => yields_givenRemoval typed h) typed handed).result
    refine ⟨.map (.of_furnishes (.whilePassing furnishes_removal vs)) _, fun w mem => ?_⟩
    rcases c.mem_parts_removeProperties _ _ w mem with before | property
    · exact parts w before
    · exact properties w property
  | delete vs detach =>
    refine ⟨.map (.of_furnishes (.whilePassing furnishes_deletion vs)) _, ?_⟩
    exact (c.parts_delete _ _ _).symm ▸ parts
  | project kind vs distinct =>
    have columns := (yields_givenColumns typed kind (offers vs
      (fun v mem => known v (List.mem_cons_of_mem _ mem)) handed)).result
    refine ⟨.map (.of_furnishes (furnishes_someColumns kind vs)) _, fun w mem => ?_⟩
    rcases c.mem_parts_project _ _ _ w mem with before | ⟨cs, ok, mem⟩
    · exact parts w before
    · obtain ⟨column, listed, rfl⟩ := List.mem_map.mp mem
      exact columns cs ok column listed
  | orderBy vs =>
    have items := (Leaves.whilePassingOf lasting_offers
      (Q := fun _ (i : SortItem) => i.expression.IsOf given) (fun _ _ _ _ h => h)
      (fun typed h => yields_givenSortItem typed h) typed (offers vs known handed)).result
    refine ⟨.map (.of_furnishes (.whilePassing furnishes_sortItem vs)) _, fun w mem => ?_⟩
    rcases c.mem_parts_orderBy _ _ w mem with before | ⟨i, item, rfl⟩
    · exact parts w before
    · exact items i item
  | skip v =>
    refine ⟨.map (.of_furnishes (furnishes_rowCount _ v)) _, fun w mem => ?_⟩
    exact parts w (c.mem_parts_skip _ w mem)
  | limit v =>
    refine ⟨.map (.of_furnishes (furnishes_rowCount _ v)) _, fun w mem => ?_⟩
    exact parts w (c.mem_parts_limit _ w mem)
  | makeOptional =>
    refine ⟨.of_furnishes (.pure _), ?_⟩
    unfold build
    cases eq : c.makeOptional? with
    | none => exact parts
    | some c' => exact (Clause.parts_makeOptional? eq).symm ▸ parts

end Builders

/-! ### What calls do to a store -/

/-- A store has got further objects that are made of given ones. The object of a handle may have
been changed into one that is made of given ones as well. -/
inductive Store.Changes (given : Nat → Prop) (h : Nat) (s : Store) : Store → Prop where
  | added {t : Store} : s.Adds (Object.IsMadeOf given) t → Changes given h s t
  | replaced {t : Store} {o o' : Object} : s.Adds (Object.IsMadeOf given) t →
      s.get? h = some o → o.Becomes o' → (∀ v ∈ o'.parts, t.Knows v ∧ v.IsOf given) →
      Changes given h s (t.replace h o')

namespace Store.Changes

variable {h : Nat}

theorem refl (s : Store) : s.Changes given h s := .added (.refl s)

theorem grows (changes : s.Changes given h t) : s.Grows t := by
  cases changes with
  | added adds => exact adds.grows
  | replaced adds found becomes _ => exact adds.grows.trans (.replace (adds.kept found) becomes)

/-- All other objects stay as they are. -/
theorem get?_eq (changes : s.Changes given h t) {i : Nat} (lt : i < s.next) (other : i ≠ h) :
    t.get? i = s.get? i := by
  cases changes with
  | added adds => exact adds.get?_eq lt
  | replaced adds _ _ _ => rw [get?_replace_of_ne _ (Ne.symm other), adds.get?_eq lt]

/-- What is in a new object is older, and it is given. -/
theorem of_new (changes : s.Changes given h t) {i g : Nat} (le : s.next ≤ i)
    (contains : t.Contains i g) : g < i ∧ given g := by
  obtain ⟨o, found, part⟩ := contains
  cases changes with
  | added adds => exact adds.added le found g part
  | @replaced _ o _ adds found' _ _ =>
    have ne : h ≠ i := fun eq => Nat.not_lt.mpr le (eq ▸ lt_of_get? found')
    rw [get?_replace_of_ne _ ne] at found
    exact adds.added le found g part

/-- What is in the object that may have changed was in it before, or is given. -/
theorem of_changed (changes : s.Changes given h t) (lt : h < s.next) {g : Nat}
    (contains : t.Contains h g) : s.Contains h g ∨ given g := by
  obtain ⟨o, found, part⟩ := contains
  cases changes with
  | added adds => exact .inl ⟨o, adds.get?_eq lt ▸ found, part⟩
  | replaced adds found' _ parts =>
    rw [get?_replace_self (Nat.lt_of_lt_of_le lt adds.next_le)] at found
    cases found
    exact .inr ((parts _ part).2 g rfl)

/-- A store stays complete. -/
theorem isComplete (changes : s.Changes given h t) (complete : s.IsComplete) : t.IsComplete := by
  cases changes with
  | added adds => exact (adds.imp fun _ _ made => made.isMadeBefore).isComplete complete
  | @replaced u _ o' adds found _ parts =>
    have before : u.IsComplete :=
      (adds.imp fun _ _ made => made.isMadeBefore).isComplete complete
    intro i o there g part
    rw [next_replace]
    by_cases eq : h = i
    · subst eq
      rw [get?_replace_self (lt_of_get? (adds.kept found))] at there
      cases there
      exact (parts _ part).1.lt
    · rw [get?_replace_of_ne _ eq] at there
      exact before there g part

end Store.Changes

/-! ### Calls that change something -/

/-- A query is accepted as a node of a statement. -/
theorem outcome_compilable {g : Nat} (query : s.IsQuery g) :
    outcome (compilable (.object g)).run s = (.ok g, s) := by
  obtain ⟨o, found, isQuery⟩ := query
  refine (outcome_object? (s := s) (.object g) fun o? =>
    if o?.any Object.isQuery then handle (.object g)
    else do refuse (.notCompilable (← typeName (.object g)))).trans ?_
  rw [if_pos]
  · rfl
  · rw [Store.object?, found]
    exact isQuery

/-- Nothing else is. -/
theorem fails_compilable {v : Value} (absent : ∀ g, v = .object g → ¬ s.IsQuery g) :
    Fails s (compilable v) := by
  refine ⟨.refused (.notCompilable (v.typeName s.view)), (outcome_object? (s := s) v fun o? =>
    if o?.any Object.isQuery then handle v else do refuse (.notCompilable (← typeName v))).trans ?_⟩
  rw [if_neg]
  · rfl
  · intro isQuery
    obtain ⟨o, found, query⟩ := (Option.any_eq_true _ _).mp isQuery
    cases v with
    | atom a mark => cases found
    | object g => exact absent g rfl ⟨o, found, query⟩

/-- A statement takes a query to its end. -/
theorem outcome_append (unassigned : s.assignments = []) {h : Nat} {nodes : List Nat}
    (found : s.get? h = some (.statement nodes)) (v : Value) :
    outcome (append h v).run s = outcome (compilable v >>= fun g => do
      modify fun s => s.replace h (.statement (nodes ++ [g]))
      return .object h : Assembly Value).run s := by
  refine (outcome_get _ s).trans ?_
  rw [Store.isLacking_eq_false unassigned]
  refine (outcome_get _ s).trans ?_
  refine (outcome_get _ s).trans ?_
  rw [found, Store.standIn?_eq_none unassigned]

/-- What is no statement takes nothing. -/
theorem fails_append (unassigned : s.assignments = []) {h : Nat}
    (absent : ∀ nodes, s.get? h ≠ some (.statement nodes)) (v : Value) : Fails s (append h v) := by
  refine ⟨.missing, (outcome_get _ s).trans ?_⟩
  rw [Store.isLacking_eq_false unassigned]
  refine (outcome_get _ s).trans ?_
  refine (outcome_get _ s).trans ?_
  rw [Store.standIn?_eq_none unassigned]
  split
  · cases ‹none = some _›
  · exact absurd ‹_› (absent _)
  · rfl

/-- A union is told whether it keeps duplicates. -/
theorem outcome_keepDuplicates {h : Nat} {branches : List Nat} {before : Value}
    (found : s.get? h = some (.union branches before)) (all : Value) :
    outcome (keepDuplicates h all).run s =
      (.ok (.object h), s.replace h (.union branches all)) := by
  refine (outcome_get _ s).trans ?_
  rw [found]
  rfl

section Changing

variable (typed : s.Typed False) {h : Nat}
include typed

theorem changes_buildOn {b : Builder} (known : ∀ v ∈ b.arguments, s.Knows v) :
    s.Changes (s.Sources h (b.handed s)) h (outcome (buildOn h b).run s).2 := by
  by_cases isClause : ∃ c, s.get? h = some (.clause c)
  · obtain ⟨c, found⟩ := isClause
    have clause : c.Typed s := typed.objects found
    have part : ∀ g, .object g ∈ c.parts → s.Contains h g := fun g mem => ⟨_, found, mem⟩
    have inside : ∀ v e, c.filter = some v → s.object? v = some (.expression e) →
        ∀ w ∈ e.parts, w.IsOf (s.Sources h (b.handed s)) := by
      rintro v e filter behind _ mem g rfl
      cases v with
      | atom a mark => cases behind
      | object i =>
        have filtered : s.Contains h i := part i (c.mem_parts_of_filter filter)
        exact .inl (.tail (.single filtered) ⟨_, behind, mem⟩)
    obtain ⟨layers, isOf⟩ := supplies_build typed (fun g le => .inr (.inr le)) clause
      (fun v mem g eq => .inl (.single (part g (eq ▸ mem)))) inside known
      (fun v mem g eq => .inr (.inl (eq ▸ mem)))
    rw [outcome_buildOn typed.unassigned found b]
    refine .replaced layers found .clause fun v part => ⟨?_, isOf v part⟩
    exact (leaves_build typed clause b).result.knows v part
  · obtain ⟨fault, eq⟩ := fails_buildOn (fun c eq => isClause ⟨c, eq⟩) b
    rw [eq]
    exact .refl s

theorem changes_append (v : Value) :
    s.Changes (s.Sources h [v]) h (outcome (append h v).run s).2 := by
  by_cases isStatement : ∃ nodes, s.get? h = some (.statement nodes)
  · obtain ⟨nodes, found⟩ := isStatement
    rw [outcome_append typed.unassigned found]
    by_cases isQuery : ∃ g, v = .object g ∧ s.IsQuery g
    · obtain ⟨g, rfl, query⟩ := isQuery
      rw [outcome_bind_of_ok (outcome_compilable query)]
      have queries : ∀ i ∈ nodes, s.IsQuery i := typed.objects found
      refine .replaced (.refl s) found .statement (List.forall_mem_map.mpr ?_)
      refine List.forall_mem_append.mpr ⟨fun i mem => ⟨(queries i mem).stands.knows, ?_⟩, ?_⟩
      · rintro _ ⟨⟩
        exact .inl (.single ⟨_, found, List.mem_map_of_mem mem⟩)
      · refine List.forall_mem_singleton.mpr ⟨query.stands.knows, ?_⟩
        rintro _ ⟨⟩
        exact .inr (.inl List.mem_cons_self)
    · have fails := fails_compilable fun g eq query => isQuery ⟨g, eq, query⟩
      obtain ⟨fault, eq⟩ := fails.bind fun g => do
        modify fun s => s.replace h (.statement (nodes ++ [g]))
        return Value.object h
      rw [eq]
      exact .refl s
  · obtain ⟨fault, eq⟩ := fails_append typed.unassigned
      (fun nodes eq => isStatement ⟨nodes, eq⟩) v
    rw [eq]
    exact .refl s

theorem changes_keepDuplicates (all : Value) :
    s.Changes (s.Sources h []) h (outcome (keepDuplicates h all).run s).2 := by
  by_cases isUnion : ∃ branches before, s.get? h = some (.union branches before)
  · obtain ⟨branches, before, found⟩ := isUnion
    rw [outcome_keepDuplicates found]
    have queries : ∀ g ∈ branches, s.IsQuery g := (typed.objects found).2
    refine .replaced (.refl s) found .union (List.forall_mem_map.mpr fun g mem => ?_)
    refine ⟨(queries g mem).stands.knows, ?_⟩
    rintro _ ⟨⟩
    exact .inl (.single ⟨_, found, List.mem_map_of_mem mem⟩)
  · have fails : outcome (keepDuplicates h all).run s = (.error .missing, s) := by
      refine (outcome_get _ s).trans ?_
      split
      · exact absurd ⟨_, _, ‹_›⟩ isUnion
      · rfl
    rw [fails]
    exact .refl s

end Changing

/-! ### Assembled stores -/

namespace Store

/-- What an exported call does to a store: it adds objects that are made of older ones, or it
changes the object that it is called on, into one that is made of what it was made of and of what it
is handed. -/
theorem changes_perform (typed : s.Typed False) {c : Construction} (exported : c.Exported s)
    {h : Nat}
    (receiver : c.receiver? = some h) :
    s.Changes (s.Sources h (c.handed s)) h (outcome c.perform.run s).2 := by
  cases c with
  | build g b =>
    cases receiver
    exact changes_buildOn typed fun v mem => (exported.known v mem).known
  | append g v =>
    cases receiver
    exact changes_append typed v
  | keepDuplicates g all =>
    cases receiver
    exact changes_keepDuplicates typed all
  | _ => cases receiver

/-- Whatever is assembled is made of objects that are there. -/
theorem Assembled.isComplete (assembled : s.Assembled) : s.IsComplete := by
  induction assembled with
  | empty => exact fun h o found => by cases found
  | @call s c before exported complete =>
    cases receiver : c.receiver? with
    | none =>
      have layers := layers_perform before.sound before.typed complete exported receiver
      exact (layers.imp fun _ _ made => made.isMadeBefore).isComplete complete
    | some h => exact (changes_perform before.typed exported receiver).isComplete complete
  | @hold s o _ isData complete =>
    refine (Adds.push s fun g part => ?_).isComplete complete
    rw [Object.parts_of_isData isData] at part
    cases part

end Store

end GraphQuery
