import GraphQuery.Assembly.Clause
import GraphQuery.Proofs.Assembly.Expression
import GraphQuery.Proofs.Assembly.Pattern

/-!
Making clauses and calling builders on them in two runs.

* `Clause.Alike.onSlot`, `Clause.Alike.onOrdering`: what builders have in common.
* `Builder.Alike`: builder calls whose arguments differ only in literals.
* `together_build`: like calls on like clauses leave like clauses behind, and both fail or neither
  does.
-/

namespace GraphQuery

open Assembly

variable {R : Value → Value → Prop} {s s' : Store}

/-! ### New clauses -/

/-- The clause that is nothing but its head is like any with a like head. -/
theorem Clause.Alike.ofHead {k k' : Head} (like : k.Alike s s' k') :
    (Clause.ofHead k).Alike s s' (.ofHead k') where
  head := like
  path_eq := rfl
  path _ eq := by cases eq
  filter_eq := rfl
  filter _ eq := by cases eq
  assignments_eq := rfl
  removals_eq := rfl
  deletion_eq := rfl
  deletion _ eq := by cases eq
  passing := .none
  returning := .none

theorem agree_patterns (like : s.Alike R s') (className : String) (vs : List Value) :
    Agree R Same s s' (patterns className vs) (patterns className vs) := by
  unfold patterns
  split
  · exact .refused like
  · refine Agree.mapM_same (A := fun _ _ _ => True) (fun _ _ h => h) ?_ like fun _ _ => trivial
    intro t t' v like _
    refine (agree_asPattern like v).bind ?_
    rintro u u' _ pattern like - - rfl
    cases pattern with
    | object h => exact Agree.pure like rfl
    | atom a mark => exact .throw like

theorem agree_read (like : s.Alike R s') (optionalClass : Bool) {isOptional : Value}
    (deciding : isOptional.Deciding s s') (vs : List Value) :
    Agree R Same s s' (read optionalClass isOptional vs) (read optionalClass isOptional vs) := by
  refine (agree_patterns like _ vs).bind ?_
  rintro t t' _ patterns like grows grows' rfl
  exact agree_made like (.clause (.ofHead (.read (deciding.mono grows grows'))))

theorem agree_create (like : s.Alike R s') (vs : List Value) :
    Agree R Same s s' (create vs) (create vs) := by
  refine (agree_patterns like _ vs).bind ?_
  rintro t t' _ patterns like - - rfl
  exact agree_made like (.clause (.ofHead .create))

/-- No ordering is like itself. -/
theorem Ordering.Alike.unordered : Ordering.unordered.Alike s s' .unordered :=
  ⟨rfl, fun _ mem => absurd mem List.not_mem_nil, .none, .none⟩

theorem agree_projection (like : s.Alike R s') (kind : ProjectionKind) {vs : List Value}
    (paired : ∀ v ∈ vs, v.Paired s s') {distinct : Value} (deciding : distinct.Deciding s s') :
    Agree R Same s s' (projection kind vs distinct) (projection kind vs distinct) := by
  refine (agree_someColumns like kind paired).bind ?_
  rintro t t' _ columns like grows grows' rfl
  exact agree_made like (.clause (.ofHead (.project
    ⟨rfl, rfl, rfl, deciding.mono grows grows', .unordered⟩)))

/-! ### What builders do to clauses -/

/-- What two builder calls come to: like clauses, and a fault in both or in neither. -/
structure Built.Alike (s s' : Store) (b b' : Built) : Prop where
  clause : b.clause.Alike s s' b'.clause
  fault : b.fault?.isSome = b'.fault?.isSome

namespace Clause.Alike

variable {c c' : Clause}

theorem supports_eq (like : c.Alike s s' c') (slot : Slot) :
    c'.supports slot = c.supports slot := by
  rw [Clause.supports, Clause.supports, like.head.manifest_eq]

/-- Calls that are refused leave like clauses alone. -/
theorem refuse (like : c.Alike s s' c') (f f' : Fault) :
    (c.refuse f).Alike s s' (c'.refuse f') :=
  ⟨like, rfl⟩

/-- Like clauses carry the same fragments. -/
theorem onSlot (like : c.Alike s s' c') (slot : Slot) {change change' : Clause → Built}
    (changed : (change c).Alike s s' (change' c')) :
    (c.onSlot slot change).Alike s s' (c'.onSlot slot change') := by
  unfold Clause.onSlot
  rw [like.supports_eq]
  split
  · exact changed
  · exact like.refuse _ _

theorem bindPath (like : c.Alike s s' c') {path path' : Except Fault Reference}
    (answers : Answers (fun r r' => r' = r ∧ r.Held s s') path path') :
    (c.bindPath path).Alike s s' (c'.bindPath path') := by
  unfold Clause.bindPath
  rw [like.supports_eq, like.head.patterns_eq]
  split
  · exact like.refuse _ _
  · refine like.onSlot _ ?_
    cases answers with
    | ok related =>
      obtain ⟨rfl, held⟩ := related
      refine ⟨{ like with path_eq := rfl, path := ?_ }, rfl⟩
      intro r eq
      cases eq
      exact held
    | error =>
      refine ⟨{ like with path_eq := by rw [like.path_eq], path := ?_ }, rfl⟩
      intro r eq
      exact like.path r (by simpa using eq)

theorem filterBy (like : c.Alike s s' c') {predicate predicate' : Except Fault Value}
    (answers : Answers (Standing s s') predicate predicate') :
    (c.filterBy predicate).Alike s s' (c'.filterBy predicate') := by
  refine like.onSlot _ ?_
  cases answers with
  | ok related =>
    obtain ⟨rfl, stands⟩ := related
    refine ⟨{ like with filter_eq := rfl, filter := ?_ }, rfl⟩
    intro v eq
    cases eq
    exact stands
  | error => exact like.refuse _ _

theorem assign (like : c.Alike s s' c') (entries : List (Value × Value))
    {fault? fault?' : Option Fault} (fault : fault?.isSome = fault?'.isSome) :
    (c.assign entries fault?).Alike s s' (c'.assign entries fault?') :=
  like.onSlot _ ⟨{ like with assignments_eq := by rw [like.assignments_eq] }, fault⟩

theorem removeProperties (like : c.Alike s s' c') (properties : List Value)
    {fault? fault?' : Option Fault} (fault : fault?.isSome = fault?'.isSome) :
    (c.removeProperties properties fault?).Alike s s' (c'.removeProperties properties fault?') :=
  like.onSlot _ ⟨{ like with removals_eq := by rw [like.removals_eq] }, fault⟩

theorem delete (like : c.Alike s s' c') {references : List Reference}
    (held : ∀ r ∈ references, r.Held s s') (detach : Bool) {fault? fault?' : Option Fault}
    (fault : fault?.isSome = fault?'.isSome) :
    (c.delete references detach fault?).Alike s s' (c'.delete references detach fault?') := by
  refine like.onSlot _ ⟨{ like with deletion_eq := ?_, deletion := ?_ }, fault⟩
  · have isNone_eq : fault?'.isNone = fault?.isNone := by
      rw [← Option.not_isSome, ← Option.not_isSome, fault]
    simp only [like.deletion_eq, isNone_eq]
  · rintro d eq r mem
    cases eq
    rcases List.mem_append.mp mem with before | new
    · cases found : c.deletion with
      | none => simp [found] at before
      | some d => exact like.deletion d found r (by simpa [found] using before)
    · exact held r new

/-- The trailing projections of like clauses are alike. -/
theorem projection? (like : c.Alike s s' c') (kind : ProjectionKind) :
    Option.Rel (Projection.Alike s s') (c.projection? kind) (c'.projection? kind) := by
  cases kind with
  | passing => exact like.passing
  | returning => exact like.returning

theorem withProjection (like : c.Alike s s' c') {p p' : Projection} (alike : p.Alike s s' p') :
    (c.withProjection p).Alike s s' (c'.withProjection p') := by
  unfold Clause.withProjection
  rw [alike.kind_eq]
  cases p.kind with
  | passing => exact { like with passing := .some alike }
  | returning => exact { like with returning := .some alike }

theorem project (like : c.Alike s s' c') (kind : ProjectionKind)
    {columns columns' : Except Fault (List Column)} (answers : Answers (Same s s') columns columns')
    {distinct : Value} (deciding : distinct.Deciding s s') :
    (c.project kind columns distinct).Alike s s' (c'.project kind columns' distinct) := by
  refine like.onSlot _ ?_
  cases answers with
  | ok related =>
    obtain rfl := related
    refine ⟨like.withProjection ?_, rfl⟩
    have before : ((c.projection? kind).getD ⟨kind, [], .bool false, .unordered⟩).Alike s s'
        ((c'.projection? kind).getD ⟨kind, [], .bool false, .unordered⟩) := by
      have trailing := like.projection? kind
      generalize c.projection? kind = p? at trailing
      generalize c'.projection? kind = p?' at trailing
      cases trailing with
      | none => exact ⟨rfl, rfl, rfl, .atom s s' _ _, .unordered⟩
      | some alike => exact alike
    exact ⟨before.kind_eq, rfl, rfl, deciding, before.ordering⟩
  | error => exact like.refuse _ _

/-- Like clauses have the same projection to order. -/
theorem onOrdering (like : c.Alike s s' c') {f f' : Ordering → Ordering}
    (change : ∀ {o o'}, Ordering.Alike s s' o o' → (f o).Alike s s' (f' o'))
    {fault? fault?' : Option Fault} (fault : fault?.isSome = fault?'.isSome) :
    (c.onOrdering f fault?).Alike s s' (c'.onOrdering f' fault?') := by
  have changed : ∀ {p p' : Projection}, p.Alike s s' p' →
      Projection.Alike s s' { p with ordering := f p.ordering }
        { p' with ordering := f' p'.ordering } :=
    fun alike => { alike with ordering := change alike.ordering }
  obtain ⟨head, path, filter, assignments, removals, deletion, passing, returning⟩ := c
  obtain ⟨head', path', filter', assignments', removals', deletion', passing', returning'⟩ := c'
  unfold Clause.onOrdering Clause.mapOrdering?
  cases like.head with
  | project p => exact ⟨{ like with head := .project (changed p) }, fault⟩
  | read _ | create =>
    cases like.returning with
    | some p => exact ⟨{ like with returning := .some (changed p) }, fault⟩
    | none =>
      cases like.passing with
      | some p => exact ⟨{ like with passing := .some (changed p) }, fault⟩
      | none => exact like.refuse _ _

theorem orderBy (like : c.Alike s s' c') {items : List SortItem}
    (exported : ∀ i ∈ items, i.Exported) {fault? fault?' : Option Fault}
    (fault : fault?.isSome = fault?'.isSome) :
    (c.orderBy items fault?).Alike s s' (c'.orderBy items fault?') := by
  refine like.onOrdering (fun o => ?_) fault
  refine { o with sortItems_eq := by rw [o.sortItems_eq], exported := ?_ }
  intro i mem
  rcases List.mem_append.mp mem with before | new
  · exact o.exported i before
  · exact exported i new

theorem skip (like : c.Alike s s' c') {count count' : Except Fault Param}
    (answers : Answers (Param.Alike s s') count count') :
    (c.skip count).Alike s s' (c'.skip count') := by
  cases answers with
  | ok alike =>
    simp only [Clause.skip]
    refine like.onOrdering ?_ rfl
    intro o o' ordering
    exact { ordering with skip := .some alike }
  | error => exact like.onOrdering id rfl

theorem limit (like : c.Alike s s' c') {count count' : Except Fault Param}
    (answers : Answers (Param.Alike s s') count count') :
    (c.limit count).Alike s s' (c'.limit count') := by
  cases answers with
  | ok alike =>
    simp only [Clause.limit]
    refine like.onOrdering ?_ rfl
    intro o o' ordering
    exact { ordering with limit := .some alike }
  | error => exact like.onOrdering id rfl

/-- Both clauses read patterns, or neither does. -/
theorem makeOptional? (like : c.Alike s s' c') :
    Option.Rel (Clause.Alike s s') c.makeOptional? c'.makeOptional? := by
  have head := like.head
  unfold Clause.makeOptional?
  generalize c.head = k at head
  generalize c'.head = k' at head
  cases head with
  | read _ => exact .some { like with head := .read (.atom s s' _ _) }
  | create => exact .none
  | project _ => exact .none

end Clause.Alike

/-! ### Arguments of builders -/

/-- Two results are one reference that is the object of its handle in both stores. -/
def SameHeld (s s' : Store) (r r' : Reference) : Prop := r' = r ∧ r.Held s s'

theorem agree_path (like : s.Alike R s') (v : Value) :
    Agree R SameHeld s s' (path v) (path v) := by
  refine Agree.onReference like (.refusedTyped like) fun r held => ?_
  obtain ⟨id, stem, is⟩ := r
  cases is with
  | path => exact Agree.pure like ⟨rfl, held⟩
  | _ => exact .refusedTyped like

/-- What is found behind an assignment: a pair with the same target in both runs, or no pair. -/
theorem Value.Assigning.object?_cases {v : Value} (assigning : v.Assigning R s s') :
    (∃ a b b', s.object? v = some (.tuple [a, b]) ∧ s'.object? v = some (.tuple [a, b']) ∧
      Operand R s s' b b') ∨
    ((∀ a b, s.object? v ≠ some (.tuple [a, b])) ∧ ∀ a b, s'.object? v ≠ some (.tuple [a, b])) := by
  by_cases pair : ∃ a b, s.object? v = some (.tuple [a, b])
  · obtain ⟨a, b, found⟩ := pair
    obtain ⟨b', found', operand⟩ := assigning.pair found
    exact .inl ⟨a, b, b', found, found', operand⟩
  · refine .inr ⟨fun a b found => pair ⟨a, b, found⟩, fun a b found => ?_⟩
    obtain ⟨b, found⟩ := assigning.pair' found
    exact pair ⟨a, b, found⟩

/-- What is no pair is no assignment. -/
theorem fails_assignment {s : Store} {v : Value}
    (noPair : ∀ a b, s.object? v ≠ some (.tuple [a, b])) : Fails s (assignment v) := by
  unfold assignment
  refine .after_ok (a := s.object? v) rfl ?_
  split
  · rename_i found
    exact absurd found (noPair _ _)
  · exact .after (reads_quoted v) fun _ => .refuse s _

theorem agree_assignment (like : s.Alike R s') {v : Value} (assigning : v.Assigning R s s') :
    Agree R Same s s' (assignment v) (assignment v) := by
  rcases assigning.object?_cases with ⟨target, b, b', found, found', operand⟩ | ⟨noPair, noPair'⟩
  · refine Agree.object? ?_
    rw [found, found']
    refine Agree.onObject like (.refusedTyped like) fun o o' _ _ alike => ?_
    cases alike with
    | expression exported =>
      cases exported with
      | property =>
        refine (agree_expression like operand).bind ?_
        rintro t t' _ value like - - ⟨rfl, -⟩
        exact Agree.pure like rfl
      | _ => exact .refusedTyped like
    | data isData isData' =>
      cases o <;> cases isData <;> cases o' <;> cases isData' <;> exact .refusedTyped like
    | _ => exact .refusedTyped like
  · exact .of_fails like (fails_assignment noPair) (fails_assignment noPair')

theorem agree_removal (like : s.Alike R s') (v : Value) :
    Agree R Same s s' (removal v) (removal v) := by
  refine Agree.onObject like (.refusedTyped like) fun o o' _ _ alike => ?_
  cases alike with
  | expression exported =>
    cases exported with
    | property => exact Agree.pure like rfl
    | _ => exact .refusedTyped like
  | data isData isData' =>
    cases o <;> cases isData <;> cases o' <;> cases isData' <;> exact .refusedTyped like
  | _ => exact .refusedTyped like

theorem agree_deletion (like : s.Alike R s') (v : Value) :
    Agree R SameHeld s s' (deletion v) (deletion v) := by
  refine Agree.onReference like (.refusedTyped like) fun r held => ?_
  exact Agree.pure like ⟨rfl, held⟩

/-! ### Builders -/

/-- Builder calls of two runs: arguments that differ only in literals. -/
inductive Builder.Alike (R : Value → Value → Prop) (s s' : Store) : Builder → Builder → Prop where
  | path {v : Value} : Alike R s s' (.path v) (.path v)
  | restrict {v v' : Value} : Operand R s s' v v' → Alike R s s' (.restrict v) (.restrict v')
  | relax {v v' : Value} : Operand R s s' v v' → Alike R s s' (.relax v) (.relax v')
  | assign {vs : List Value} : (∀ v ∈ vs, v.Assigning R s s') →
      Alike R s s' (.assign vs) (.assign vs)
  | remove {vs : List Value} : Alike R s s' (.remove vs) (.remove vs)
  | delete {vs : List Value} {detach : Bool} : Alike R s s' (.delete vs detach) (.delete vs detach)
  | project {kind : ProjectionKind} {vs : List Value} {distinct : Value} :
      (∀ v ∈ vs, v.Paired s s') → distinct.Deciding s s' →
      Alike R s s' (.project kind vs distinct) (.project kind vs distinct)
  | orderBy {vs : List Value} : (∀ v ∈ vs, v.Sorting s s') →
      Alike R s s' (.orderBy vs) (.orderBy vs)
  | skip {v v' : Value} : RowCount R v v' → Alike R s s' (.skip v) (.skip v')
  | limit {v v' : Value} : RowCount R v v' → Alike R s s' (.limit v) (.limit v')
  | makeOptional : Alike R s s' .makeOptional .makeOptional

/-- Steps on the same values with the same results, as far as they pass. -/
theorem Together.whilePassing_same {α : Type} {A : Store → Store → Value → Prop}
    {Q : Store → Store → α → Prop} {f : Value → Assembly α}
    (stable : ∀ {s s' t t' a}, s.Grows t → s'.Grows t' → Q s s' a → Q t t' a)
    (step : ∀ {t t' v}, t.Alike R t' → A t t' v → Agree R
      (fun u u' a b => (b = a ∧ Q u u' a) ∧ ∀ w, A t t' w → A u u' w) t t' (f v) (f v))
    {vs : List Value} (like : s.Alike R s') (items : ∀ v ∈ vs, A s s' v) :
    Together R (fun t t' (r r' : List α × Option Fault) =>
        (r'.1 = r.1 ∧ ∀ a ∈ r.1, Q t t' a) ∧ r.2.isSome = r'.2.isSome) s s'
      (Assembly.whilePassing f vs) (Assembly.whilePassing f vs) := by
  refine (Together.whilePassing (A := fun t t' v v' => v' = v ∧ A t t' v)
    (Q := fun t t' a b => b = a ∧ Q t t' a) ?_ ?_ like ?_).imp ?_
  · exact fun _ _ _ _ _ _ grows grows' h => ⟨h.1, stable grows grows' h.2⟩
  · rintro t t' v _ like ⟨rfl, item⟩
    refine (step like item).imp fun _ _ _ h => ⟨h.1, fun w _ related => ⟨related.1, ?_⟩⟩
    exact h.2 w related.2
  · exact List.forall₂_same.mpr fun v mem => ⟨rfl, items v mem⟩
  · rintro t t' ⟨as, f?⟩ ⟨bs, f?'⟩ - - - ⟨results, faults⟩
    refine ⟨?_, faults⟩
    dsimp only at results ⊢
    clear faults
    induction results with
    | nil => exact ⟨rfl, fun _ mem => absurd mem List.not_mem_nil⟩
    | cons first _ ih =>
      exact ⟨congrArg₂ List.cons first.1 ih.1, List.forall_mem_cons.mpr ⟨first.2, ih.2⟩⟩

/-- A predicate joins the filter of a clause, in whatever way predicates are joined. -/
theorem together_filterBy (like : s.Alike R s') {c c' : Clause} (clause : c.Alike s s' c')
    {v v' : Value} (operand : Operand R s s' v v') {join : Option Value → Value → Assembly Value}
    (joins : ∀ {t t' : Store} {predicate : Value}, t.Alike R t' →
      (∀ v, c.filter = some v → t.Stands v) → t.Stands predicate →
      Agree R Standing t t' (join c.filter predicate) (join c.filter predicate)) :
    Together R Built.Alike s s'
      (do return c.filterBy (← attempt do join c.filter (← expression v)))
      (do return c'.filterBy (← attempt do join c'.filter (← expression v'))) := by
  refine Together.bind (P := fun t t' => Answers (Standing t t')) ?_ ?_
  · refine (agree_expression like operand).bind ?_
    rintro t t' _ predicate like grows grows' ⟨rfl, stands⟩
    rw [clause.filter_eq]
    exact joins like (fun v eq => (clause.filter v eq).mono grows) stands
  · intro t t' a a' like grows grows' answers
    exact Together.pure like ((clause.mono grows grows').filterBy answers)

/-- Values are taken as far as they pass, and a clause is changed by what they came to. -/
theorem together_taken {α : Type} {A : Store → Store → Value → Prop} {Q : Store → Store → α → Prop}
    {f : Value → Assembly α}
    (stable : ∀ {s s' t t' a}, s.Grows t → s'.Grows t' → Q s s' a → Q t t' a)
    (step : ∀ {t t' v}, t.Alike R t' → A t t' v → Agree R
      (fun u u' a b => (b = a ∧ Q u u' a) ∧ ∀ w, A t t' w → A u u' w) t t' (f v) (f v))
    {vs : List Value} (like : s.Alike R s') (items : ∀ v ∈ vs, A s s' v)
    {change change' : List α → Option Fault → Built}
    (changes : ∀ {t t' as fault? fault?'}, s.Grows t → s'.Grows t' → (∀ a ∈ as, Q t t' a) →
      fault?.isSome = fault?'.isSome → Built.Alike t t' (change as fault?) (change' as fault?')) :
    Together R Built.Alike s s' (do let taken ← whilePassing f vs; return change taken.1 taken.2)
      (do let taken ← whilePassing f vs; return change' taken.1 taken.2) := by
  refine Together.bind (Together.whilePassing_same (A := A) (Q := Q) stable step like items) ?_
  rintro t t' ⟨_, _⟩ ⟨_, _⟩ like grows grows' ⟨⟨rfl, related⟩, faults⟩
  exact Together.pure like (changes grows grows' related faults)

/-- Like builder calls on like clauses. -/
theorem together_build (like : s.Alike R s') {c c' : Clause} (clause : c.Alike s s' c')
    {b b' : Builder} (alike : b.Alike R s s' b') :
    Together R Built.Alike s s' (build c b) (build c' b') := by
  cases alike with
  | @path v =>
    refine Together.bind (agree_path like v) ?_
    intro t t' a a' like grows grows' answers
    exact Together.pure like ((clause.mono grows grows').bindPath answers)
  | restrict operand =>
    exact together_filterBy like clause operand fun like standing => agree_conjoined like standing
  | relax operand =>
    exact together_filterBy like clause operand fun like standing => agree_disjoined like standing
  | assign assigning =>
    refine together_taken (A := fun s s' v => v.Assigning R s s') (Q := fun _ _ _ => True)
      (fun _ _ h => h) ?_ like assigning fun grows grows' _ faults =>
        (clause.mono grows grows').assign _ faults
    intro t t' v like assigning
    exact (agree_assignment like assigning).imp fun _ grows grows' eq =>
      ⟨⟨eq, trivial⟩, fun _ h => h.mono grows grows'⟩
  | remove =>
    refine together_taken (A := fun _ _ _ => True) (Q := fun _ _ _ => True) (fun _ _ h => h) ?_ like
      (fun _ _ => trivial) fun grows grows' _ faults =>
        (clause.mono grows grows').removeProperties _ faults
    intro t t' v like _
    exact (agree_removal like v).imp fun _ _ _ eq => ⟨⟨eq, trivial⟩, fun _ h => h⟩
  | @delete _ detach =>
    refine together_taken (A := fun _ _ _ => True) (Q := fun s s' (r : Reference) => r.Held s s')
      (fun grows grows' h => h.mono grows grows') ?_ like (fun _ _ => trivial)
      fun grows grows' held faults => (clause.mono grows grows').delete held detach faults
    intro t t' v like _
    exact (agree_deletion like v).imp fun _ _ _ h => ⟨h, fun _ h => h⟩
  | @project kind _ _ paired deciding =>
    refine Together.bind (agree_someColumns like kind paired) ?_
    intro t t' a a' like grows grows' answers
    refine Together.pure like ((clause.mono grows grows').project kind ?_
      (deciding.mono grows grows'))
    cases answers with
    | ok eq => exact .ok eq
    | error => exact .error
  | orderBy sorting =>
    refine together_taken (A := fun s s' v => v.Sorting s s') (Q := fun _ _ i => i.Exported)
      (fun _ _ h => h) ?_ like sorting fun grows grows' exported faults =>
        (clause.mono grows grows').orderBy exported faults
    intro t t' v like sorting
    refine (agree_sortItem like sorting).imp ?_
    rintro _ _ a b - - - ⟨rfl, rfl, eq, exported⟩
    exact ⟨⟨eq, exported⟩, fun _ h => h⟩
  | skip count =>
    refine Together.bind (agree_rowCount like _ count) ?_
    intro t t' a a' like grows grows' answers
    exact Together.pure like ((clause.mono grows grows').skip answers)
  | limit count =>
    refine Together.bind (agree_rowCount like _ count) ?_
    intro t t' a a' like grows grows' answers
    exact Together.pure like ((clause.mono grows grows').limit answers)
  | makeOptional =>
    refine Together.pure like ?_
    have optional := clause.makeOptional?
    generalize c.makeOptional? = c? at optional
    generalize c'.makeOptional? = c?' at optional
    cases optional with
    | none => exact clause.refuse _ _
    | some alike => exact ⟨alike, rfl⟩

end GraphQuery
