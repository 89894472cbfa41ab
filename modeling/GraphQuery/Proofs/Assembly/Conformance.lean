import GraphQuery.Proofs.Assembly.Typing

/-!
Whatever the library has assembled is typed.

Builders add to a clause what belongs into it, and a call that fails half way leaves the clause with
what had passed by then. So no call takes the types away, whether or not it succeeds.

* `Construction.Documented`: a call that is strict where the library does not check its arguments.
* `yields_perform`: no call of the library takes the types away.
* `Store.Conforming`: the stores that documented calls lead to.
* `Store.Assembled.typed`, `Store.Conforming.typed`: what the library has assembled is typed, and
  strictly so if all its callers have been strict.
-/

namespace GraphQuery

open Assembly

/-! ### Builders -/

namespace Clause.Typed

variable {s : Store} {c : Clause}

/-- A clause that is nothing but its head. -/
theorem ofHead {head : Head} (patterns : ∀ h ∈ head.patterns, s.IsPattern h)
    (body : ∀ p, head = .project p → p.Typed s) : (Clause.ofHead head).Typed s where
  patterns := patterns
  body := body
  filter v eq := by cases eq
  assignments e mem := absurd mem List.not_mem_nil
  removals v mem := absurd mem List.not_mem_nil
  passing p eq := by cases eq
  returning p eq := by cases eq

/-- What changes nothing but a slot, or nothing at all. -/
theorem onSlot (h : c.Typed s) (slot : Slot) {change : Clause → Built}
    (changed : (change c).clause.Typed s) : (c.onSlot slot change).clause.Typed s := by
  unfold Clause.onSlot
  split
  · exact changed
  · exact h

theorem bindPath (h : c.Typed s) (path : Except Fault Reference) :
    (c.bindPath path).clause.Typed s := by
  unfold Clause.bindPath
  split
  · exact h
  · refine h.onSlot _ ?_
    cases path with
    | ok r => exact { h with }
    | error f => exact { h with }

theorem filterBy (h : c.Typed s) {predicate : Except Fault Value}
    (stands : ∀ v, predicate = .ok v → s.Stands v) : (c.filterBy predicate).clause.Typed s := by
  refine h.onSlot _ ?_
  cases predicate with
  | ok v => exact { h with filter := by rintro _ ⟨⟩; exact stands v rfl }
  | error f => exact h

theorem assign (h : c.Typed s) {entries : List (Value × Value)}
    (each : ∀ e ∈ entries, s.Accesses e.1 ∧ s.Stands e.2) (fault? : Option Fault) :
    (c.assign entries fault?).clause.Typed s := by
  refine h.onSlot _ { h with assignments := fun e mem => ?_ }
  rcases List.mem_append.mp mem with mem | mem
  · exact h.assignments e mem
  · exact each e mem

theorem removeProperties (h : c.Typed s) {properties : List Value}
    (each : ∀ v ∈ properties, s.Accesses v) (fault? : Option Fault) :
    (c.removeProperties properties fault?).clause.Typed s := by
  refine h.onSlot _ { h with removals := fun v mem => ?_ }
  rcases List.mem_append.mp mem with mem | mem
  · exact h.removals v mem
  · exact each v mem

theorem delete (h : c.Typed s) (references : List Reference) (detach : Bool)
    (fault? : Option Fault) : (c.delete references detach fault?).clause.Typed s :=
  h.onSlot _ { h with }

theorem project (h : c.Typed s) (kind : ProjectionKind) {columns : Except Fault (List Column)}
    (each : ∀ cs, columns = .ok cs → ∀ column ∈ cs, column.Typed s) (distinct : Value) :
    (c.project kind columns distinct).clause.Typed s := by
  refine h.onSlot _ ?_
  cases columns with
  | error f => exact h
  | ok cs =>
    have sortItems : ∀ i ∈ ((c.projection? kind).getD
        ⟨kind, [], .bool false, .unordered⟩).ordering.sortItems, s.Stands i.expression := by
      cases found : c.projection? kind with
      | none => exact fun i mem => absurd mem List.not_mem_nil
      | some p =>
        cases kind with
        | passing => exact (h.passing p found).sortItems
        | returning => exact (h.returning p found).sortItems
    have projection : (Projection.replace ((c.projection? kind).getD
        ⟨kind, [], .bool false, .unordered⟩) cs distinct).Typed s := ⟨each cs rfl, sortItems⟩
    dsimp only
    unfold Clause.withProjection
    split
    · exact { h with passing := by rintro _ ⟨⟩; exact projection }
    · exact { h with returning := by rintro _ ⟨⟩; exact projection }

/-- An ordering stays one of expressions. -/
theorem onOrdering (h : c.Typed s) {f : Ordering → Ordering}
    (ordered : ∀ o : Ordering, (∀ i ∈ o.sortItems, s.Stands i.expression) →
      ∀ i ∈ (f o).sortItems, s.Stands i.expression) (fault? : Option Fault) :
    (c.onOrdering f fault?).clause.Typed s := by
  have projection : ∀ {p : Projection}, p.Typed s →
      Projection.Typed s { p with ordering := f p.ordering } :=
    fun typed => ⟨typed.columns, ordered _ typed.sortItems⟩
  unfold Clause.onOrdering
  cases eq : c.mapOrdering? f with
  | none => exact h
  | some c' =>
    rcases c.mapOrdering?_cases eq with ⟨p, head, rfl⟩ | ⟨p, found, rfl⟩ | ⟨p, found, rfl⟩
    · refine { h with patterns := ?_, body := ?_ }
      · exact fun _ mem => absurd mem List.not_mem_nil
      · rintro _ ⟨⟩
        exact projection (h.body p head)
    · exact { h with returning := by rintro _ ⟨⟩; exact projection (h.returning p found) }
    · exact { h with passing := by rintro _ ⟨⟩; exact projection (h.passing p found) }

theorem orderBy (h : c.Typed s) {items : List SortItem}
    (each : ∀ i ∈ items, s.Stands i.expression) (fault? : Option Fault) :
    (c.orderBy items fault?).clause.Typed s := by
  refine h.onOrdering (fun o before i mem => ?_) fault?
  rcases List.mem_append.mp mem with mem | mem
  · exact before i mem
  · exact each i mem

theorem skip (h : c.Typed s) (count : Except Fault Param) : (c.skip count).clause.Typed s := by
  cases count with
  | ok p =>
    exact h.onOrdering (f := fun o => { o with skip := some p }) (fun _ before => before) none
  | error f => exact h.onOrdering (fun _ before => before) _

theorem limit (h : c.Typed s) (count : Except Fault Param) : (c.limit count).clause.Typed s := by
  cases count with
  | ok p =>
    exact h.onOrdering (f := fun o => { o with limit := some p }) (fun _ before => before) none
  | error f => exact h.onOrdering (fun _ before => before) _

theorem makeOptional? (h : c.Typed s) {c' : Clause} (eq : c.makeOptional? = some c') :
    c'.Typed s := by
  unfold Clause.makeOptional? at eq
  split at eq
  · rename_i optionalClass isOptional patterns head
    cases eq
    refine { h with patterns := fun g mem => h.patterns g ?_, body := by rintro _ ⟨⟩ }
    rw [head]
    exact mem
  · cases eq

end Clause.Typed

variable {strict : Prop} {s : Store}

section Calls

variable (typed : s.Typed strict)
include typed

/-! ### Arguments of builders -/

theorem yields_disjoined {current : Option Value} (stands : ∀ v, current = some v → s.Stands v)
    {predicate : Value} (predicate_stands : s.Stands predicate) :
    Yields strict (fun t v => t.Stands v) s (disjoined current predicate) := by
  cases current with
  | none => exact .ok typed predicate_stands
  | some v => exact yields_junction typed "OR" [v, predicate]

theorem yields_conjoined {current : Option Value} {predicate : Value}
    (predicate_stands : s.Stands predicate) :
    Yields strict (fun t v => t.Stands v) s (conjoined current predicate) := by
  cases current with
  | none => exact .congr (n := pure predicate) rfl (.ok typed predicate_stands)
  | some v =>
    refine Yields.object? ?_
    dsimp only
    split
    · cases ‹some v = none›
    · rename_i operator operands found
      cases v with
      | atom a mark => cases found
      | object h =>
        cases typed.objects found with
        | junction several stand =>
          split
          · refine .madeExpression typed (.junction ?_ ?_)
            · rw [List.length_append]
              exact Nat.le_add_right_of_le several
            · intro v mem
              rcases List.mem_append.mp mem with mem | mem
              · exact stand v mem
              · rw [List.mem_singleton.mp mem]
                exact predicate_stands
          · exact yields_junction typed _ _
    · exact yields_junction typed _ _

theorem yields_patterns (className : String) (vs : List Value) :
    Yields strict (fun t hs => ∀ h ∈ hs, t.IsPattern h) s (patterns className vs) := by
  have one : ∀ {t : Store} (v : Value), t.Typed strict →
      Yields strict (fun t h => t.IsPattern h) t (do handle (← asPattern v)) := by
    intro t v typed
    refine (yields_asPattern typed v).bind ?_
    rintro t w typed - ⟨p, found⟩
    cases w with
    | object h => exact .ok typed ⟨p, found⟩
    | atom a mark => cases found
  have each := Yields.each (fun _ _ _ grows h => h.mono grows) one vs typed
  unfold patterns
  split
  · exact .stopped typed _ _
  · exact each.imp fun _ h => h.2

theorem yields_path (v : Value) : Yields strict Anything s (path v) := by
  refine Yields.reference? typed fun r? _ => ?_
  split
  · exact .ok typed trivial
  · exact .refuseTyped typed v _

theorem yields_assignment (v : Value) :
    Yields strict (fun t e => t.Accesses e.1 ∧ t.Stands e.2) s (assignment v) := by
  refine Yields.object? ?_
  split
  · rename_i target value _
    refine Yields.object? ?_
    split
    · rename_i base path found
      refine (yields_expression typed value).bind fun typed grows stands => ?_
      have accesses : s.Accesses target := ⟨base, path, found⟩
      exact .ok typed ⟨accesses.mono grows, stands⟩
    · exact .refuseTyped typed _ _
  · exact .refuseQuoted typed v _

theorem yields_removal (v : Value) :
    Yields strict (fun t w => t.Accesses w) s (removal v) := by
  refine Yields.object? ?_
  split
  · rename_i base path found
    exact .ok typed ⟨base, path, found⟩
  · exact .refuseTyped typed v _

theorem yields_deletion (v : Value) : Yields strict Anything s (deletion v) := by
  refine Yields.reference? typed fun r? _ => ?_
  split
  · exact .ok typed trivial
  · exact .refuseTyped typed v _

/-- A builder leaves a typed clause behind, whether or not it succeeds. -/
theorem leaves_build {c : Clause} (clause : c.Typed s) (b : Builder) :
    Leaves strict (fun t built => built.clause.Typed t) s (build c b) := by
  cases b with
  | path v =>
    exact Leaves.bind (yields_path typed v) fun typed grows _ =>
      .pure typed ((clause.mono grows).bindPath _)
  | restrict v =>
    refine Leaves.bind (P := fun t r => ∀ v, r = .ok v → t.Stands v) ?_ fun typed grows stands =>
      .pure typed ((clause.mono grows).filterBy stands)
    exact (yields_expression typed v).bind fun typed grows stands => yields_conjoined typed stands
  | relax v =>
    refine Leaves.bind (P := fun t r => ∀ v, r = .ok v → t.Stands v) ?_ fun typed grows stands =>
      .pure typed ((clause.mono grows).filterBy stands)
    exact (yields_expression typed v).bind fun typed grows stands =>
      yields_disjoined typed (clause.mono grows).filter stands
  | assign vs =>
    refine (Leaves.whilePassing ?_ (fun v typed => yields_assignment typed v) vs typed).bind
      fun typed grows each => .pure typed ((clause.mono grows).assign each _)
    exact fun _ _ _ grows h => ⟨h.1.mono grows, h.2.mono grows⟩
  | remove vs =>
    refine (Leaves.whilePassing ?_ (fun v typed => yields_removal typed v) vs typed).bind
      fun typed grows each => .pure typed ((clause.mono grows).removeProperties each _)
    exact fun _ _ _ grows h => h.mono grows
  | delete vs detach =>
    exact (Leaves.whilePassing lasting_anything (fun v typed => yields_deletion typed v) vs
      typed).bind fun typed grows _ => .pure typed ((clause.mono grows).delete _ _ _)
  | project kind vs distinct =>
    exact Leaves.bind (yields_someColumns typed kind vs) fun typed grows each =>
      .pure typed ((clause.mono grows).project kind each distinct)
  | orderBy vs =>
    refine (Leaves.whilePassing ?_ (fun v typed => yields_sortItem typed v) vs typed).bind
      fun typed grows each => .pure typed ((clause.mono grows).orderBy each _)
    exact fun _ _ _ grows h => h.mono grows
  | skip v =>
    exact Leaves.bind (yields_rowCount typed _ v) fun typed grows _ =>
      .pure typed ((clause.mono grows).skip _)
  | limit v =>
    exact Leaves.bind (yields_rowCount typed _ v) fun typed grows _ =>
      .pure typed ((clause.mono grows).limit _)
  | makeOptional =>
    refine .pure typed ?_
    cases eq : c.makeOptional? with
    | none => exact clause
    | some c' => exact clause.makeOptional? eq

/-! ### Clauses, statements and unions -/

theorem yields_buildOn (h : Nat) (b : Builder) : Yields strict Anything s (buildOn h b) := by
  by_cases isClause : ∃ c, s.get? h = some (.clause c)
  · obtain ⟨c, found⟩ := isClause
    obtain ⟨typed', grows, clause⟩ := leaves_build typed (typed.objects found) b
    obtain ⟨c', found'⟩ := grows.exists_clause found
    have eq := outcome_buildOn typed.unassigned found b
    refine ⟨?_, ?_, fun _ _ => trivial⟩
    · rw [eq]
      exact typed'.replace found' .clause clause
    · rw [eq]
      exact grows.trans (.replace found' .clause)
  · obtain ⟨fault, eq⟩ := fails_buildOn (fun c eq => isClause ⟨c, eq⟩) b
    refine ⟨?_, ?_, fun _ _ => trivial⟩
    · rw [eq]
      exact typed
    · rw [eq]
      exact .refl s

theorem yields_read (optionalClass : Bool) (isOptional : Value) (vs : List Value) :
    Yields strict Anything s (read optionalClass isOptional vs) :=
  (yields_patterns typed _ vs).bind fun typed _ patterns =>
    .makes typed (Clause.Typed.ofHead patterns (by rintro _ ⟨⟩))

theorem yields_create (vs : List Value) : Yields strict Anything s (create vs) :=
  (yields_patterns typed _ vs).bind fun typed _ patterns =>
    .makes typed (Clause.Typed.ofHead patterns (by rintro _ ⟨⟩))

theorem yields_projection (kind : ProjectionKind) (vs : List Value) (distinct : Value) :
    Yields strict Anything s (projection kind vs distinct) := by
  refine (yields_someColumns typed kind vs).bind fun typed _ columns => ?_
  refine .makes typed (Clause.Typed.ofHead (fun _ mem => absurd mem List.not_mem_nil) ?_)
  rintro _ ⟨⟩
  exact ⟨columns, fun _ mem => absurd mem List.not_mem_nil⟩

theorem yields_compilable (v : Value) :
    Yields strict (fun t h => t.IsQuery h) s (compilable v) := by
  refine Yields.object? ?_
  split
  · rename_i any
    obtain ⟨o, found, isQuery⟩ := (Option.any_eq_true _ _).mp any
    cases v with
    | object h => exact .ok typed ⟨o, found, isQuery⟩
    | atom a mark => cases found
  · exact .refuseTyped typed v _

/-- All values are queries. -/
theorem yields_compilables (vs : List Value) :
    Yields strict (fun t hs => hs.length = vs.length ∧ ∀ h ∈ hs, t.IsQuery h) s
      (vs.mapM compilable) :=
  Yields.each (fun _ _ _ grows h => h.mono grows) (fun v typed => yields_compilable typed v) vs
    typed

theorem yields_statement (nodes : List Value) : Yields strict Anything s (statement nodes) :=
  (yields_compilables typed nodes).bind fun typed _ queries =>
    .makes typed (o := .statement _) queries.2

theorem yields_union (branches : List Value) : Yields strict Anything s (union branches) := by
  unfold union
  dsimp only
  split
  · exact .stopped typed _ _
  · rename_i several
    refine (yields_compilables typed branches).bind fun typed _ queries => ?_
    exact .makes typed (o := .union _ _) ⟨by omega, queries.2⟩

theorem yields_append (h : Nat) (v : Value) : Yields strict Anything s (append h v) := by
  refine Yields.get ?_
  rw [Store.isLacking_eq_false typed.unassigned]
  refine Yields.get ?_
  refine Yields.get ?_
  rw [Store.standIn?_eq_none typed.unassigned]
  dsimp only [Bool.false_eq_true, if_false]
  split
  · cases ‹(none : Option Value) = some _›
  · rename_i nodes found _
    refine (yields_compilable typed v).bind fun typed' grows query => ?_
    obtain ⟨nodes', found'⟩ := grows.exists_statement found
    have queries : ∀ g ∈ nodes, s.IsQuery g := typed.objects found
    refine (Yields.replace typed' found' .statement fun g mem => ?_).bind fun typed _ _ =>
      .ok typed trivial
    rcases List.mem_append.mp mem with mem | mem
    · exact (queries g mem).mono grows
    · rw [List.mem_singleton.mp mem]
      exact query
  · exact .stopped typed _ _

theorem yields_keepDuplicates (h : Nat) (all : Value) :
    Yields strict Anything s (keepDuplicates h all) := by
  refine Yields.get ?_
  split
  · rename_i branches _ found
    have queries : 2 ≤ branches.length ∧ ∀ g ∈ branches, s.IsQuery g := typed.objects found
    exact (Yields.replace typed found .union queries).bind fun typed _ _ => .ok typed trivial
  · exact .throw typed _

end Calls

/-! ### All calls -/

namespace Construction

/-- Where the library does not check its arguments the call is strict: it accesses properties of
references, and gives names as types, if any. -/
def Documented (s : Store) : Construction → Prop
  | property base _ => s.Refers base
  | relationshipElement _ type _ _ | related _ _ type _ _ =>
    type.isNull = true ∨ ∃ n, type.name? = some n
  | _ => True

end Construction

/-- No call of the library takes the types away. -/
theorem yields_perform (typed : s.Typed strict) {c : Construction} (exported : c.IsExported s)
    (documented : strict → c.Documented s) : Yields strict Anything s c.perform := by
  cases c with
  | reference is stem => exact yields_reference typed is stem
  | node stem labels? => exact yields_node typed stem labels?
  | relationship stem type => exact yields_relationship typed stem type
  | param v stem => exact yields_param typed v stem
  | property base path =>
    exact (yields_property typed documented path).imp fun _ _ => trivial
  | propertyOf receiver path => exact yields_propertyOf typed receiver path
  | direction v =>
    unfold Construction.perform
    dsimp only
    split
    · exact .ok typed trivial
    · exact .throw typed _
  | nodeElement v labels table =>
    exact (yields_nodeElement typed v labels table).bind fun typed _ _ =>
      .makes (o := .nodeElement _) typed trivial
  | relationshipElement v type table way =>
    refine (yields_relationshipElement typed v type table way).bind ?_
    rintro t _ typed - ⟨is, own, ps, d, rfl⟩
    exact .makes (o := .relationshipElement _) typed fun asked =>
      typeIn_named own (documented asked)
  | pattern v labels table => exact (yields_pattern typed v labels table).imp fun _ _ => trivial
  | related receiver v type table way =>
    exact (yields_related typed receiver v documented table way).imp fun _ _ => trivial
  | close receiver v labels table =>
    exact (yields_close typed receiver v labels table).imp fun _ _ => trivial
  | openChain elements pending =>
    exact .makes (o := .chain _) typed ⟨by rintro _ ⟨⟩, trivial⟩
  | comparison operator left right => exact yields_comparison typed operator left right
  | check operator operand => exact yields_postCheck typed operator operand
  | junction operator operands =>
    exact (yields_junction typed operator operands).imp fun _ _ => trivial
  | negation operand => exact yields_negation typed operand
  | call name arguments =>
    obtain ⟨word, -, rfl⟩ := exported
    exact yields_call typed arguments
  | read optionalClass isOptional vs => exact yields_read typed optionalClass isOptional vs
  | create vs => exact yields_create typed vs
  | projection kind vs distinct => exact yields_projection typed kind vs distinct
  | statement nodes => exact yields_statement typed nodes
  | union branches => exact yields_union typed branches
  | build h b => exact yields_buildOn typed h b
  | append h v => exact yields_append typed h v
  | keepDuplicates h all => exact yields_keepDuplicates typed h all
  | _ => cases exported

/-! ### Conforming stores -/

namespace Store

/-- The stores that come of documented calls of the library, and of collections and records that a
caller makes, in any order. A call may fail. -/
inductive Conforming : Store → Prop where
  | empty : Conforming .empty
  | call {s : Store} {c : Construction} : Conforming s → c.Exported s → c.Documented s →
      Conforming (outcome c.perform.run s).2
  | hold {s : Store} {o : Object} : Conforming s → o.isData = true → Conforming (s.push o)

/-- Data has no parts of its own. -/
theorem typed_of_isData {o : Object} (isData : o.isData = true) : o.Typed strict s := by
  cases o <;> first | exact trivial | cases isData

/-- What the library has assembled is typed. -/
theorem Assembled.typed (assembled : s.Assembled) : s.Typed False := by
  induction assembled with
  | empty => exact .empty
  | call _ exported ih => exact (yields_perform ih exported.isExported False.elim).typed
  | hold _ isData ih => exact ih.push (typed_of_isData isData)

theorem Conforming.assembled (conforming : s.Conforming) : s.Assembled := by
  induction conforming with
  | empty => exact .empty
  | call _ exported _ ih => exact .call ih exported
  | hold _ isData ih => exact .hold ih isData

/-- What the library has assembled for strict callers is strictly typed. -/
theorem Conforming.typed (conforming : s.Conforming) : s.Typed True := by
  induction conforming with
  | empty => exact .empty
  | call _ exported documented ih =>
    exact (yields_perform ih exported.isExported fun _ => documented).typed
  | hold _ isData ih => exact ih.push (typed_of_isData isData)

end Store

end GraphQuery
