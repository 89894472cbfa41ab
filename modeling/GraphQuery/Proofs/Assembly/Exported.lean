import GraphQuery.Proofs.Assembly.Run

/-!
What the library makes of its own calls is sound.

The calls that the library exports take operators and functions from its own words, and its chains
are made of elements. Whatever is assembled through them, in whatever order and whether or not all
calls succeed, holds nothing but what it ought to hold: the store is like itself.

* `Construction.Exported`: a call that the library exports, on arguments that are there.
* `Construction.literals`: the arguments of a call that stand where a literal can stand.
* `Store.Assembled`: the stores that such calls lead to.
* `Store.Assembled.sound`: such a store is like itself.
-/

namespace GraphQuery

/-! ### Exported calls -/

/-- The values that a builder is called with. -/
def Builder.arguments : Builder → List Value
  | path v | restrict v | relax v | skip v | limit v => [v]
  | assign vs | remove vs | delete vs _ | orderBy vs => vs
  | project _ vs distinct => distinct :: vs
  | makeOptional => []

namespace Construction

/-- The values that an assembling call is made with. -/
def arguments : Construction → List Value
  | reference _ stem => [stem]
  | node stem labels? => stem :: labels?.toList
  | relationship stem type => [stem, type]
  | param v stem => [v, stem]
  | property base path | propertyOf base path => base :: path
  | nodeElement v labels table | pattern v labels table => [v, labels, table]
  | relationshipElement v type table way => [v, type, table, way]
  | related receiver v type table way => [receiver, v, type, table, way]
  | close receiver v labels table => [receiver, v, labels, table]
  | openChain elements pending => [elements, pending]
  | comparison _ left right => [left, right]
  | junction _ vs | create vs | statement vs | union vs => vs
  | call name vs => name :: vs
  | anyComparison operator left right => [operator, left, right]
  | anyJunction operator operands => [operator, operands]
  | anyColumn e name => [e, name]
  | anySortItem e way => [e, way]
  | read _ isOptional vs => isOptional :: vs
  | projection _ vs distinct => distinct :: vs
  | build _ b => b.arguments
  | direction v | asPattern v | expression v | check _ v | negation v | column v | columns v
  | sortItem v | anyNegation v | append _ v | keepDuplicates _ v => [v]

/-- The call is one that the library exports: operators and functions are its own, and an open chain
is given a tuple of elements. -/
def IsExported (s : Store) : Construction → Prop
  | openChain elements pending =>
    ∃ items, s.object? elements = some (.tuple items) ∧ ∀ i ∈ pending :: items, s.IsElement i
  | comparison operator _ _ => operator ∈ comparisonOperators
  | check operator _ => operator ∈ checkOperators
  | junction operator _ => operator ∈ junctionOperators
  | call name _ => ∃ word ∈ functionNames, name = .text word
  | asPattern _ | expression _ | column _ | columns _ | sortItem _ | anyComparison ..
  | anyJunction .. | anyNegation _ | anyColumn .. | anySortItem .. => False
  | _ => True

/-- A call that the library exports, on arguments that are there. -/
structure Exported (s : Store) (c : Construction) : Prop where
  isExported : c.IsExported s
  known : ∀ v ∈ c.arguments, s.KnowsWithin v

end Construction

/-! ### Places for literals -/

/-- The values that a builder is given where a literal can stand. -/
def Builder.literals (s : Store) : Builder → List Value
  | restrict v | relax v | skip v | limit v => [v]
  | assign vs => vs.filterMap s.second?
  | _ => []

/-- The values that a call is given where a literal can stand: the value of a parameter, operands,
predicates, values that are assigned, row counts, and the values of properties in patterns. -/
def Construction.literals (s : Store) : Construction → List Value
  | param v _ | check _ v | negation v => [v]
  | comparison _ left right => [left, right]
  | junction _ vs | call _ vs => vs
  | nodeElement _ _ table | pattern _ _ table | close _ _ _ table
  | relationshipElement _ _ table _ | related _ _ _ table _ => s.entryValues table
  | build _ b => b.literals s
  | _ => []

section Same

variable {R : Value → Value → Prop} {s : Store}

/-- A builder call is like itself, if what stands in the places for literals is related to
itself. -/
theorem Builder.Alike.same {b : Builder} (known : ∀ v ∈ b.arguments, s.KnowsWithin v)
    (related : ∀ v ∈ b.literals s, R v v) : b.Alike R s s b := by
  cases b with
  | path v => exact .path
  | restrict v =>
    exact .restrict (.same (known v (by simp [arguments])).known (related v List.mem_cons_self))
  | relax v =>
    exact .relax (.same (known v (by simp [arguments])).known (related v List.mem_cons_self))
  | assign vs =>
    refine .assign fun v mem => .same (known v mem) fun w second => ?_
    exact related w (List.mem_filterMap.mpr ⟨v, mem, second⟩)
  | remove vs => exact .remove
  | delete vs detach => exact .delete
  | project kind vs distinct =>
    refine .project (fun v mem => ?_) (.same (known distinct List.mem_cons_self).known)
    exact (Value.Sorting.same (known v (List.mem_cons_of_mem _ mem)).known).toPaired
  | orderBy vs => exact .orderBy fun v mem => .same (known v mem).known
  | skip v => exact .skip (.same (related v List.mem_cons_self))
  | limit v => exact .limit (.same (related v List.mem_cons_self))
  | makeOptional => exact .makeOptional

/-- An exported call is like itself, if what stands in the places for literals is related to
itself. -/
theorem Construction.Exported.alike_of_related {c : Construction} (h : c.Exported s)
    (related : ∀ v ∈ c.literals s, R v v) : c.Alike R s s c := by
  obtain ⟨exported, known⟩ := h
  cases c with
  | reference is stem => exact .reference
  | node stem labels? =>
    refine .node fun v eq => .same (known v ?_).known
    simp [arguments, eq]
  | relationship stem type => exact .relationship
  | param v stem => exact .param (related v List.mem_cons_self)
  | property base path => exact .property
  | propertyOf receiver path => exact .propertyOf
  | direction v => exact .direction
  | nodeElement v labels table =>
    exact .nodeElement (.same (known labels (by simp [arguments])).known)
      (.same (known table (by simp [arguments])) related)
  | relationshipElement v type table way =>
    exact .relationshipElement (.same (known type (by simp [arguments])).known)
      (.same (known table (by simp [arguments])) related)
  | pattern v labels table =>
    exact .pattern (.same (known labels (by simp [arguments])).known)
      (.same (known table (by simp [arguments])) related)
  | related receiver v type table way =>
    exact .related (.same (known type (by simp [arguments])).known)
      (.same (known table (by simp [arguments])) related)
  | close receiver v labels table =>
    exact .close (.same (known labels (by simp [arguments])).known)
      (.same (known table (by simp [arguments])) related)
  | openChain elements pending =>
    obtain ⟨items, found, isElement⟩ := exported
    exact .openChain found found fun i mem => ⟨isElement i mem, isElement i mem⟩
  | comparison operator left right =>
    exact .comparison exported
      (.same (known left (by simp [arguments])).known (related left (by simp [literals])))
      (.same (known right (by simp [arguments])).known (related right (by simp [literals])))
  | check operator v =>
    exact .check exported (.same (known v List.mem_cons_self).known (related v List.mem_cons_self))
  | junction operator vs =>
    refine .junction exported (List.forall₂_same.mpr fun v mem => ?_)
    exact .same (known v mem).known (related v mem)
  | negation v =>
    exact .negation (.same (known v List.mem_cons_self).known (related v List.mem_cons_self))
  | call name vs =>
    obtain ⟨word, mem, rfl⟩ := exported
    refine .call mem (List.forall₂_same.mpr fun v mem => ?_)
    exact .same (known v (List.mem_cons_of_mem _ mem)).known (related v mem)
  | read optionalClass isOptional vs =>
    exact .read (.same (known isOptional List.mem_cons_self).known)
  | create vs => exact .create
  | projection kind vs distinct =>
    refine .projection (fun v mem => ?_) (.same (known distinct List.mem_cons_self).known)
    exact (Value.Sorting.same (known v (List.mem_cons_of_mem _ mem)).known).toPaired
  | statement nodes => exact .statement
  | union branches => exact .union
  | build h b => exact .build (.same known related)
  | append h v => exact .append
  | keepDuplicates h all => exact .keepDuplicates (.same (known all List.mem_cons_self).known)
  | _ => cases exported

/-- An exported call is like itself. -/
theorem Construction.Exported.alike {c : Construction} (h : c.Exported s) :
    c.Alike (fun _ _ => True) s s c :=
  h.alike_of_related fun _ _ => trivial

end Same

/-! ### Assembled stores -/

namespace Store

/-- The stores that come of calls of the library and of collections and records that a caller makes,
in any order. A call may fail. -/
inductive Assembled : Store → Prop where
  | empty : Assembled .empty
  | call {s : Store} {c : Construction} : Assembled s → c.Exported s →
      Assembled (outcome c.perform.run s).2
  | hold {s : Store} {o : Object} : Assembled s → o.isData = true → Assembled (s.push o)

/-- A value is a literal or stands for something that can be written in a query. -/
def isPlain (s : Store) : Value → Bool
  | .atom _ _ => true
  | .object h => (s.get? h).any Object.isCompilable

/-- Literals and what can be written in a query are there, with all that they hold. -/
theorem knowsWithin_of_isPlain {s : Store} {vs : List Value} (plain : vs.all s.isPlain = true) :
    ∀ v ∈ vs, s.KnowsWithin v := by
  intro v mem
  have plain := List.all_eq_true.mp plain v mem
  cases v with
  | atom a mark => exact s.knowsWithin_atom a mark
  | object h =>
    cases found : s.get? h with
    | none => simp [isPlain, found] at plain
    | some o =>
      rw [isPlain, found] at plain
      exact Stands.knowsWithin ⟨o, found, plain⟩

/-- What is neither a collection nor a record is there, and holds nothing. -/
theorem knowsWithin_of_any {s : Store} {h : Nat}
    (any : (s.get? h).any (fun o => !o.isData) = true) : s.KnowsWithin (.object h) := by
  obtain ⟨o, behind, noData⟩ := (Option.any_eq_true _ _).mp any
  refine ⟨?_, fun _ found => ?_, fun _ found => ?_⟩
  · rintro _ ⟨⟩
    exact ⟨o, behind⟩
  all_goals
    cases behind.symm.trans found
    cases noData

/-- The store after calls one after another. -/
def called (s : Store) (calls : List Construction) : Store :=
  calls.foldl (fun s c => (outcome c.perform.run s).2) s

@[simp] theorem called_nil (s : Store) : s.called [] = s := rfl

@[simp] theorem called_cons (s : Store) (c : Construction) (calls : List Construction) :
    s.called (c :: calls) = (outcome c.perform.run s).2.called calls := rfl

/-- Every one of the calls is exported, on the arguments that are there when its turn comes. -/
inductive ExportedInTurn : Store → List Construction → Prop where
  | nil {s : Store} : ExportedInTurn s []
  | cons {s : Store} {c : Construction} {calls : List Construction} : c.Exported s →
      ExportedInTurn (outcome c.perform.run s).2 calls → ExportedInTurn s (c :: calls)

/-- A call on literals and on what can be written in a query is exported, and then the others are.
-/
theorem ExportedInTurn.plain {s : Store} {c : Construction} {calls : List Construction}
    (exported : c.IsExported s) (plain : c.arguments.all s.isPlain = true)
    (others : ExportedInTurn (outcome c.perform.run s).2 calls) : ExportedInTurn s (c :: calls) :=
  .cons ⟨exported, knowsWithin_of_isPlain plain⟩ others

/-- Calls one after another lead from one assembled store to another. -/
theorem Assembled.called {s : Store} {calls : List Construction} (h : s.Assembled)
    (exported : s.ExportedInTurn calls) : (s.called calls).Assembled := by
  induction exported with
  | nil => exact h
  | cons first _ ih => exact ih (.call h first)

/-- What the library has assembled is sound. -/
theorem Assembled.sound {s : Store} (h : s.Assembled) : s.Alike (fun _ _ => True) s := by
  induction h with
  | empty => exact alike_empty _
  | call _ exported ih => exact (agree_perform ih exported.alike).alike
  | hold _ isData ih => exact ih.push (.data isData isData)

end Store

end GraphQuery
