import GraphQuery.Proofs.Store.Expansion
import GraphQuery.Proofs.Store.Typing
import Mathlib.Data.Fintype.EquivFin
import Mathlib.Order.WellFounded

/-!
What an object contains.

An object contains the objects whose trees are parts of its own. Builders can bring it about that an
object contains itself, and then it cannot be written. Nor can it be if a part that is not checked
is of no use: the type of a relationship, or what a property is accessed of. In a typed store there
is no other way in which something can be stuck.

* `Object.parts`: the values that an object is made of.
* `Object.Usable`: what is not checked is of use.
* `Store.Contains`: an object contains another one.
* `Store.IsAcyclic`: nothing that is in an object contains itself.
* `Store.isWhole_of_usable`: in a typed store, nothing is stuck in an object that can be written, in
  which nothing contains itself and everything is usable.
* `Store.isWhole_tree`: in a strictly typed store, everything is usable.
-/

namespace GraphQuery

/-! ### Parts -/

/-- The values that an expression is made of. -/
def Expression.parts : Expression → List Value
  | property base _ => [base]
  | comparison _ left right => [left, right]
  | junction _ operands => operands.resolve id fun _ => []
  | negation operand => [operand]
  | call _ arguments => arguments.resolve id fun _ => []

/-- The values that an element of a chain is made of. -/
def Element.parts : Element → List Value
  | given v => [v]
  | _ => []

/-- The values that a projection is made of. -/
def Projection.parts (p : Projection) : List Value :=
  p.columns.map Column.expression ++ p.ordering.sortItems.map SortItem.expression

/-- The values that the head of a clause is made of. -/
def Head.parts : Head → List Value
  | project p => p.parts
  | head => head.patterns.map .object

/-- The values that a clause is made of. -/
def Clause.parts (c : Clause) : List Value :=
  c.head.parts ++ c.filter.toList ++ (c.assignments.getD []).flatMap (fun e => [e.1, e.2])
    ++ c.removals.getD [] ++ (c.passing.elim [] Projection.parts)
    ++ (c.returning.elim [] Projection.parts)

section Parts

variable {c : Clause} {v : Value}

theorem Clause.mem_parts_of_head (mem : v ∈ c.head.parts) : v ∈ c.parts := by
  simp [parts, mem]

theorem Clause.mem_parts_of_filter (eq : c.filter = some v) : v ∈ c.parts := by
  simp [parts, eq]

theorem Clause.mem_parts_of_assignment {e : Value × Value} (mem : e ∈ c.assignments.getD []) :
    e.1 ∈ c.parts ∧ e.2 ∈ c.parts := by
  have inside : ∀ v ∈ [e.1, e.2], v ∈ c.parts := by
    intro v this
    have among : v ∈ (c.assignments.getD []).flatMap fun e => [e.1, e.2] :=
      List.mem_flatMap.mpr ⟨e, mem, this⟩
    simp [parts, among]
  exact ⟨inside _ (by simp), inside _ (by simp)⟩

theorem Clause.mem_parts_of_removal (mem : v ∈ c.removals.getD []) : v ∈ c.parts := by
  simp [parts, mem]

theorem Clause.mem_parts_of_passing {p : Projection} (eq : c.passing = some p)
    (mem : v ∈ p.parts) : v ∈ c.parts := by
  simp [parts, eq, mem]

theorem Clause.mem_parts_of_returning {p : Projection} (eq : c.returning = some p)
    (mem : v ∈ p.parts) : v ∈ c.parts := by
  simp [parts, eq, mem]

end Parts

/-- The values that an object is made of. -/
def Object.parts : Object → List Value
  | expression e => e.parts
  | pattern p => p.elements.resolve (fun es => es.flatMap Element.parts) fun _ => []
  | clause c => c.parts
  | statement nodes | union nodes _ => nodes.map .object
  | _ => []

/-- A collection or a record is no part of a query, and it is made of nothing. -/
theorem Object.parts_of_isData {o : Object} (isData : o.isData = true) : o.parts = [] := by
  cases o with
  | list | tuple | dict | environment | looseEnvironment | settings | compiled | error | handler =>
    rfl
  | _ => cases isData

/-- The value is a literal, or what it refers to is older than an object. -/
def Value.isBefore (h : Nat) : Value → Bool
  | object g => decide (g < h)
  | atom _ _ => true

namespace Store

variable (s : Store)

/-- An object is made of another one. -/
def Contains (h g : Nat) : Prop := ∃ o, s.get? h = some o ∧ .object g ∈ o.parts

/-- All objects are made of older ones. -/
def isLayered : Bool :=
  (List.range s.next).all fun h => (s.get? h).all fun o => o.parts.all (Value.isBefore h)

/-- Nothing that is in an object is in itself. -/
def IsAcyclic (h : Nat) : Prop :=
  ∀ g, Relation.ReflTransGen s.Contains h g → ¬ Relation.TransGen s.Contains g g

end Store

/-! ### Parts that are not checked -/

section Usable

variable (s : Store)

/-- The type of a relationship counts as false, or it is a name. -/
def RelationshipElement.Usable (r : RelationshipElement) : Prop :=
  r.type.truth s.view = true → ∃ n, r.type.name? = some n

/-- What is accessed can be written, and so can the types of relationships. -/
def Object.Usable : Object → Prop
  | expression (.property base _) => s.Stands base
  | relationshipElement r => r.Usable s
  | pattern p => ∀ es, p.elements = .made es → ∀ r, .relationship r ∈ es → r.Usable s
  | _ => True

variable {s}

/-- What is none counts as false. -/
theorem Value.truth_of_isNull {v : Value} (isNull : v.isNull = true) : v.truth s.view = false := by
  cases v with
  | object h => cases isNull
  | atom a mark =>
    cases a with
    | null => rfl
    | _ => cases isNull

theorem RelationshipElement.Typed.usable {r : RelationshipElement} (typed : r.Typed True) :
    r.Usable s := by
  intro truth
  refine (typed trivial).resolve_left fun isNull => ?_
  rw [Value.truth_of_isNull isNull] at truth
  cases truth

/-- A strict caller gives what is of use. -/
theorem Object.Typed.usable {o : Object} (typed : o.Typed True s) : o.Usable s := by
  cases o with
  | expression e =>
    cases typed with
    | property refers => exact (refers trivial).stands
    | _ => trivial
  | relationshipElement r => exact RelationshipElement.Typed.usable typed
  | pattern p => exact fun es made r mem => RelationshipElement.Typed.usable (typed es made _ mem)
  | _ => trivial

end Usable

/-! ### Trees of typed objects -/

section Trees

variable {s s' : Store} {inner : Value → Tree}

theorem entriesWhole_map (ps : List (Name × Param)) :
    Tree.entriesWhole (ps.map propertyTree) = true := by
  induction ps with
  | nil => rfl
  | cons p ps ih => exact ih

theorem allWhole_map {α : Type} {tree : α → Tree} {as : List α}
    (whole : ∀ a ∈ as, (tree a).isWhole = true) : Tree.allWhole (as.map tree) = true := by
  rw [Tree.allWhole_iff, List.forall_mem_map]
  exact whole

/-- A column of what is whole is whole. -/
theorem Column.Typed.isWhole {c : Column} (typed : c.Typed s)
    (part : s.Stands c.expression → (inner c.expression).isWhole = true) :
    (c.tree inner s.variableOf?).isWhole = true := by
  cases typed with
  | star => rfl
  | @bare e stands =>
    have given : e.given? = some e := by simp [Value.given?, stands.isNull_eq]
    simp only [Column.tree, given]
    exact part stands
  | @named e name stands isAlias =>
    have given : e.given? = some e := by simp [Value.given?, stands.isNull_eq]
    simp only [Column.tree, given]
    rcases isAlias with ⟨id, stem, found⟩ | ⟨n, named, -⟩
    · have named : name.given? = some name := by
        cases name with
        | object h => rfl
        | atom a mark => cases found
      simp only [named, Store.variableOf?, found]
      exact part stands
    · have none : s.variableOf? name = none := by
        cases name with
        | object h => cases named
        | atom a mark => rfl
      simp only [Value.given?_of_name? named, none, named]
      exact part stands

/-- A projection of what is whole is whole. -/
theorem Projection.Typed.isWhole {p : Projection} (typed : p.Typed s)
    (exported : ∀ i ∈ p.ordering.sortItems, i.Exported)
    (parts : ∀ v ∈ p.parts, s.Stands v → (inner v).isWhole = true) :
    (s.projectionTree inner p).isWhole = true := by
  refine (Bool.and_eq_true _ _).mpr ⟨allWhole_map fun c mem => ?_, allWhole_map fun i mem => ?_⟩
  · exact (typed.columns c mem).isWhole
      (parts _ (List.mem_append_left _ (List.mem_map_of_mem mem)))
  · have part := parts i.expression (List.mem_append_right _ (List.mem_map_of_mem mem))
      (typed.sortItems i mem)
    cases exported i mem with
    | made _ =>
      unfold SortItem.tree
      split
      · exact part
      · exact part

namespace Store

section Slots

variable (s : Store) (inner : Value → Tree) (c : Clause) {t : Tree}

/-- Assignments are written if there are any. -/
theorem slotTree?_assignment_iff : s.slotTree? inner c .assignment = some t ↔
    c.assignments.getD [] ≠ [] ∧
      t = .assignments ((c.assignments.getD []).map fun e => (inner e.1, inner e.2)) := by
  simp only [slotTree?]
  split
  · rename_i none
    simp [none]
  · rename_i given
    exact ⟨fun eq => ⟨given, (Option.some.inj eq).symm⟩, fun eq => congrArg some eq.2.symm⟩

/-- Removals are written if there are any. -/
theorem slotTree?_removal_iff : s.slotTree? inner c .removal = some t ↔
    c.removals.getD [] ≠ [] ∧ t = .removals ((c.removals.getD []).map inner) := by
  simp only [slotTree?]
  split
  · rename_i none
    simp [none]
  · rename_i given
    exact ⟨fun eq => ⟨given, (Option.some.inj eq).symm⟩, fun eq => congrArg some eq.2.symm⟩

/-- Deletions are written if there are any. -/
theorem slotTree?_deletion_iff :
    let d := c.deletion.getD ⟨[], false⟩
    s.slotTree? inner c .deletion = some t ↔ d.references ≠ [] ∧
      t = .deletions d.detach (d.references.map fun r => .label (.reference r)) := by
  simp only [slotTree?]
  split
  · rename_i none
    simp [none]
  · rename_i none
    simp [none]
  · rename_i references detach given eq
    rw [eq]
    exact ⟨fun eq => ⟨given, (Option.some.inj eq).symm⟩, fun eq => congrArg some eq.2.symm⟩

end Slots

/-- What is in a slot is whole if its parts are. -/
theorem isWhole_slotTree {c : Clause} (typed : c.Typed s) (alike : c.Alike s s' c)
    (parts : ∀ v ∈ c.parts, s.Stands v → (inner v).isWhole = true) {slot : Slot} {t : Tree}
    (found : s.slotTree? inner c slot = some t) : t.isWhole = true := by
  cases slot with
  | path => cases found
  | filter =>
    obtain ⟨v, eq, rfl⟩ := Option.map_eq_some_iff.mp found
    exact parts v (c.mem_parts_of_filter eq) (typed.filter v eq)
  | assignment =>
    obtain ⟨-, rfl⟩ := (slotTree?_assignment_iff s inner c).mp found
    rw [Tree.isWhole, Tree.pairsWhole_iff, List.forall_mem_map]
    intro e mem
    obtain ⟨left, right⟩ := c.mem_parts_of_assignment mem
    obtain ⟨target, value⟩ := typed.assignments e mem
    exact ⟨parts _ left target.stands, parts _ right value⟩
  | removal =>
    obtain ⟨-, rfl⟩ := (slotTree?_removal_iff s inner c).mp found
    refine allWhole_map fun v mem => ?_
    exact parts v (c.mem_parts_of_removal mem) (typed.removals v mem).stands
  | deletion =>
    obtain ⟨-, rfl⟩ := (slotTree?_deletion_iff s inner c).mp found
    exact allWhole_map fun _ _ => rfl
  | passing =>
    obtain ⟨p, eq, rfl⟩ := Option.map_eq_some_iff.mp found
    have like := alike.passing
    rw [eq] at like
    cases like with
    | some like =>
      exact (typed.passing p eq).isWhole like.ordering.exported fun v mem =>
        parts v (c.mem_parts_of_passing eq mem)
  | returning =>
    obtain ⟨p, eq, rfl⟩ := Option.map_eq_some_iff.mp found
    have like := alike.returning
    rw [eq] at like
    cases like with
    | some like =>
      exact (typed.returning p eq).isWhole like.ordering.exported fun v mem =>
        parts v (c.mem_parts_of_returning eq mem)

/-- A clause is whole if its parts are. -/
theorem isWhole_clauseTree {c : Clause} (typed : c.Typed s) (alike : c.Alike s s' c)
    (parts : ∀ v ∈ c.parts, s.Stands v → (inner v).isWhole = true) :
    (s.clauseTree inner c).isWhole = true := by
  have fragments : Tree.allWhole (s.fragmentTrees inner c) = true := by
    rw [Tree.allWhole_iff]
    intro t mem
    obtain ⟨slot, -, found⟩ := List.mem_filterMap.mp mem
    exact isWhole_slotTree typed alike parts found
  have head : ∀ v ∈ c.head.parts, s.Stands v → (inner v).isWhole = true :=
    fun v mem => parts v (c.mem_parts_of_head mem)
  have patterns : ∀ h ∈ c.head.patterns, s.Stands (.object h) :=
    fun h mem => (typed.patterns h mem).stands
  unfold clauseTree
  cases eq : c.head with
  | read optionalClass isOptional hs =>
    rw [eq] at head patterns
    refine (Bool.and_eq_true _ _).mpr ⟨allWhole_map fun h mem => ?_, fragments⟩
    exact head _ (List.mem_map_of_mem mem) (patterns h mem)
  | create hs =>
    rw [eq] at head patterns
    refine (Bool.and_eq_true _ _).mpr ⟨allWhole_map fun h mem => ?_, fragments⟩
    exact head _ (List.mem_map_of_mem mem) (patterns h mem)
  | project p =>
    have like := alike.head
    rw [eq] at head like
    cases like with
    | project like =>
      refine (Bool.and_eq_true _ _).mpr ⟨?_, fragments⟩
      exact (typed.body p eq).isWhole like.ordering.exported head

end Store

/-- An expression is whole if its operands are. -/
theorem Expression.Typed.isWhole {strict : Prop} {e : Expression} (typed : e.Typed strict s)
    (usable : Object.Usable s (.expression e))
    (parts : ∀ v ∈ e.parts, s.Stands v → (inner v).isWhole = true) :
    (e.tree s.view inner).isWhole = true := by
  cases typed with
  | property => exact parts _ List.mem_cons_self usable
  | @comparison operator left right left_stands right_stands =>
    have given : right.given? = some right := by simp [Value.given?, right_stands.isNull_eq]
    simp only [Expression.tree, given]
    exact (Bool.and_eq_true _ _).mpr ⟨parts left (by simp [Expression.parts]) left_stands,
      parts right (by simp [Expression.parts]) right_stands⟩
  | @check operator operand stands => exact parts operand (by simp [Expression.parts]) stands
  | @junction operator operands _ stand =>
    exact allWhole_map fun v mem => parts v mem (stand v mem)
  | @negation operand stands => exact parts operand (by simp [Expression.parts]) stands
  | @call name arguments stand => exact allWhole_map fun v mem => parts v mem (stand v mem)

/-- A type comes to a name or to none just in case it is of use. -/
theorem RelationshipElement.usable_iff {r : RelationshipElement} :
    r.Usable s ↔ ∃ type?, typeOf s.view r.type = .ok type? := by
  unfold Usable typeOf
  cases r.type.truth s.view with
  | false => simp
  | true => cases r.type.name? <;> simp

/-- A relationship is whole just in case its type is of use. -/
theorem RelationshipElement.Alike.isWhole_iff {r : RelationshipElement} (alike : r.Alike s s' r) :
    (r.tree s.view s.bearer inner).isWhole = true ↔ r.Usable s := by
  rw [usable_iff]
  cases alike with
  | @made _ type ps _ _ _ _ _ =>
    simp only [RelationshipElement.tree, Attribute.resolve, propertyTrees]
    cases typeOf s.view type with
    | ok type? => exact iff_of_true (entriesWhole_map ps) ⟨type?, rfl⟩
    | error f => simp [Tree.isWhole]

/-- A node of a pattern is whole. -/
theorem NodeElement.Alike.isWhole {n n' : NodeElement} (alike : n.Alike s s' n') :
    (n.tree s.view s.bearer inner).isWhole = true := by
  cases alike with
  | made _ _ =>
    simp only [NodeElement.tree, Attribute.resolve, Attribute.names, propertyTrees]
    exact entriesWhole_map _

/-- An element of a chain is whole if what was given for it is. -/
theorem Element.Alike.isWhole {e : Element} (alike : e.Alike s s' e)
    (usable : ∀ r, e = .relationship r → r.Usable s)
    (parts : ∀ v ∈ e.parts, s.Stands v → (inner v).isWhole = true) :
    (e.tree s.view s.bearer inner).isWhole = true := by
  cases alike with
  | node alike => exact alike.isWhole
  | relationship alike => exact alike.isWhole_iff.mpr (usable _ rfl)
  | @given v isElement _ =>
    refine parts v List.mem_cons_self ?_
    rcases isElement with ⟨n, found⟩ | ⟨r, found⟩
    · exact ⟨_, found, rfl⟩
    · exact ⟨_, found, rfl⟩

namespace Store

/-- An object that can be written is whole if its parts are and what is not checked is of use. -/
theorem isWhole_treeOf {R : Value → Value → Prop} {strict : Prop} (unassigned : s.assignments = [])
    {h : Nat} {o : Object} (typed : o.Typed strict s) (alike : Object.Alike R s s' h o o)
    (compilable : o.isCompilable = true) (usable : o.Usable s)
    (parts : ∀ v ∈ o.parts, s.Stands v → (inner v).isWhole = true) :
    (s.treeOf inner h o).isWhole = true := by
  cases alike with
  | reference _ | param _ => rfl
  | expression _ => exact Expression.Typed.isWhole typed usable parts
  | nodeElement alike => exact alike.isWhole
  | relationshipElement alike => exact alike.isWhole_iff.mpr usable
  | @pattern es _ alike =>
    have like := List.forall₂_same.mp alike
    refine allWhole_map fun e mem => ?_
    refine (like e mem).isWhole (fun r eq => usable es rfl r (eq ▸ mem)) fun v part => ?_
    exact parts v (List.mem_flatMap.mpr ⟨e, mem, part⟩)
  | chain _ => cases compilable
  | @clause c _ alike =>
    simp only [treeOf, isReassigned_eq_false unassigned, Bool.false_eq_true, if_false]
    exact isWhole_clauseTree typed alike parts
  | @statement nodes =>
    simp only [treeOf, nodesOf, standIn?_eq_none unassigned, ofValues, List.map_map]
    exact allWhole_map fun g mem => parts _ (List.mem_map_of_mem mem) (typed g mem).stands
  | @union branches all _ =>
    simp only [treeOf, branchesOf, standIn?_eq_none unassigned, ofValues, List.map_map]
    exact allWhole_map fun g mem => parts _ (List.mem_map_of_mem mem) (typed.2 g mem).stands
  | data isData _ =>
    rw [Object.isCompilable_of_isData isData] at compilable
    cases compilable

end Store

end Trees

/-! ### Objects that do not contain themselves -/

namespace Store

variable {s : Store}

/-- Where nothing contains itself, something can be shown of an object from the objects that it
contains. There are only so many objects, so this comes to an end. -/
theorem IsAcyclic.induction {P : Nat → Prop} {h : Nat} (acyclic : s.IsAcyclic h) (lt : h < s.next)
    (step : ∀ g, (∀ i, i < s.next → s.Contains g i → P i) → P g) : P h := by
  let inside := {g : Fin s.next // Relation.ReflTransGen s.Contains h g}
  let before : inside → inside → Prop := fun g i => Relation.TransGen s.Contains i.1 g.1
  have : IsTrans inside before := ⟨fun _ _ _ first second => second.trans first⟩
  have : Std.Irrefl before := ⟨fun g cycle => acyclic g.1 g.2 cycle⟩
  have wellFounded : WellFounded before := Finite.wellFounded_of_trans_of_irrefl before
  refine wellFounded.induction (C := fun g => P g.1) ⟨⟨h, lt⟩, .refl⟩ fun g ih => ?_
  exact step g.1 fun i lt contains => ih ⟨⟨i, lt⟩, g.2.tail contains⟩ (.single contains)

/-- Where all objects are made of older ones, whatever is in an object is older. -/
theorem lt_of_isLayered (layered : s.isLayered = true) {h g : Nat}
    (path : Relation.TransGen s.Contains h g) : g < h := by
  have older : ∀ h g, s.Contains h g → g < h := by
    rintro h g ⟨o, found, part⟩
    have ofHandle := List.all_eq_true.mp layered h (List.mem_range.mpr (lt_of_get? found))
    rw [found] at ofHandle
    exact of_decide_eq_true (List.all_eq_true.mp ofHandle _ part)
  induction path with
  | single contains => exact older _ _ contains
  | tail _ contains ih => exact Nat.lt_trans (older _ _ contains) ih

/-- Where all objects are made of older ones, an older object is apart from a newer one. -/
theorem not_reaches_of_isLayered (layered : s.isLayered = true) {g h : Nat} (lt : g < h) :
    ¬ Relation.ReflTransGen s.Contains g h := by
  intro reaches
  rcases Relation.reflTransGen_iff_eq_or_transGen.mp reaches with rfl | path
  · exact Nat.lt_irrefl h lt
  · exact Nat.lt_asymm lt (lt_of_isLayered layered path)

/-- Where all objects are made of older ones, nothing contains itself. -/
theorem isAcyclic_of_isLayered (layered : s.isLayered = true) (h : Nat) : s.IsAcyclic h :=
  fun g _ cycle => Nat.lt_irrefl g (lt_of_isLayered layered cycle)

/-- Everything in an object is usable. -/
def IsUsable (s : Store) (h : Nat) : Prop :=
  ∀ ⦃g o⦄, Relation.ReflTransGen s.Contains h g → s.get? g = some o → o.Usable s

/-- Nothing is stuck in an object that can be written, in which nothing contains itself and
everything is usable. -/
theorem isWhole_of_usable {R : Value → Value → Prop} {strict : Prop} (like : s.Alike R s)
    (typed : s.Typed strict) {h : Nat} (stands : s.Stands (.object h)) (acyclic : s.IsAcyclic h)
    (usable : s.IsUsable h) : (s.tree h).isWhole = true := by
  obtain ⟨o, found, compilable⟩ := stands
  refine acyclic.induction (P := fun g => Relation.ReflTransGen s.Contains h g →
    ∀ o, s.get? g = some o → o.isCompilable = true → (s.tree g).isWhole = true)
    (lt_of_get? found) ?_ .refl o found compilable
  intro g ih inside o found compilable
  rw [← (tree_coincides like found).isWhole_eq]
  refine isWhole_treeOf like.unassigned (typed.objects found) (like.objects found found) compilable
    (usable inside found) fun v part stands => ?_
  obtain ⟨o', found', compilable'⟩ := stands
  cases v with
  | atom a mark => cases found'
  | object i =>
    have contains : s.Contains g i := ⟨o, found, part⟩
    rw [valueTree_object]
    exact ih i (lt_of_get? found') contains (inside.tail contains) o' found' compilable'

/-- In a strictly typed store, nothing is stuck in an object that can be written and in which
nothing contains itself. -/
theorem isWhole_tree {R : Value → Value → Prop} (like : s.Alike R s) (typed : s.Typed True)
    {h : Nat} (stands : s.Stands (.object h)) (acyclic : s.IsAcyclic h) :
    (s.tree h).isWhole = true :=
  isWhole_of_usable like typed stands acyclic fun _ _ _ found => (typed.objects found).usable

end Store

end GraphQuery
