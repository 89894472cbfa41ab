import GraphQuery.Proofs.Store.Addition

/-!
The tree of an object depends on it and on the trees of its parts, and on nothing else.

The parts of an object tell all that it takes from other objects: its tree stays the same when the
trees of its parts do, and where writing does not end, it does not end in one of the parts.

* `Tree.Ends`: nothing is met inside of itself in a tree.
* `Store.treeOf_congr`: an object has the same tree when its parts have.
* `Store.ends_treeOf`: nothing is met inside of itself in an object if nothing is in its parts.
* `Store.ends_tree`: nothing is met inside of itself in an object in which nothing contains itself.
-/

namespace GraphQuery

/-! ### Objects with the same parts -/

section Same

variable {inner inner' : Value → Tree} {s : Store}

/-- An expression is the same when its operands are. -/
theorem Expression.Exported.tree_congr {e : Expression} (exported : e.Exported) (view : ObjectView)
    (same : ∀ v ∈ e.parts, inner' v = inner v) : e.tree view inner' = e.tree view inner := by
  cases exported with
  | property => exact congrArg (Tree.property · _) (same _ List.mem_cons_self)
  | @comparison operator left right _ notNull =>
    have given : right.given? = some right := by simp [Value.given?, notNull]
    simp only [Expression.tree, given]
    exact congrArg₂ (Tree.comparison operator) (same left (by simp [parts]))
      (same right (by simp [parts]))
  | @check operator operand _ =>
    exact congrArg (Tree.check operator) (same operand (by simp [parts]))
  | junction => exact congrArg (Tree.junction _) (List.map_congr_left same)
  | negation => exact congrArg Tree.negation (same _ List.mem_cons_self)
  | call => exact congrArg (Tree.call _) (List.map_congr_left same)

/-- A column is the same when its expression is. -/
theorem Column.tree_congr (c : Column) (variableOf : Value → Option Bearer)
    (same : inner' c.expression = inner c.expression) :
    c.tree inner' variableOf = c.tree inner variableOf := by
  unfold Column.tree
  cases given : c.expression.given? with
  | none => rfl
  | some e =>
    rw [Value.eq_of_given? given] at same
    cases c.name.given? with
    | none => exact congrArg Tree.column same
    | some name =>
      dsimp only
      rw [same]

namespace Store

/-- A projection is the same when what it is made of is. -/
theorem projectionTree_congr {p : Projection} (same : ∀ v ∈ p.parts, inner' v = inner v) :
    s.projectionTree inner' p = s.projectionTree inner p := by
  have columns : p.columns.map (Column.tree inner' s.variableOf?) =
      p.columns.map (Column.tree inner s.variableOf?) := by
    refine List.map_congr_left fun c mem => c.tree_congr _ (same _ ?_)
    exact List.mem_append_left _ (List.mem_map_of_mem mem)
  have sortItems : p.ordering.sortItems.map (SortItem.tree s.view inner') =
      p.ordering.sortItems.map (SortItem.tree s.view inner) := by
    refine List.map_congr_left fun i mem => ?_
    rw [SortItem.tree, SortItem.tree,
      same _ (List.mem_append_right _ (List.mem_map_of_mem mem))]
  simp only [projectionTree, columns, sortItems]

/-- What is in a slot is the same when what the clause is made of is. -/
theorem slotTree?_congr {c : Clause} (same : ∀ v ∈ c.parts, inner' v = inner v) (slot : Slot) :
    s.slotTree? inner' c slot = s.slotTree? inner c slot := by
  cases slot with
  | filter =>
    cases eq : c.filter with
    | none => simp only [slotTree?, eq, Option.map_none]
    | some v => simp only [slotTree?, eq, Option.map_some, same v (c.mem_parts_of_filter eq)]
  | assignment =>
    have entries : (c.assignments.getD []).map (fun e => (inner' e.1, inner' e.2)) =
        (c.assignments.getD []).map fun e => (inner e.1, inner e.2) := by
      refine List.map_congr_left fun e mem => ?_
      obtain ⟨left, right⟩ := c.mem_parts_of_assignment mem
      rw [same _ left, same _ right]
    simp only [slotTree?]
    split
    · rfl
    · rw [entries]
  | removal =>
    have properties : (c.removals.getD []).map inner' = (c.removals.getD []).map inner :=
      List.map_congr_left fun v mem => same v (c.mem_parts_of_removal mem)
    simp only [slotTree?]
    split
    · rfl
    · rw [properties]
  | passing =>
    cases eq : c.passing with
    | none => simp only [slotTree?, eq, Option.map_none]
    | some p =>
      have projection : s.projectionTree inner' p = s.projectionTree inner p :=
        projectionTree_congr fun v mem => same v (c.mem_parts_of_passing eq mem)
      simp only [slotTree?, eq, Option.map_some, projection]
  | returning =>
    cases eq : c.returning with
    | none => simp only [slotTree?, eq, Option.map_none]
    | some p =>
      have projection : s.projectionTree inner' p = s.projectionTree inner p :=
        projectionTree_congr fun v mem => same v (c.mem_parts_of_returning eq mem)
      simp only [slotTree?, eq, Option.map_some, projection]
  | _ => rfl

/-- A clause is the same when what it is made of is. -/
theorem clauseTree_congr {c : Clause} (same : ∀ v ∈ c.parts, inner' v = inner v) :
    s.clauseTree inner' c = s.clauseTree inner c := by
  have fragments : s.fragmentTrees inner' c = s.fragmentTrees inner c :=
    List.filterMap_congr fun slot _ => slotTree?_congr same slot
  have head : ∀ v ∈ c.head.parts, inner' v = inner v :=
    fun v mem => same v (c.mem_parts_of_head mem)
  have patterns : ∀ hs : List Nat, (∀ v ∈ hs.map Value.object, inner' v = inner v) →
      (hs.map fun h => inner' (.object h)) = hs.map fun h => inner (.object h) :=
    fun hs same => List.map_congr_left fun h mem => same _ (List.mem_map_of_mem mem)
  unfold clauseTree
  cases eq : c.head with
  | read _ _ hs =>
    rw [eq] at head
    simp only [fragments, patterns hs head]
  | create hs =>
    rw [eq] at head
    simp only [fragments, patterns hs head]
  | project p =>
    rw [eq] at head
    simp only [fragments, projectionTree_congr head]

/-- An object of the library has the same tree when its parts have. -/
theorem treeOf_congr {R : Value → Value → Prop} (unassigned : s.assignments = []) {h : Nat}
    {o : Object} (alike : Object.Alike R s s h o o) (same : ∀ v ∈ o.parts, inner' v = inner v) :
    s.treeOf inner' h o = s.treeOf inner h o := by
  have handles : ∀ hs : List Nat, (∀ v ∈ hs.map Value.object, inner' v = inner v) →
      hs.map (inner' ∘ Value.object) = hs.map (inner ∘ Value.object) :=
    fun hs same => List.map_congr_left fun h mem => same _ (List.mem_map_of_mem mem)
  cases alike with
  | reference _ | param _ | chain _ => rfl
  | expression exported => exact exported.tree_congr s.view same
  | nodeElement alike =>
    cases alike
    rfl
  | relationshipElement alike =>
    cases alike
    rfl
  | @pattern es _ alike =>
    refine congrArg Tree.pattern (List.map_congr_left fun e mem => ?_)
    have same : ∀ v ∈ e.parts, inner' v = inner v :=
      fun v part => same v (List.mem_flatMap.mpr ⟨e, mem, part⟩)
    cases List.forall₂_same.mp alike e mem with
    | node alike =>
      cases alike
      rfl
    | relationship alike =>
      cases alike
      rfl
    | given _ _ => exact same _ List.mem_cons_self
  | clause _ =>
    simp only [treeOf, isReassigned_eq_false unassigned, Bool.false_eq_true, if_false]
    exact clauseTree_congr same
  | @statement nodes =>
    simp only [treeOf, nodesOf, standIn?_eq_none unassigned, ofValues, List.map_map,
      handles nodes same]
  | @union branches all _ =>
    simp only [treeOf, branchesOf, standIn?_eq_none unassigned, ofValues, List.map_map,
      handles branches same]
  | data isData _ => cases o <;> cases isData <;> rfl

end Store

end Same

/-! ### Trees that end -/

namespace Tree

/-- Nothing is met inside of itself in the tree. -/
def Ends (t : Tree) : Prop := .endless ∉ t.faults

theorem ends_of_forall {ts : List Tree} (ends : ∀ t ∈ ts, t.Ends) : .endless ∉ allFaults ts := by
  rw [allFaults_eq, List.mem_flatMap]
  exact fun ⟨t, mem, fault⟩ => ends t mem fault

theorem ends_map {α : Type} {tree : α → Tree} {as : List α} (ends : ∀ a ∈ as, (tree a).Ends) :
    .endless ∉ allFaults (as.map tree) :=
  ends_of_forall (List.forall_mem_map.mpr ends)

theorem entryFaults_propertyTrees (ps : List (Name × Param)) :
    entryFaults (ps.map propertyTree) = [] := by
  induction ps with
  | nil => rfl
  | cons p ps ih => exact ih

end Tree

section Ending

open GraphQuery.Tree (Ends faults ends_of_forall ends_map entryFaults_propertyTrees)

variable {inner : Value → Tree} {s : Store}

/-- An expression ends if its operands do. -/
theorem Expression.Exported.ends {e : Expression} (exported : e.Exported) (view : ObjectView)
    (parts : ∀ v ∈ e.parts, (inner v).Ends) : (e.tree view inner).Ends := by
  cases exported with
  | property => exact parts _ List.mem_cons_self
  | @comparison operator left right _ notNull =>
    have given : right.given? = some right := by simp [Value.given?, notNull]
    have left := parts left (by simp [Expression.parts])
    have right := parts right (by simp [Expression.parts])
    simp only [Expression.tree, given]
    exact fun mem => (List.mem_append.mp mem).elim left right
  | @check operator operand _ => exact parts operand (by simp [Expression.parts])
  | junction => exact ends_map parts
  | negation => exact parts _ List.mem_cons_self
  | call => exact ends_map parts

/-- A column ends if its expression does. -/
theorem Column.ends (c : Column) (variableOf : Value → Option Bearer)
    (part : (inner c.expression).Ends) : (c.tree inner variableOf).Ends := by
  unfold Column.tree
  cases given : c.expression.given? with
  | none => exact List.not_mem_nil
  | some e =>
    rw [Value.eq_of_given? given] at part
    cases c.name.given? with
    | none => exact part
    | some name =>
      dsimp only
      split
      · exact part
      · exact part
      · simpa [Ends, faults, Tree.allFaults] using part

/-- A sort item ends if its expression does. -/
theorem SortItem.Exported.ends {i : SortItem} (exported : i.Exported) (view : ObjectView)
    (part : (inner i.expression).Ends) : (i.tree view inner).Ends := by
  cases exported
  unfold SortItem.tree
  split
  · exact part
  · exact part

/-- The type of a relationship is nothing that could go on without an end. -/
theorem RelationshipElement.Alike.ends {s' : Store} {r r' : RelationshipElement}
    (alike : r.Alike s s' r') : (r.tree s.view s.bearer inner).Ends := by
  cases alike with
  | @made _ type ps _ _ _ _ _ =>
    have faults_eq : ∀ f, typeOf s.view type = .error f → f = .wrongType := by
      intro f eq
      unfold typeOf at eq
      split at eq
      · cases named : type.name? with
        | none =>
          rw [named] at eq
          exact (Except.error.inj eq).symm
        | some n =>
          rw [named] at eq
          cases eq
      · cases eq
    simp only [RelationshipElement.tree, Attribute.resolve, propertyTrees]
    cases eq : typeOf s.view type with
    | ok type? => simp [Ends, faults, entryFaults_propertyTrees]
    | error f => simp [Ends, faults, Tree.allFaults, faults_eq f eq]

theorem NodeElement.Alike.ends {s' : Store} {n n' : NodeElement} (alike : n.Alike s s' n') :
    (n.tree s.view s.bearer inner).Ends := by
  cases alike
  simp [NodeElement.tree, Attribute.resolve, Attribute.names, propertyTrees, Ends, faults,
    entryFaults_propertyTrees]

namespace Store

/-- A projection ends if what it is made of does. -/
theorem ends_projectionTree {p : Projection} (exported : ∀ i ∈ p.ordering.sortItems, i.Exported)
    (parts : ∀ v ∈ p.parts, (inner v).Ends) : (s.projectionTree inner p).Ends := by
  intro mem
  rcases List.mem_append.mp mem with mem | mem
  · refine ends_map (fun c mem => ?_) mem
    exact c.ends _ (parts _ (List.mem_append_left _ (List.mem_map_of_mem mem)))
  · refine ends_map (fun i mem => ?_) mem
    exact (exported i mem).ends _ (parts _ (List.mem_append_right _ (List.mem_map_of_mem mem)))

/-- What is in a slot ends if what the clause is made of does. -/
theorem ends_slotTree {s' : Store} {c : Clause} (alike : c.Alike s s' c)
    (parts : ∀ v ∈ c.parts, (inner v).Ends) {slot : Slot} {t : Tree}
    (found : s.slotTree? inner c slot = some t) : t.Ends := by
  cases slot with
  | path => cases found
  | filter =>
    obtain ⟨v, eq, rfl⟩ := Option.map_eq_some_iff.mp found
    exact parts v (c.mem_parts_of_filter eq)
  | assignment =>
    simp only [slotTree?] at found
    split at found
    · cases found
    · cases found
      simp only [Ends, faults, Tree.pairFaults_eq, List.flatMap_map, List.mem_flatMap, not_exists,
        not_and, List.mem_append, not_or]
      intro e mem
      obtain ⟨left, right⟩ := c.mem_parts_of_assignment mem
      exact ⟨parts _ left, parts _ right⟩
  | removal =>
    simp only [slotTree?] at found
    split at found
    · cases found
    · cases found
      exact ends_map fun v mem => parts v (c.mem_parts_of_removal mem)
  | deletion =>
    simp only [slotTree?] at found
    split at found
    · cases found
    · cases found
    · cases found
      exact ends_map fun _ _ => List.not_mem_nil
  | passing =>
    obtain ⟨p, eq, rfl⟩ := Option.map_eq_some_iff.mp found
    have like := alike.passing
    rw [eq] at like
    cases like with
    | some like =>
      exact ends_projectionTree like.ordering.exported fun v mem =>
        parts v (c.mem_parts_of_passing eq mem)
  | returning =>
    obtain ⟨p, eq, rfl⟩ := Option.map_eq_some_iff.mp found
    have like := alike.returning
    rw [eq] at like
    cases like with
    | some like =>
      exact ends_projectionTree like.ordering.exported fun v mem =>
        parts v (c.mem_parts_of_returning eq mem)

/-- A clause ends if what it is made of does. -/
theorem ends_clauseTree {s' : Store} {c : Clause} (alike : c.Alike s s' c)
    (parts : ∀ v ∈ c.parts, (inner v).Ends) : (s.clauseTree inner c).Ends := by
  have fragments : .endless ∉ Tree.allFaults (s.fragmentTrees inner c) := by
    refine ends_of_forall fun t mem => ?_
    obtain ⟨slot, -, found⟩ := List.mem_filterMap.mp mem
    exact ends_slotTree alike parts found
  have head : ∀ v ∈ c.head.parts, (inner v).Ends :=
    fun v mem => parts v (c.mem_parts_of_head mem)
  have like := alike.head
  unfold clauseTree
  cases eq : c.head with
  | read _ _ hs | create hs =>
    rw [eq] at head
    refine fun mem => (List.mem_append.mp mem).elim (ends_map fun h mem => ?_) fragments
    exact head _ (List.mem_map_of_mem mem)
  | project p =>
    rw [eq] at head like
    cases like with
    | project like =>
      refine fun mem => (List.mem_append.mp mem).elim ?_ fragments
      exact ends_projectionTree like.ordering.exported head

/-- An object of the library ends if its parts do. -/
theorem ends_treeOf {R : Value → Value → Prop} (unassigned : s.assignments = []) {h : Nat}
    {o : Object} (alike : Object.Alike R s s h o o) (parts : ∀ v ∈ o.parts, (inner v).Ends) :
    (s.treeOf inner h o).Ends := by
  cases alike with
  | reference _ | param _ => exact List.not_mem_nil
  | expression exported => exact exported.ends s.view parts
  | nodeElement alike => exact alike.ends
  | relationshipElement alike => exact alike.ends
  | @pattern es _ alike =>
    refine ends_map fun e mem => ?_
    have parts : ∀ v ∈ e.parts, (inner v).Ends :=
      fun v part => parts v (List.mem_flatMap.mpr ⟨e, mem, part⟩)
    cases List.forall₂_same.mp alike e mem with
    | node alike => exact alike.ends
    | relationship alike => exact alike.ends
    | given _ _ => exact parts _ List.mem_cons_self
  | clause alike =>
    simp only [treeOf, isReassigned_eq_false unassigned, Bool.false_eq_true, if_false]
    exact ends_clauseTree alike parts
  | @statement nodes =>
    simp only [treeOf, nodesOf, standIn?_eq_none unassigned, ofValues, List.map_map]
    exact ends_map fun g mem => parts _ (List.mem_map_of_mem mem)
  | @union branches all _ =>
    simp only [treeOf, branchesOf, standIn?_eq_none unassigned, ofValues, List.map_map]
    exact ends_map fun g mem => parts _ (List.mem_map_of_mem mem)
  | chain _ => simp [treeOf, Ends, faults, Tree.allFaults]
  | data isData _ => cases o <;> cases isData <;> simp [treeOf, Ends, faults, Tree.allFaults]

/-- A literal is no object, so nothing is met in it. -/
theorem ends_treeFrom_atom (unused : List Nat) (a : Atom) (mark : Nat) :
    (s.treeFrom unused (.atom a mark)).Ends := by
  rw [treeFrom_atom]
  exact List.not_mem_cons_of_ne_of_not_mem (by decide) List.not_mem_nil

/-- Where nothing contains itself, an object is looked up before it is used up: all that can be
reached from an object is still unused when the object is looked up. -/
theorem ends_tree {R : Value → Value → Prop} (like : s.Alike R s) (complete : s.IsComplete)
    {h : Nat} (acyclic : s.IsAcyclic h) (lt : h < s.next) : (s.tree h).Ends := by
  rw [← valueTree_object]
  refine acyclic.induction (P := fun g => s.IsAcyclic g → g < s.next → ∀ unused : List Nat,
    (∀ i, Relation.ReflTransGen s.Contains g i → i ∈ unused) →
    (s.treeFrom unused (.object g)).Ends) lt ?_ acyclic lt _ ?_
  · intro g ih acyclic lt unused reachable
    obtain ⟨o, found⟩ := exists_get? lt
    rw [treeFrom_object like.unassigned (reachable g .refl) found]
    refine ends_treeOf like.unassigned (like.objects found found) fun v part => ?_
    cases v with
    | atom a mark => exact ends_treeFrom_atom _ a mark
    | object i =>
      have contains : s.Contains g i := ⟨o, found, part⟩
      have lt : i < s.next := complete.lt_of_contains contains
      refine ih i lt contains (fun j reaches => acyclic j (.head contains reaches)) lt _ ?_
      intro j reaches
      refine (List.mem_erase_of_ne fun eq => ?_).mpr (reachable j (.head contains reaches))
      subst eq
      exact acyclic j .refl (.head' contains reaches)
  · exact fun i reaches => List.mem_range.mpr (complete.lt_of_reaches lt reaches)

end Store

end Ending

end GraphQuery
