import GraphQuery.Proofs.Store.Likeness
import GraphQuery.Proofs.Tree.Likeness
import GraphQuery.Store.Tree

/-!
The trees of like stores.

What an object is made of is looked up in the same way in two like stores, so its trees differ only
in the values of parameters.

* `Store.Alike.treeOf`: the tree of an object, given those of its parts.
* `Store.Alike.tree`: the tree of an object.
-/

namespace GraphQuery

/-- Every owner is itself, and values are related in a given way. -/
def Likeness.literals (R : Value → Value → Prop) : Likeness where
  owner := Eq
  value := R
  unique h h' := by rw [h, h']

variable {R : Value → Value → Prop} {s s' : Store}

theorem Bearer.alike_literals (R : Value → Value → Prop) (b : Bearer) :
    b.Alike (.literals R) b := ⟨rfl, rfl, rfl⟩

namespace Store.Alike

variable (like : s.Alike R s')
include like

/-- Like stores have parameters with one key and related values. -/
theorem corresponds {p p' : Param} (alike : p.Alike s s' p') :
    p.Corresponds (.literals R) p' := by
  obtain ⟨id_eq, stem_eq, related⟩ := like.param_eq alike
  exact ⟨id_eq.symm, stem_eq, related⟩

theorem corresponds_option {p? p?' : Option Param} (alike : Option.Rel (Param.Alike s s') p? p?') :
    Option.Rel (Param.Corresponds (.literals R)) p? p?' :=
  optionRel_imp (fun _ _ h => like.corresponds h) alike

theorem propertyTrees {ps ps' : List (Name × Param)} (alike : PropertiesAlike s s' ps ps') :
    Tree.Alike.Properties (.literals R) (ps.map propertyTree) (ps'.map propertyTree) := by
  unfold Tree.Alike.Properties
  rw [List.forall₂_map_left_iff, List.forall₂_map_right_iff]
  exact List.Forall₂.imp (fun _ _ h => ⟨h.1.symm, .key (like.corresponds h.2)⟩) alike

/-- Like stores have the same variables. -/
theorem variableOf?_eq (v : Value) : s'.variableOf? v = s.variableOf? v := by
  unfold variableOf?
  rcases like.object?_cases v with ⟨absent, absent'⟩ | ⟨h, o, o', rfl, found, found', alike⟩
  · rw [absent, absent']
  · rw [found, found']
    cases alike with
    | data isData isData' => cases o <;> cases isData <;> cases o' <;> cases isData' <;> rfl
    | _ => rfl

end Store.Alike

/-! ### Parts -/

section Parts

variable {inner inner' : Value → Tree} (parts : ∀ v, (inner v).Alike (.literals R) (inner' v))
include parts

/-- The trees of the same values. -/
theorem alike_trees (vs : List Value) :
    List.Forall₂ (Tree.Alike (.literals R)) (vs.map inner) (vs.map inner') := by
  rw [List.forall₂_map_left_iff, List.forall₂_map_right_iff, List.forall₂_same]
  exact fun v _ => parts v

theorem Expression.Exported.tree_alike {e : Expression} (exported : e.Exported)
    (view view' : ObjectView) :
    (e.tree view inner).Alike (.literals R) (e.tree view' inner') := by
  cases exported with
  | property => exact .property (parts _) _
  | @comparison operator left right _ given =>
    have given : right.given? = some right := by simp [Value.given?, given]
    simp only [Expression.tree, given]
    exact .comparison _ (parts _) (parts _)
  | check _ => exact .check _ (parts _)
  | junction _ => exact .junction _ (alike_trees parts _)
  | negation => exact .negation (parts _)
  | call _ => exact .call _ (alike_trees parts _)

theorem SortItem.Exported.tree_alike {i : SortItem} (exported : i.Exported)
    (view view' : ObjectView) :
    (i.tree view inner).Alike (.literals R) (i.tree view' inner') := by
  cases exported with
  | made _ =>
    unfold SortItem.tree
    split
    · exact .column (parts _)
    · exact .sorted (parts _) _

theorem Column.tree_alike (like : s.Alike R s') (c : Column) :
    (c.tree inner s.variableOf?).Alike (.literals R) (c.tree inner' s'.variableOf?) := by
  unfold Column.tree
  split
  · exact .star
  · exact .column (parts _)
  · rw [like.variableOf?_eq]
    split
    · exact .aliasedBearer (parts _) (Bearer.alike_literals R _)
    · exact .aliased (parts _) _
    · exact .stuck _ (.cons (parts _) .nil)

omit parts in
theorem NodeElement.Alike.tree_alike (like : s.Alike R s') {n n' : NodeElement}
    (alike : n.Alike s s' n') :
    (n.tree s.view s.bearer inner).Alike (.literals R) (n'.tree s'.view s'.bearer inner') := by
  cases alike with
  | made _ ps => exact .node (Bearer.alike_literals R _) _ (like.propertyTrees ps)

omit parts in
theorem RelationshipElement.Alike.tree_alike (like : s.Alike R s') {r r' : RelationshipElement}
    (alike : r.Alike s s' r') :
    (r.tree s.view s.bearer inner).Alike (.literals R) (r'.tree s'.view s'.bearer inner') := by
  cases alike with
  | @made _ type _ _ _ _ deciding ps =>
    have type_eq : typeOf s'.view type = typeOf s.view type := by
      rw [typeOf, typeOf, deciding.truth_eq]
    simp only [RelationshipElement.tree, Attribute.resolve, type_eq]
    cases typeOf s.view type with
    | error f => exact .stuck _ (.cons (.label (Bearer.alike_literals R _)) .nil)
    | ok type => exact .relationship (Bearer.alike_literals R _) type (like.propertyTrees ps) _

theorem Element.Alike.tree_alike (like : s.Alike R s') {e e' : Element} (alike : e.Alike s s' e') :
    (e.tree s.view s.bearer inner).Alike (.literals R) (e'.tree s'.view s'.bearer inner') := by
  cases alike with
  | node n => exact n.tree_alike like
  | relationship r => exact r.tree_alike like
  | given _ _ => exact parts _

theorem Projection.Alike.tree_alike (like : s.Alike R s') {p p' : Projection}
    (alike : p.Alike s s' p') :
    (s.projectionTree inner p).Alike (.literals R) (s'.projectionTree inner' p') := by
  unfold Store.projectionTree
  rw [alike.kind_eq, alike.columns_eq, alike.distinct_eq, alike.distinct.truth_eq,
    alike.ordering.sortItems_eq]
  refine .projection _ _ ?_ ?_ (like.corresponds_option alike.ordering.skip)
    (like.corresponds_option alike.ordering.limit)
  · rw [List.forall₂_map_left_iff, List.forall₂_map_right_iff, List.forall₂_same]
    exact fun c _ => c.tree_alike parts like
  · rw [List.forall₂_map_left_iff, List.forall₂_map_right_iff, List.forall₂_same]
    exact fun i mem => (alike.ordering.exported i mem).tree_alike parts _ _

theorem Projection.optionRel_tree_alike (like : s.Alike R s') {p? p?' : Option Projection}
    (alike : Option.Rel (Projection.Alike s s') p? p?') :
    Option.Rel (Tree.Alike (.literals R)) (p?.map (s.projectionTree inner))
      (p?'.map (s'.projectionTree inner')) := by
  cases alike with
  | none => exact .none
  | some p => exact .some (p.tree_alike parts like)

theorem Clause.Alike.slotTree?_alike (like : s.Alike R s') {c c' : Clause}
    (alike : c.Alike s s' c') (slot : Slot) :
    Option.Rel (Tree.Alike (.literals R)) (s.slotTree? inner c slot)
      (s'.slotTree? inner' c' slot) := by
  cases slot with
  | path => exact .none
  | filter =>
    simp only [Store.slotTree?, alike.filter_eq]
    cases c.filter with
    | none => exact .none
    | some v => exact .some (.filter (parts v))
  | assignment =>
    simp only [Store.slotTree?, alike.assignments_eq]
    split
    · exact .none
    · refine .some (.assignments ?_)
      rw [List.forall₂_map_left_iff, List.forall₂_map_right_iff, List.forall₂_same]
      exact fun e _ => ⟨parts e.1, parts e.2⟩
  | removal =>
    simp only [Store.slotTree?, alike.removals_eq]
    split
    · exact .none
    · exact .some (.removals (alike_trees parts _))
  | deletion =>
    simp only [Store.slotTree?, alike.deletion_eq]
    split
    · exact .none
    · exact .none
    · refine .some (.deletions _ ?_)
      rw [List.forall₂_map_left_iff, List.forall₂_map_right_iff, List.forall₂_same]
      exact fun r _ => .label (Bearer.alike_literals R _)
  | passing => exact Projection.optionRel_tree_alike parts like alike.passing
  | returning => exact Projection.optionRel_tree_alike parts like alike.returning

theorem Clause.Alike.fragmentTrees_alike (like : s.Alike R s') {c c' : Clause}
    (alike : c.Alike s s' c') :
    List.Forall₂ (Tree.Alike (.literals R)) (s.fragmentTrees inner c)
      (s'.fragmentTrees inner' c') := by
  unfold Store.fragmentTrees
  rw [alike.head.manifest_eq]
  refine List.rel_filterMap (R := Eq) ?_ (List.forall₂_refl _)
  rintro slot _ rfl
  exact alike.slotTree?_alike parts like slot

theorem Clause.Alike.tree_alike (like : s.Alike R s') {c c' : Clause} (alike : c.Alike s s' c') :
    (s.clauseTree inner c).Alike (.literals R) (s'.clauseTree inner' c') := by
  have fragments := alike.fragmentTrees_alike parts like
  have head := alike.head
  have path : Option.Rel (Bearer.Alike (.literals R)) (c.path.join.map .reference)
      (c'.path.join.map .reference) := by
    rw [alike.path_eq]
    cases c.path.join with
    | none => exact .none
    | some r => exact .some (Bearer.alike_literals R _)
  have patterns : ∀ hs : List Nat, List.Forall₂ (Tree.Alike (.literals R))
      (hs.map fun h => inner (.object h)) (hs.map fun h => inner' (.object h)) := by
    intro hs
    rw [List.forall₂_map_left_iff, List.forall₂_map_right_iff, List.forall₂_same]
    exact fun h _ => parts (.object h)
  unfold Store.clauseTree
  generalize c.head = k at head
  generalize c'.head = k' at head
  cases head with
  | read deciding =>
    simp only [Store.readKeyword, deciding.truth_eq]
    exact .patternClause _ path (patterns _) fragments
  | create => exact .patternClause _ path (patterns _) fragments
  | project p => exact .projectionClause (p.tree_alike parts like) fragments

end Parts

/-! ### Objects -/

namespace Store.Alike

/-- Like objects have like trees, given those of their parts. -/
theorem treeOf (like : s.Alike R s') {inner inner' : Value → Tree}
    (parts : ∀ v, (inner v).Alike (.literals R) (inner' v)) {h : Nat} {o o' : Object}
    (alike : Object.Alike R s s' h o o') :
    (s.treeOf inner h o).Alike (.literals R) (s'.treeOf inner' h o') := by
  have missing : (Tree.stuck [] .missing).Alike (.literals R) (.stuck [] .missing) :=
    .stuck _ .nil
  cases alike with
  | reference _ => exact .label (Bearer.alike_literals R _)
  | param related => exact .key ⟨rfl, rfl, related⟩
  | expression exported => exact exported.tree_alike parts _ _
  | nodeElement n => exact n.tree_alike like
  | relationshipElement r => exact r.tree_alike like
  | pattern es =>
    refine .pattern ?_
    rw [List.forall₂_map_left_iff, List.forall₂_map_right_iff]
    exact es.imp fun _ _ h => h.tree_alike parts like
  | clause c =>
    simp only [Store.treeOf, isReassigned_eq_false like.unassigned,
      isReassigned_eq_false like.unassigned']
    exact c.tree_alike parts like
  | statement =>
    simp only [Store.treeOf, nodesOf, standIn?_eq_none like.unassigned,
      standIn?_eq_none like.unassigned', ofValues]
    exact .statement (alike_trees parts _)
  | union deciding =>
    simp only [Store.treeOf, branchesOf, standIn?_eq_none like.unassigned,
      standIn?_eq_none like.unassigned', ofValues, unionKeyword, deciding.truth_eq]
    exact .union _ (alike_trees parts _)
  | chain _ => exact missing
  | data isData isData' =>
    cases o <;> cases isData <;> cases o' <;> cases isData' <;> exact missing

/-- In like stores a value has like trees. The induction is on how many handles may still be looked
up. -/
theorem treeWithin (like : s.Alike R s') (depth : Nat) (unused : List Nat) (v : Value) :
    (s.treeWithin depth unused v).Alike (.literals R) (s'.treeWithin depth unused v) := by
  induction depth generalizing unused v with
  | zero =>
    cases v with
    | atom a mark => exact .stuck _ .nil
    | object h => exact .stuck _ .nil
  | succ depth ih =>
    cases v with
    | atom a mark => exact .stuck _ .nil
    | object h =>
      simp only [Store.treeWithin, hasAssigned_eq_false like.unassigned,
        hasAssigned_eq_false like.unassigned', isLacking_eq_false like.unassigned,
        isLacking_eq_false like.unassigned']
      split
      · rcases like.get?_cases h with ⟨absent, absent'⟩ | ⟨o, o', found, found', alike⟩
        · rw [absent, absent']
          exact .stuck _ .nil
        · rw [found, found']
          exact like.treeOf (ih (unused.erase h)) alike
      · exact .stuck _ .nil

/-- In like stores an object has like trees. -/
theorem tree (like : s.Alike R s') (h : Nat) :
    (s.tree h).Alike (.literals R) (s'.tree h) := by
  unfold Store.tree
  rw [like.next_eq]
  exact like.treeWithin _ _ _

end Store.Alike

end GraphQuery
