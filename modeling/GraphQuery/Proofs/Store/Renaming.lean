import GraphQuery.Proofs.Store.Growth
import GraphQuery.Proofs.Tree.Matching

/-!
Stores in which the same objects have other handles.

Two queries that are built independently of each other lie at different handles of different stores,
among other objects and made in another order. They are one and the same query if their handles are
related one to one such that related handles have objects of one form, whose parts are related in
turn. Then they have trees that match.

* `Store.Renames`: related handles have the same objects up to their handles.
* One lemma for each part of a query, such as `Store.Renames.expression`.
* `Store.Renames.tree_matches`: objects of related handles have trees that match.
-/

namespace GraphQuery

section Renaming

variable (L : Likeness)

/-- Two values are one atom, or related handles. -/
inductive Value.Renamed : Value → Value → Prop where
  | atom {a : Atom} {mark mark' : Nat} : Renamed (.atom a mark) (.atom a mark')
  | object {h h' : Nat} : L.owner h h' → Renamed (.object h) (.object h')

/-- Two expressions are the same up to handles. -/
inductive Expression.Renamed : Expression → Expression → Prop where
  | property {base base' : Value} {path : List Name} : base.Renamed L base' →
      Renamed (.property base (.made path)) (.property base' (.made path))
  | comparison {a : Atom} {mark mark' : Nat} {left left' right right' : Value} :
      left.Renamed L left' → right.Renamed L right' →
      Renamed (.comparison (.atom a mark) left right) (.comparison (.atom a mark') left' right')
  | junction {a : Atom} {mark mark' : Nat} {operands operands' : List Value} :
      List.Forall₂ (Value.Renamed L) operands operands' →
      Renamed (.junction (.atom a mark) (.made operands))
        (.junction (.atom a mark') (.made operands'))
  | negation {operand operand' : Value} : operand.Renamed L operand' →
      Renamed (.negation operand) (.negation operand')
  | call {a : Atom} {mark mark' : Nat} {arguments arguments' : List Value} :
      List.Forall₂ (Value.Renamed L) arguments arguments' →
      Renamed (.call (.atom a mark) (.made arguments)) (.call (.atom a mark') (.made arguments'))

/-- Two columns are the same up to handles. -/
structure Column.Renamed (c c' : Column) : Prop where
  expression : c.expression.Renamed L c'.expression
  name : c.name.Renamed L c'.name

/-- Two sort items are the same up to handles. -/
inductive SortItem.Renamed : SortItem → SortItem → Prop where
  | made {e e' : Value} {a : Atom} {mark mark' : Nat} : e.Renamed L e' →
      Renamed ⟨e, .atom a mark⟩ ⟨e', .atom a mark'⟩

/-- Properties of the same names whose parameters correspond. -/
abbrev PropertiesRenamed : List (Name × Param) → List (Name × Param) → Prop :=
  List.Forall₂ fun p p' => p'.1 = p.1 ∧ p.2.Corresponds L p'.2

/-- Two nodes of patterns are the same up to handles. -/
inductive NodeElement.Renamed : NodeElement → NodeElement → Prop where
  | made {r r' : Reference} {labels : List Name} {ps ps' : List (Name × Param)} :
      r.Matches L r' → PropertiesRenamed L ps ps' →
      Renamed ⟨.made r, .made labels, .made ps⟩ ⟨.made r', .made labels, .made ps'⟩

/-- Two relationships of patterns are the same up to handles. -/
inductive RelationshipElement.Renamed : RelationshipElement → RelationshipElement → Prop where
  | made {r r' : Reference} {a : Atom} {mark mark' : Nat} {ps ps' : List (Name × Param)}
      {d : Direction} : r.Matches L r' → PropertiesRenamed L ps ps' →
      Renamed ⟨.made r, .atom a mark, .made ps, .made d⟩
        ⟨.made r', .atom a mark', .made ps', .made d⟩

/-- Two elements of chains are the same up to handles. -/
inductive Element.Renamed : Element → Element → Prop where
  | node {n n' : NodeElement} : n.Renamed L n' → Renamed (.node n) (.node n')
  | relationship {r r' : RelationshipElement} : r.Renamed L r' →
      Renamed (.relationship r) (.relationship r')
  | given {v v' : Value} : v.Renamed L v' → Renamed (.given v) (.given v')

/-- Two orderings are the same up to handles. -/
structure Ordering.Renamed (o o' : Ordering) : Prop where
  sortItems : List.Forall₂ (SortItem.Renamed L) o.sortItems o'.sortItems
  skip : Option.Rel (Param.Corresponds L) o.skip o'.skip
  limit : Option.Rel (Param.Corresponds L) o.limit o'.limit

variable (s s' : Store)

/-- Two projections are the same up to handles. -/
structure Projection.Renamed (p p' : Projection) : Prop where
  kind_eq : p'.kind = p.kind
  columns : List.Forall₂ (Column.Renamed L) p.columns p'.columns
  distinct_eq : p'.distinct.truth s'.view = p.distinct.truth s.view
  ordering : p.ordering.Renamed L p'.ordering

/-- Two heads of clauses are the same up to handles. -/
inductive Head.Renamed : Head → Head → Prop where
  | read {optionalClass optionalClass' : Bool} {isOptional isOptional' : Value}
      {hs hs' : List Nat} : isOptional'.truth s'.view = isOptional.truth s.view →
      List.Forall₂ L.owner hs hs' →
      Renamed (.read optionalClass isOptional hs) (.read optionalClass' isOptional' hs')
  | create {hs hs' : List Nat} : List.Forall₂ L.owner hs hs' → Renamed (.create hs) (.create hs')
  | project {p p' : Projection} : p.Renamed L s s' p' → Renamed (.project p) (.project p')

/-- Two deletions are the same up to handles. -/
structure Deletion.Renamed (d d' : Deletion) : Prop where
  references : List.Forall₂ (Reference.Matches L) d.references d'.references
  detach_eq : d'.detach = d.detach

/-- Two clauses are the same up to handles. It does not matter whether an empty slot exists. -/
structure Clause.Renamed (c c' : Clause) : Prop where
  head : c.head.Renamed L s s' c'.head
  path : Option.Rel (Reference.Matches L) c.path.join c'.path.join
  filter : Option.Rel (Value.Renamed L) c.filter c'.filter
  assignments : List.Forall₂ (fun e e' => e.1.Renamed L e'.1 ∧ e.2.Renamed L e'.2)
    (c.assignments.getD []) (c'.assignments.getD [])
  removals : List.Forall₂ (Value.Renamed L) (c.removals.getD []) (c'.removals.getD [])
  deletion : (c.deletion.getD ⟨[], false⟩).Renamed L (c'.deletion.getD ⟨[], false⟩)
  passing : Option.Rel (Projection.Renamed L s s') c.passing c'.passing
  returning : Option.Rel (Projection.Renamed L s s') c.returning c'.returning

/-- Two objects are the same up to handles. -/
inductive Object.Renamed : Object → Object → Prop where
  | reference {r r' : Reference} : r.Matches L r' → Renamed (.reference r) (.reference r')
  | param {p p' : Param} : p.Corresponds L p' → Renamed (.param p) (.param p')
  | expression {e e' : Expression} : e.Renamed L e' → Renamed (.expression e) (.expression e')
  | column {c c' : Column} : c.Renamed L c' → Renamed (.column c) (.column c')
  | sortItem {i i' : SortItem} : i.Renamed L i' → Renamed (.sortItem i) (.sortItem i')
  | nodeElement {n n' : NodeElement} : n.Renamed L n' → Renamed (.nodeElement n) (.nodeElement n')
  | relationshipElement {r r' : RelationshipElement} : r.Renamed L r' →
      Renamed (.relationshipElement r) (.relationshipElement r')
  | pattern {es es' : List Element} : List.Forall₂ (Element.Renamed L) es es' →
      Renamed (.pattern ⟨.made es⟩) (.pattern ⟨.made es'⟩)
  | clause {c c' : Clause} : c.Renamed L s s' c' → Renamed (.clause c) (.clause c')
  | statement {hs hs' : List Nat} : List.Forall₂ L.owner hs hs' →
      Renamed (.statement hs) (.statement hs')
  | union {hs hs' : List Nat} {all all' : Value} : List.Forall₂ L.owner hs hs' →
      all'.truth s'.view = all.truth s.view → Renamed (.union hs all) (.union hs' all')

/-- Related handles have the same objects up to handles, and nothing has been assigned to them. -/
structure Store.Renames : Prop where
  unassigned : s.assignments = []
  unassigned' : s'.assignments = []
  objects : ∀ ⦃h h'⦄, L.owner h h' →
    ∃ o o', s.get? h = some o ∧ s'.get? h' = some o' ∧ o.Renamed L s s' o'

end Renaming

variable {L : Likeness} {s s' : Store}

/-! ### Parts of queries -/

/-- What is nothing up to handles is nothing. -/
theorem Value.Renamed.isNull_eq {v v' : Value} (h : v.Renamed L v') : v'.isNull = v.isNull := by
  cases h with
  | @atom a _ _ => cases a <;> rfl
  | object _ => rfl

theorem Value.Renamed.name?_eq {v v' : Value} (h : v.Renamed L v') : v'.name? = v.name? := by
  cases h <;> rfl

/-- Heads that are the same up to handles have the same slots. -/
theorem Head.Renamed.manifest_eq {k k' : Head} (h : k.Renamed L s s' k') :
    k'.manifest = k.manifest := by
  cases h with
  | read _ _ => rfl
  | create _ => rfl
  | project p => simp only [Head.manifest, p.kind_eq]

section Parts

variable {inner inner' : Value → Tree}
  (parts : ∀ v v', Value.Renamed L v v' → Tree.Matches L (inner v) (inner' v'))

/-- The parameters of properties are trees that match. -/
theorem PropertiesRenamed.matches {ps ps' : List (Name × Param)} (h : PropertiesRenamed L ps ps') :
    List.Forall₂ (Tree.Named (Tree.Matches L)) (ps.map propertyTree) (ps'.map propertyTree) := by
  rw [List.forall₂_map_left_iff, List.forall₂_map_right_iff]
  refine h.imp fun p p' ⟨name_eq, param⟩ => ?_
  unfold propertyTree
  rw [name_eq]
  exact .mk (.key param)

theorem NodeElement.Renamed.matches {n n' : NodeElement} (h : n.Renamed L n')
    (view view' : ObjectView) (bearer bearer' : Value → Except Fault Bearer) :
    Tree.Matches L (n.tree view bearer inner) (n'.tree view' bearer' inner') := by
  cases h with
  | made r ps => exact .node (.reference r) ps.matches

theorem RelationshipElement.Renamed.matches {r r' : RelationshipElement} (h : r.Renamed L r')
    (view view' : ObjectView) (bearer bearer' : Value → Except Fault Bearer) :
    Tree.Matches L (r.tree view bearer inner) (r'.tree view' bearer' inner') := by
  cases h with
  | @made r r' a mark mark' ps ps' d match_ properties =>
    have type_eq : typeOf view' (.atom a mark') = typeOf view (.atom a mark) := rfl
    simp only [RelationshipElement.tree, Attribute.resolve, propertyTrees, type_eq]
    cases typeOf view (.atom a mark) with
    | error f => exact .stuck (.cons (.label (.reference match_)) .nil)
    | ok type => exact .relationship (.reference match_) properties.matches

include parts

/-- Lists of values that are the same up to handles have trees that match. -/
theorem renamed_trees {vs vs' : List Value} (h : List.Forall₂ (Value.Renamed L) vs vs') :
    List.Forall₂ (Tree.Matches L) (vs.map inner) (vs'.map inner') := by
  rw [List.forall₂_map_left_iff, List.forall₂_map_right_iff]
  exact h.imp fun v v' renamed => parts v v' renamed

/-- The same for lists of handles. -/
theorem renamed_objectTrees {hs hs' : List Nat} (h : List.Forall₂ L.owner hs hs') :
    List.Forall₂ (Tree.Matches L) (hs.map fun h => inner (.object h))
      (hs'.map fun h => inner' (.object h)) := by
  rw [List.forall₂_map_left_iff, List.forall₂_map_right_iff]
  exact h.imp fun h h' related => parts _ _ (.object related)

theorem Expression.Renamed.matches {e e' : Expression} (h : e.Renamed L e')
    (view view' : ObjectView) : Tree.Matches L (e.tree view inner) (e'.tree view' inner') := by
  cases h with
  | property base => exact .property (parts _ _ base)
  | @comparison a _ _ left left' right right' leftRenamed rightRenamed =>
    simp only [Expression.tree, Value.plain, Value.given?, rightRenamed.isNull_eq]
    by_cases absent : right.isNull
    · simp only [absent, if_true]
      exact .check (parts _ _ leftRenamed)
    · simp only [absent]
      exact .comparison (parts _ _ leftRenamed) (parts _ _ rightRenamed)
  | junction operands => exact .junction (renamed_trees parts operands)
  | negation operand => exact .negation (parts _ _ operand)
  | call arguments => exact .call (renamed_trees parts arguments)

theorem SortItem.Renamed.matches {i i' : SortItem} (h : i.Renamed L i') (view view' : ObjectView) :
    Tree.Matches L (i.tree view inner) (i'.tree view' inner') := by
  cases h with
  | @made e e' a mark mark' e_renamed =>
    have isText_eq : ∀ s, (Value.atom a mark').isText s = (Value.atom a mark).isText s :=
      fun _ => rfl
    simp only [SortItem.tree, isText_eq, Value.plain]
    split
    · exact .column (parts _ _ e_renamed)
    · exact .sorted (parts _ _ e_renamed)

theorem Element.Renamed.matches {e e' : Element} (h : e.Renamed L e') (view view' : ObjectView)
    (bearer bearer' : Value → Except Fault Bearer) :
    Tree.Matches L (e.tree view bearer inner) (e'.tree view' bearer' inner') := by
  cases h with
  | node n => exact n.matches _ _ _ _
  | relationship r => exact r.matches _ _ _ _
  | given v => exact parts _ _ v

end Parts

/-- A deletion of nothing is not written, whether or not it exists. -/
theorem Store.slotTree?_deletion (s : Store) (inner : Value → Tree) (c : Clause) :
    s.slotTree? inner c .deletion =
      match (c.deletion.getD ⟨[], false⟩).references with
      | [] => none
      | rs => some (.deletions (c.deletion.getD ⟨[], false⟩).detach
          (rs.map fun r => .label (.reference r))) := by
  unfold slotTree?
  rcases c.deletion with _ | ⟨_ | _, _⟩ <;> rfl

namespace Store.Renames

section Parts

variable (renames : s.Renames L s') {inner inner' : Value → Tree}
  (parts : ∀ v v', Value.Renamed L v v' → Tree.Matches L (inner v) (inner' v'))
include renames

/-- Values that are the same up to handles are the same variable, or neither is one. -/
theorem variableOf? {v v' : Value} (h : v.Renamed L v') :
    Option.Rel (Bearer.Matches L) (s.variableOf? v) (s'.variableOf? v') := by
  cases h with
  | atom => exact .none
  | object related =>
    obtain ⟨o, o', found, found', renamed⟩ := renames.objects related
    simp only [Store.variableOf?, Store.object?, found, found']
    cases renamed with
    | @reference r r' match_ =>
      obtain ⟨id, stem, is⟩ := r
      obtain ⟨id', stem', is'⟩ := r'
      obtain rfl : is' = is := match_.is_eq
      cases is' with
      | var => exact .some (.reference match_)
      | _ => exact .none
    | _ => exact .none

include parts

theorem column {c c' : Column} (h : c.Renamed L c') :
    Tree.Matches L (c.tree inner s.variableOf?) (c'.tree inner' s'.variableOf?) := by
  have bearers := renames.variableOf? h.name
  have e := parts _ _ h.expression
  unfold Column.tree Value.given?
  rw [h.expression.isNull_eq, h.name.isNull_eq]
  by_cases star : c.expression.isNull
  · simp only [star, if_true]
    exact .star
  by_cases nameless : c.name.isNull
  · simp only [star, nameless, if_true]
    exact .column e
  simp only [star, nameless, Bool.false_eq_true, if_false, h.name.name?_eq]
  generalize s.variableOf? c.name = v? at bearers
  generalize s'.variableOf? c'.name = v?' at bearers
  cases bearers with
  | some b => exact .aliased e (.bearer b)
  | none =>
    cases c.name.name? with
    | some n => exact .aliased e .name
    | none => exact .stuck (.cons e .nil)

theorem projection {p p' : Projection} (h : p.Renamed L s s' p') :
    Tree.Matches L (s.projectionTree inner p) (s'.projectionTree inner' p') := by
  unfold Store.projectionTree
  rw [h.kind_eq, h.distinct_eq]
  refine .projection ?_ ?_ h.ordering.skip h.ordering.limit
  · rw [List.forall₂_map_left_iff, List.forall₂_map_right_iff]
    exact h.columns.imp fun _ _ c => renames.column parts c
  · rw [List.forall₂_map_left_iff, List.forall₂_map_right_iff]
    exact h.ordering.sortItems.imp fun _ _ i => i.matches parts _ _

theorem projection? {p? p?' : Option Projection}
    (h : Option.Rel (Projection.Renamed L s s') p? p?') :
    Option.Rel (Tree.Matches L) (p?.map (s.projectionTree inner))
      (p?'.map (s'.projectionTree inner')) := by
  cases h with
  | none => exact .none
  | some p => exact .some (renames.projection parts p)

theorem slotTree? {c c' : Clause} (h : c.Renamed L s s' c') (slot : Slot) :
    Option.Rel (Tree.Matches L) (s.slotTree? inner c slot) (s'.slotTree? inner' c' slot) := by
  cases slot with
  | path => exact .none
  | filter =>
    have filter := h.filter
    simp only [Store.slotTree?]
    generalize c.filter = v? at filter
    generalize c'.filter = v?' at filter
    cases filter with
    | none => exact .none
    | some v => exact .some (.filter (parts _ _ v))
  | assignment =>
    have entries := h.assignments
    simp only [Store.slotTree?]
    generalize c.assignments.getD [] = es at entries
    generalize c'.assignments.getD [] = es' at entries
    have trees : List.Forall₂ (Tree.Paired (Tree.Matches L))
        (es.map fun e => (inner e.1, inner e.2)) (es'.map fun e => (inner' e.1, inner' e.2)) := by
      rw [List.forall₂_map_left_iff, List.forall₂_map_right_iff]
      exact entries.imp fun _ _ ⟨target, v⟩ => .mk (parts _ _ target) (parts _ _ v)
    cases entries with
    | nil => exact .none
    | cons _ _ => exact .some (.assignments trees)
  | removal =>
    have properties := h.removals
    simp only [Store.slotTree?]
    generalize c.removals.getD [] = vs at properties
    generalize c'.removals.getD [] = vs' at properties
    cases properties with
    | nil => exact .none
    | cons v vs => exact .some (.removals (renamed_trees parts (.cons v vs)))
  | deletion =>
    obtain ⟨references, detach_eq⟩ := h.deletion
    rw [slotTree?_deletion, slotTree?_deletion, detach_eq]
    generalize (c.deletion.getD ⟨[], false⟩).references = rs at references
    generalize (c'.deletion.getD ⟨[], false⟩).references = rs' at references
    have trees : List.Forall₂ (Tree.Matches L) (rs.map fun r => .label (.reference r))
        (rs'.map fun r => .label (.reference r)) := by
      rw [List.forall₂_map_left_iff, List.forall₂_map_right_iff]
      exact references.imp fun _ _ r => .label (.reference r)
    cases references with
    | nil => exact .none
    | cons _ _ => exact .some (.deletions trees)
  | passing => exact renames.projection? parts h.passing
  | returning => exact renames.projection? parts h.returning

theorem fragmentTrees {c c' : Clause} (h : c.Renamed L s s' c') :
    List.Forall₂ (Tree.Matches L) (s.fragmentTrees inner c) (s'.fragmentTrees inner' c') := by
  unfold Store.fragmentTrees
  rw [h.head.manifest_eq]
  refine List.rel_filterMap (R := Eq) ?_ (List.forall₂_refl _)
  rintro slot _ rfl
  exact renames.slotTree? parts h slot

theorem clauseTree {c c' : Clause} (h : c.Renamed L s s' c') :
    Tree.Matches L (s.clauseTree inner c) (s'.clauseTree inner' c') := by
  have fragments := renames.fragmentTrees parts h
  have head := h.head
  have path : Option.Rel (Bearer.Matches L) (c.path.join.map .reference)
      (c'.path.join.map .reference) := by
    have path := h.path
    generalize c.path.join = r? at path
    generalize c'.path.join = r?' at path
    cases path with
    | none => exact .none
    | some r => exact .some (.reference r)
  unfold Store.clauseTree
  generalize c.head = k at head
  generalize c'.head = k' at head
  cases head with
  | read optional hs =>
    simp only [Store.readKeyword, optional]
    exact .patternClause path (renamed_objectTrees parts hs) fragments
  | create hs => exact .patternClause path (renamed_objectTrees parts hs) fragments
  | project p => exact .projectionClause (renames.projection parts p) fragments

/-- Objects that are the same up to handles have trees that match, given those of their parts. -/
theorem treeOf {o o' : Object} (h : o.Renamed L s s' o') (i i' : Nat) :
    Tree.Matches L (s.treeOf inner i o) (s'.treeOf inner' i' o') := by
  cases h with
  | reference r => exact .label (.reference r)
  | param p => exact .key p
  | expression e => exact e.matches parts _ _
  | column c => exact renames.column parts c
  | sortItem i => exact i.matches parts _ _
  | nodeElement n => exact n.matches _ _ _ _
  | relationshipElement r => exact r.matches _ _ _ _
  | pattern es =>
    refine .pattern ?_
    rw [List.forall₂_map_left_iff, List.forall₂_map_right_iff]
    exact es.imp fun _ _ e => e.matches parts _ _ _ _
  | clause c =>
    simp only [Store.treeOf, isReassigned_eq_false renames.unassigned,
      isReassigned_eq_false renames.unassigned']
    exact renames.clauseTree parts c
  | statement hs =>
    simp only [Store.treeOf, nodesOf, standIn?_eq_none renames.unassigned,
      standIn?_eq_none renames.unassigned', ofValues, List.map_map]
    exact .statement (renamed_objectTrees parts hs)
  | union hs all =>
    simp only [Store.treeOf, branchesOf, standIn?_eq_none renames.unassigned,
      standIn?_eq_none renames.unassigned', ofValues, unionKeyword, all, List.map_map]
    exact .union (renamed_objectTrees parts hs)

end Parts

/-- Two lists of handles that may still be looked up. They have the same handles up to renaming, and
there is depth enough for all of them. -/
structure Unused (L : Likeness) (depth depth' : Nat) (unused unused' : List Nat) : Prop where
  mem_iff : ∀ ⦃h h'⦄, L.owner h h' → (h ∈ unused ↔ h' ∈ unused')
  nodup : unused.Nodup
  nodup' : unused'.Nodup
  length_le : unused.length ≤ depth
  length_le' : unused'.length ≤ depth'

/-- What is left once related handles have been looked up. -/
theorem Unused.erase {depth depth' : Nat} {unused unused' : List Nat}
    (h : Unused L (depth + 1) (depth' + 1) unused unused') {i i' : Nat} (related : L.owner i i')
    (mem : i ∈ unused) : Unused L depth depth' (unused.erase i) (unused'.erase i') := by
  have mem' := (h.mem_iff related).mp mem
  refine ⟨fun j j' related' => ?_, h.nodup.erase i, h.nodup'.erase i', ?_, ?_⟩
  · rw [h.nodup.mem_erase_iff, h.nodup'.mem_erase_iff, h.mem_iff related', Ne, Ne,
      L.unique related' related]
  · have le := h.length_le
    rw [List.length_erase_of_mem mem]
    omega
  · have le := h.length_le'
    rw [List.length_erase_of_mem mem']
    omega

/-- Values that are the same up to handles have trees that match. The induction is on how many
handles may still be looked up: where one side meets a handle again, so does the other. -/
theorem treeWithin (renames : s.Renames L s') {depth depth' : Nat} {unused unused' : List Nat}
    (handles : Unused L depth depth' unused unused') {v v' : Value} (renamed : v.Renamed L v') :
    Tree.Matches L (s.treeWithin depth unused v) (s'.treeWithin depth' unused' v') := by
  have endless : Tree.Matches L (.stuck [] .endless) (.stuck [] .endless) := .stuck .nil
  induction depth generalizing depth' unused unused' v v' with
  | zero =>
    cases renamed with
    | atom => cases depth' <;> exact .stuck .nil
    | @object h h' related =>
      obtain rfl := List.eq_nil_of_length_eq_zero (Nat.le_zero.mp handles.length_le)
      cases depth' with
      | zero => exact endless
      | succ depth' =>
        have absent : h' ∉ unused' := fun mem => by simpa using (handles.mem_iff related).mpr mem
        simp only [Store.treeWithin, List.contains_iff_mem, absent, if_false]
        exact endless
  | succ depth ih =>
    cases renamed with
    | atom => cases depth' <;> exact .stuck .nil
    | @object h h' related =>
      by_cases mem : h ∈ unused
      · have mem' := (handles.mem_iff related).mp mem
        cases depth' with
        | zero =>
          have le := handles.length_le'
          have pos := List.length_pos_of_mem mem'
          omega
        | succ depth' =>
          obtain ⟨o, o', found, found', renamed⟩ := renames.objects related
          simp only [Store.treeWithin, List.contains_iff_mem, mem, mem', if_true, found, found',
            hasAssigned_eq_false renames.unassigned, hasAssigned_eq_false renames.unassigned',
            isLacking_eq_false renames.unassigned, isLacking_eq_false renames.unassigned']
          exact renames.treeOf (fun _ _ => ih (handles.erase related mem)) renamed h h'
      · have absent : h' ∉ unused' := fun mem' => mem ((handles.mem_iff related).mpr mem')
        cases depth' with
        | zero =>
          simp only [Store.treeWithin, List.contains_iff_mem, mem, if_false]
          exact endless
        | succ depth' =>
          simp only [Store.treeWithin, List.contains_iff_mem, mem, absent, if_false]
          exact endless

/-- Objects of related handles have trees that match. -/
theorem tree_matches (renames : s.Renames L s') {h h' : Nat} (related : L.owner h h') :
    Tree.Matches L (s.tree h) (s'.tree h') := by
  refine renames.treeWithin ⟨fun i i' related => ?_, List.nodup_range, List.nodup_range, ?_, ?_⟩
    (.object related)
  · obtain ⟨o, o', found, found', -⟩ := renames.objects related
    simp [lt_of_get? found, lt_of_get? found']
  · exact Nat.le_of_eq List.length_range
  · exact Nat.le_of_eq List.length_range

end Store.Renames

end GraphQuery
