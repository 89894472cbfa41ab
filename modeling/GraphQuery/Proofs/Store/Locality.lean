import GraphQuery.Proofs.Store.Parts
import GraphQuery.Proofs.Tree.Query

/-!
Queries in a store.

The tree of a statement is made of the trees of its nodes, and so is that of a union of those of its
branches. A builder that changes one object leaves the trees of all objects alone that do not
contain it: what else a tree depends on, the truth of values and which of them are variables, does
not change when a store grows.

* `Store.isQuery_tree`: a clause, a statement or a union has a tree that is a query.
* `Store.statement_coincides`, `Store.union_coincides`: their trees, by those of their parts.
* `Store.treeFrom_of_kept`: the trees that stay when all that they are made of does.
* `Store.tree_of_replaced`: the trees that stay when an object is put in the place of another one.
-/

namespace GraphQuery

open GraphQuery.Tree (allWhole_iff allQueries_iff)

/-! ### Queries have trees that are queries -/

namespace Store

variable {s : Store}

/-- The word between the branches of a union is one of two. -/
theorem unionKeyword_ne_empty (all : Value) : s.unionKeyword all ≠ "" := by
  unfold unionKeyword
  split <;> decide

/-- A clause is no statement, and its tree is a clause. -/
theorem isLeaf_clauseTree (inner : Value → Tree) (c : Clause) :
    (s.clauseTree inner c).isLeaf = true := by
  unfold clauseTree
  cases c.head <;> rfl

/-- In a typed store, a clause, a statement or a union in which nothing is stuck has a tree that is
a query. The induction is on how many handles there are to look up. -/
theorem isQuery_treeFrom {strict : Prop} (typed : s.Typed strict) {unused : List Nat} {h : Nat}
    (query : s.IsQuery h) (whole : (s.treeFrom unused (.object h)).isWhole = true) :
    (s.treeFrom unused (.object h)).isQuery = true := by
  induction length : unused.length generalizing unused h with
  | zero =>
    obtain ⟨_, _, _, mem, _⟩ := exists_of_treeFrom_whole whole
    rw [List.length_eq_zero_iff.mp length] at mem
    cases mem
  | succ n ih =>
    obtain ⟨_, o, ⟨⟩, mem, found⟩ := exists_of_treeFrom_whole whole
    have unassigned := typed.unassigned
    rw [treeFrom_object unassigned mem found] at whole ⊢
    have parts : ∀ g, s.IsQuery g → (s.treeFrom (unused.erase h) (.object g)).isWhole = true →
        (s.treeFrom (unused.erase h) (.object g)).isQuery = true :=
      fun g query whole => ih query whole (by rw [List.length_erase_of_mem mem, length]; rfl)
    obtain ⟨o', found', isQuery⟩ := query
    cases found.symm.trans found'
    cases o with
    | clause c =>
      simp only [treeOf, isReassigned_eq_false unassigned, Bool.false_eq_true, if_false]
      exact Tree.isQuery_of_isLeaf (isLeaf_clauseTree _ c)
    | statement nodes =>
      have queries : ∀ g ∈ nodes, s.IsQuery g := typed.objects found
      simp only [treeOf, nodesOf, standIn?_eq_none unassigned, ofValues, List.map_map] at whole ⊢
      rw [Tree.isWhole, allWhole_iff, List.forall_mem_map] at whole
      rw [Tree.isQuery, allQueries_iff, List.forall_mem_map]
      exact fun g mem => parts g (queries g mem) (whole g mem)
    | union branches all =>
      obtain ⟨several, queries⟩ : 2 ≤ branches.length ∧ ∀ g ∈ branches, s.IsQuery g :=
        typed.objects found
      simp only [treeOf, branchesOf, standIn?_eq_none unassigned, ofValues, List.map_map]
        at whole ⊢
      rw [Tree.isWhole, allWhole_iff, List.forall_mem_map] at whole
      have areQueries : Tree.allQueries (branches.map fun g =>
          s.treeFrom (unused.erase h) (.object g)) = true := by
        rw [allQueries_iff, List.forall_mem_map]
        exact fun g mem => parts g (queries g mem) (whole g mem)
      simp [Tree.isQuery, unionKeyword_ne_empty, several, areQueries, Function.comp_def]
    | _ => cases isQuery

theorem isQuery_tree {strict : Prop} (typed : s.Typed strict) {h : Nat} (query : s.IsQuery h)
    (whole : (s.tree h).isWhole = true) : (s.tree h).isQuery = true := by
  rw [← valueTree_object] at whole ⊢
  exact isQuery_treeFrom typed query whole

/-- The trees of queries in which nothing is stuck are queries. -/
theorem isQuery_trees {strict : Prop} (typed : s.Typed strict) {hs : List Nat}
    (queries : ∀ h ∈ hs, s.IsQuery h) (whole : ∀ h ∈ hs, (s.tree h).isWhole = true) :
    ∀ t ∈ hs.map s.tree, t.isQuery = true := by
  rw [List.forall_mem_map]
  exact fun h mem => isQuery_tree typed (queries h mem) (whole h mem)

/-! ### The trees of statements and unions -/

section Parts

variable {R : Value → Value → Prop} (like : s.Alike R s) {h : Nat}
include like

/-- A statement is made of the trees of its nodes. -/
theorem statement_coincides {nodes : List Nat} (found : s.get? h = some (.statement nodes)) :
    (s.tree h).Coincides (.statement (nodes.map s.tree)) := by
  have coincides := tree_coincides like found
  simpa only [treeOf, nodesOf, standIn?_eq_none like.unassigned, ofValues, List.map_map,
    Function.comp_def, valueTree_object] using coincides

/-- A union is made of the trees of its branches. -/
theorem union_coincides {branches : List Nat} {all : Value}
    (found : s.get? h = some (.union branches all)) :
    (s.tree h).Coincides (.union (s.unionKeyword all) (branches.map s.tree)) := by
  have coincides := tree_coincides like found
  simpa only [treeOf, branchesOf, standIn?_eq_none like.unassigned, ofValues, List.map_map,
    Function.comp_def, valueTree_object] using coincides

/-- Nothing is stuck in a statement just in case nothing is in its nodes. -/
theorem isWhole_statement_iff {nodes : List Nat} (found : s.get? h = some (.statement nodes)) :
    (s.tree h).isWhole = true ↔ ∀ g ∈ nodes, (s.tree g).isWhole = true := by
  rw [← (statement_coincides like found).isWhole_eq, Tree.isWhole, allWhole_iff,
    List.forall_mem_map]

/-- Nothing is stuck in a union just in case nothing is in its branches. -/
theorem isWhole_union_iff {branches : List Nat} {all : Value}
    (found : s.get? h = some (.union branches all)) :
    (s.tree h).isWhole = true ↔ ∀ g ∈ branches, (s.tree g).isWhole = true := by
  rw [← (union_coincides like found).isWhole_eq, Tree.isWhole, allWhole_iff, List.forall_mem_map]

/-- The nodes of a statement in which nothing is stuck do not contain it. -/
theorem isWhole_inside_statement {nodes : List Nat} (found : s.get? h = some (.statement nodes))
    (whole : (s.tree h).isWhole = true) :
    ∀ g ∈ nodes, (s.treeFrom ((List.range s.next).erase h) (.object g)).isWhole = true := by
  rw [tree_of_get? like.unassigned found] at whole
  simp only [treeOf, nodesOf, standIn?_eq_none like.unassigned, ofValues, List.map_map] at whole
  rwa [Tree.isWhole, allWhole_iff, List.forall_mem_map] at whole

/-- The branches of a union in which nothing is stuck do not contain it. -/
theorem isWhole_inside_union {branches : List Nat} {all : Value}
    (found : s.get? h = some (.union branches all)) (whole : (s.tree h).isWhole = true) :
    ∀ g ∈ branches, (s.treeFrom ((List.range s.next).erase h) (.object g)).isWhole = true := by
  rw [tree_of_get? like.unassigned found] at whole
  simp only [treeOf, branchesOf, standIn?_eq_none like.unassigned, ofValues, List.map_map] at whole
  rwa [Tree.isWhole, allWhole_iff, List.forall_mem_map] at whole

end Parts

end Store

/-! ### What stays the same in a store that has grown -/

section Growing

variable {s s' : Store} {inner : Value → Tree}

/-- What the library makes looks the same to everyone. -/
theorem Expression.Exported.tree_view {e : Expression} (exported : e.Exported)
    (view view' : ObjectView) : e.tree view' inner = e.tree view inner := by
  cases exported <;> rfl

theorem SortItem.Exported.tree_view {i : SortItem} (exported : i.Exported)
    (view view' : ObjectView) : i.tree view' inner = i.tree view inner := by
  cases exported
  rfl

theorem NodeElement.Alike.tree_of_grows {n n' : NodeElement} (alike : n.Alike s s n') :
    n.tree s'.view s'.bearer inner = n.tree s.view s.bearer inner := by
  cases alike
  rfl

variable (grows : s.Grows s')
include grows

theorem RelationshipElement.Alike.tree_of_grows {r r' : RelationshipElement}
    (alike : r.Alike s s r') :
    r.tree s'.view s'.bearer inner = r.tree s.view s.bearer inner := by
  cases alike with
  | made _ type _ =>
    simp only [RelationshipElement.tree, typeOf, type.known.truth_eq grows]
    rfl

theorem Element.Alike.tree_of_grows {e e' : Element} (alike : e.Alike s s e') :
    e.tree s'.view s'.bearer inner = e.tree s.view s.bearer inner := by
  cases alike with
  | node alike => exact alike.tree_of_grows
  | relationship alike => exact alike.tree_of_grows grows
  | given _ _ => rfl

/-- The name of a column is a variable later if it is one already. -/
theorem Store.IsAlias.variableOf?_eq {name : Value} (isAlias : s.IsAlias name) :
    s'.variableOf? name = s.variableOf? name := by
  rcases isAlias with ⟨id, stem, found⟩ | ⟨n, named, -⟩
  · rw [variableOf?, variableOf?, grows.object?_eq found, found]
  · cases name with
    | object h => cases named
    | atom a mark => rfl

theorem Column.Typed.tree_of_grows {c : Column} (typed : c.Typed s) :
    c.tree inner s'.variableOf? = c.tree inner s.variableOf? := by
  have same : ∀ name, c.name.given? = some name → s'.variableOf? name = s.variableOf? name := by
    intro name given
    rw [← Value.eq_of_given? given]
    cases typed with
    | star | bare _ => rfl
    | named _ isAlias => exact isAlias.variableOf?_eq grows
  unfold Column.tree
  cases c.expression.given? with
  | none => rfl
  | some e =>
    cases given : c.name.given? with
    | none => rfl
    | some name => simp only [same name given]

namespace Store

theorem projectionTree_of_grows {p : Projection} (alike : p.Alike s s p) (typed : p.Typed s) :
    s'.projectionTree inner p = s.projectionTree inner p := by
  have columns : p.columns.map (Column.tree inner s'.variableOf?) =
      p.columns.map (Column.tree inner s.variableOf?) :=
    List.map_congr_left fun c mem => (typed.columns c mem).tree_of_grows grows
  have sortItems : p.ordering.sortItems.map (SortItem.tree s'.view inner) =
      p.ordering.sortItems.map (SortItem.tree s.view inner) :=
    List.map_congr_left fun i mem => (alike.ordering.exported i mem).tree_view _ _
  simp only [projectionTree, columns, sortItems, alike.distinct.known.truth_eq grows]

theorem slotTree?_of_grows {c : Clause} (alike : c.Alike s s c) (typed : c.Typed s) (slot : Slot) :
    s'.slotTree? inner c slot = s.slotTree? inner c slot := by
  cases slot with
  | passing =>
    have alike := alike.passing
    unfold slotTree?
    cases passing : c.passing with
    | none => rfl
    | some p =>
      rw [passing] at alike
      cases alike with
      | some alike =>
        exact congrArg some (projectionTree_of_grows grows alike (typed.passing p passing))
  | returning =>
    have alike := alike.returning
    unfold slotTree?
    cases returning : c.returning with
    | none => rfl
    | some p =>
      rw [returning] at alike
      cases alike with
      | some alike =>
        exact congrArg some (projectionTree_of_grows grows alike (typed.returning p returning))
  | _ => rfl

theorem clauseTree_of_grows {c : Clause} (alike : c.Alike s s c) (typed : c.Typed s) :
    s'.clauseTree inner c = s.clauseTree inner c := by
  have fragments : s'.fragmentTrees inner c = s.fragmentTrees inner c :=
    List.filterMap_congr fun slot _ => slotTree?_of_grows grows alike typed slot
  have head := alike.head
  unfold clauseTree
  cases eq : c.head with
  | read optionalClass isOptional patterns =>
    rw [eq] at head
    cases head with
    | read isOptional =>
      simp only [fragments, readKeyword, isOptional.known.truth_eq grows]
  | create patterns => simp only [fragments]
  | project p =>
    rw [eq] at head
    cases head with
    | project alike =>
      simp only [fragments, projectionTree_of_grows grows alike (typed.body p eq)]

variable {R : Value → Value → Prop} {strict : Prop}

/-- An object of the library, given the trees of its parts, has the same tree in a store that has
grown. -/
theorem treeOf_of_grows (unassigned : s.assignments = []) (unassigned' : s'.assignments = [])
    {h : Nat} {o : Object} (alike : Object.Alike R s s h o o) (typed : o.Typed strict s) :
    s'.treeOf inner h o = s.treeOf inner h o := by
  cases alike with
  | reference _ | param _ | chain _ => rfl
  | expression exported => exact exported.tree_view _ _
  | nodeElement alike => exact alike.tree_of_grows
  | relationshipElement alike => exact alike.tree_of_grows grows
  | pattern alike =>
    refine congrArg Tree.pattern (List.map_congr_left fun e mem => ?_)
    exact (List.forall₂_same.mp alike e mem).tree_of_grows grows
  | clause alike =>
    simp only [treeOf, isReassigned_eq_false unassigned, isReassigned_eq_false unassigned',
      Bool.false_eq_true, if_false]
    exact clauseTree_of_grows grows alike typed
  | statement =>
    simp only [treeOf, nodesOf, standIn?_eq_none unassigned, standIn?_eq_none unassigned']
  | union all =>
    simp only [treeOf, branchesOf, standIn?_eq_none unassigned, standIn?_eq_none unassigned',
      unionKeyword, all.known.truth_eq grows]
  | data isData _ => cases o <;> cases isData <;> rfl

/-- Among some objects, all that may be looked up are as they were, and are made of such objects.
Then each of them has the tree that it had. The induction is on how many handles may be looked
up. -/
theorem treeFrom_of_kept (like : s.Alike R s) (typed : s.Typed strict)
    (unassigned' : s'.assignments = []) {among : Nat → Prop} {unused unused' : List Nat}
    (nodup : unused.Nodup) (nodup' : unused'.Nodup)
    (same : ∀ i, among i → (i ∈ unused' ↔ i ∈ unused))
    (kept : ∀ i, among i → i ∈ unused → s'.get? i = s.get? i ∧ ∀ g, s.Contains i g → among g)
    {i : Nat} (isAmong : among i) :
    s'.treeFrom unused' (.object i) = s.treeFrom unused (.object i) := by
  induction length : unused.length generalizing unused unused' i with
  | zero =>
    have absent : i ∉ unused := by simp [List.length_eq_zero_iff.mp length]
    rw [treeFrom_of_not_mem absent, treeFrom_of_not_mem (mt (same i isAmong).mp absent)]
  | succ n ih =>
    by_cases mem : i ∈ unused
    · obtain ⟨get?_eq, inside⟩ := kept i isAmong mem
      have mem' := (same i isAmong).mpr mem
      cases found : s.get? i with
      | none =>
        rw [treeFrom_of_missing like.unassigned mem found,
          treeFrom_of_missing unassigned' mem' (get?_eq.trans found)]
      | some o =>
        have alike := like.objects found found
        rw [treeFrom_object like.unassigned mem found,
          treeFrom_object unassigned' mem' (get?_eq.trans found),
          treeOf_of_grows grows like.unassigned unassigned' alike (typed.objects found)]
        refine treeOf_congr like.unassigned alike fun v part => ?_
        cases v with
        | atom a mark => rw [treeFrom_atom, treeFrom_atom]
        | object g =>
          refine ih (nodup.erase i) (nodup'.erase i) (fun j isAmong => ?_)
            (fun j isAmong fewer => ?_)
            (inside g ⟨o, found, part⟩) (by rw [List.length_erase_of_mem mem, length]; rfl)
          · rw [nodup.mem_erase_iff, nodup'.mem_erase_iff, same j isAmong]
          · exact kept j isAmong (List.mem_of_mem_erase fewer)
    · rw [treeFrom_of_not_mem mem, treeFrom_of_not_mem (mt (same i isAmong).mp mem)]

/-- An object that may not be looked up can be put in the place of another one. -/
theorem treeFrom_of_replaced (like : s.Alike R s) (typed : s.Typed strict)
    (unassigned' : s'.assignments = []) {h : Nat} (others : ∀ g, g ≠ h → s'.get? g = s.get? g) :
    s'.treeFrom ((List.range s.next).erase h) = s.treeFrom ((List.range s.next).erase h) := by
  have nodup := (List.nodup_range (n := s.next)).erase h
  have kept : ∀ i, i ∈ (List.range s.next).erase h → s'.get? i = s.get? i :=
    fun i mem => others i (List.nodup_range.mem_erase_iff.mp mem).1
  funext v
  cases v with
  | atom a mark => rw [treeFrom_atom, treeFrom_atom]
  | object g =>
    have among : ∀ i, True → i ∈ (List.range s.next).erase h →
        s'.get? i = s.get? i ∧ ∀ g, s.Contains i g → True :=
      fun i _ mem => ⟨kept i mem, fun _ _ => trivial⟩
    exact treeFrom_of_kept grows like typed unassigned' nodup nodup (fun _ _ => .rfl) among trivial

/-- What does not contain an object has the same tree when another one is put in its place. -/
theorem tree_of_replaced (next_eq : s'.next = s.next) (like : s.Alike R s) (typed : s.Typed strict)
    (like' : s'.Alike R s') {h : Nat} (others : ∀ g, g ≠ h → s'.get? g = s.get? g) {g : Nat}
    (inside : (s.treeFrom ((List.range s.next).erase h) (.object g)).isWhole = true) :
    s'.tree g = s.tree g ∧ (s.tree g).isWhole = true := by
  have nodup : (List.range s.next).Nodup := List.nodup_range
  have same := treeFrom_of_replaced grows like typed like'.unassigned others
  have here := treeFrom_keeps like (nodup.erase h) List.erase_subset _ inside
  have there := treeFrom_keeps like' (nodup.erase h) List.erase_subset _ (same ▸ inside)
  rw [← valueTree_object, ← valueTree_object, valueTree, valueTree, next_eq, here, there, same]
  exact ⟨rfl, inside⟩

end Store

end Growing

end GraphQuery
