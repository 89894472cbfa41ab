import GraphQuery.Proofs.Store.Likeness
import GraphQuery.Proofs.Tree.Whole

/-!
The tree of an object is made of the trees of its parts.

The tree of an object is found with the handles that are not used up yet, so the trees of its parts
are those that they have inside of it. If nothing is stuck then this makes no difference: a part has
the same tree inside as on its own. And if an object is met inside itself then it is stuck, however
one looks at it.

* `Tree.Coincides`: two trees are the same unless something in both of them is stuck.
* `Store.valueTree`: the tree that a value has on its own.
* `Store.tree_coincides`: an object is written as what is made of the trees that its parts have on
  their own.
-/

namespace GraphQuery

/-! ### Trees that are the same unless they are stuck -/

namespace Tree

/-- Two trees are the same unless something in both of them is stuck. -/
structure Coincides (t u : Tree) : Prop where
  isWhole_eq : u.isWhole = t.isWhole
  eq : t.isWhole = true → u = t

namespace Coincides

variable {t u w : Tree}

theorem refl (t : Tree) : t.Coincides t := ⟨rfl, fun _ => rfl⟩

theorem symm (h : t.Coincides u) : u.Coincides t :=
  ⟨h.isWhole_eq.symm, fun whole => (h.eq (h.isWhole_eq ▸ whole)).symm⟩

theorem trans (h : t.Coincides u) (h' : u.Coincides w) : t.Coincides w where
  isWhole_eq := h'.isWhole_eq.trans h.isWhole_eq
  eq whole := (h'.eq (h.isWhole_eq.trans whole)).trans (h.eq whole)

/-- It is enough that each of them is the other one if it is whole. -/
theorem of_eq (forth : t.isWhole = true → u = t) (back : u.isWhole = true → t = u) :
    t.Coincides u where
  isWhole_eq := by
    rw [Bool.eq_iff_iff]
    exact ⟨fun whole => back whole ▸ whole, fun whole => forth whole ▸ whole⟩
  eq := forth

end Coincides

/-- Wherever nothing is stuck, values have the same trees in the second way as in the first. -/
def Keeps (inner inner' : Value → Tree) : Prop :=
  ∀ v, (inner v).isWhole = true → inner' v = inner v

end Tree

open GraphQuery.Tree (Keeps allWhole allWhole_iff pairsWhole_iff)

/-! ### Parts -/

section Keeping

variable {inner inner' : Value → Tree} (keeps : Keeps inner inner') {s : Store}
include keeps

theorem map_keeps {α : Type} (value : α → Value) {as : List α}
    (whole : allWhole (as.map fun a => inner (value a)) = true) :
    (as.map fun a => inner' (value a)) = as.map fun a => inner (value a) := by
  rw [allWhole_iff, List.forall_mem_map] at whole
  exact List.map_congr_left fun a mem => keeps _ (whole a mem)

theorem Expression.Exported.tree_keeps {e : Expression} (exported : e.Exported) (view : ObjectView)
    (whole : (e.tree view inner).isWhole = true) : e.tree view inner' = e.tree view inner := by
  cases exported with
  | @property base path => exact congrArg (Tree.property · path) (keeps base whole)
  | @comparison operator left right _ given =>
    have given : right.given? = some right := by simp [Value.given?, given]
    simp only [Expression.tree, given] at whole ⊢
    obtain ⟨first, second⟩ := (Bool.and_eq_true _ _).mp whole
    exact congrArg₂ (Tree.comparison operator) (keeps left first) (keeps right second)
  | @check operator operand _ => exact congrArg (Tree.check operator) (keeps operand whole)
  | @junction operator operands _ =>
    exact congrArg (Tree.junction operator) (map_keeps keeps id whole)
  | @negation operand => exact congrArg Tree.negation (keeps operand whole)
  | @call name arguments _ => exact congrArg (Tree.call name) (map_keeps keeps id whole)

theorem Column.tree_keeps (c : Column) (variableOf : Value → Option Bearer)
    (whole : (c.tree inner variableOf).isWhole = true) :
    c.tree inner' variableOf = c.tree inner variableOf := by
  unfold Column.tree at whole ⊢
  cases given : c.expression.given? with
  | none => rfl
  | some e =>
    cases named : c.name.given? with
    | none =>
      rw [given, named] at whole
      exact congrArg Tree.column (keeps e whole)
    | some name =>
      simp only [given, named] at whole ⊢
      cases bearer : variableOf name with
      | some b =>
        rw [bearer] at whole
        exact congrArg (Tree.aliased · (.bearer b)) (keeps e whole)
      | none =>
        cases word : name.name? with
        | some n =>
          rw [bearer, word] at whole
          exact congrArg (Tree.aliased · (.name n)) (keeps e whole)
        | none =>
          rw [bearer, word] at whole
          cases whole

theorem SortItem.tree_keeps (i : SortItem) (view : ObjectView)
    (whole : (i.tree view inner).isWhole = true) : i.tree view inner' = i.tree view inner := by
  unfold SortItem.tree at whole ⊢
  split
  · rename_i ascending
    rw [if_pos ascending] at whole
    exact congrArg Tree.column (keeps _ whole)
  · rename_i other
    rw [if_neg other] at whole
    cases order : i.order.plain view with
    | ok s =>
      rw [order] at whole
      exact congrArg (Tree.sorted · s) (keeps _ whole)
    | error f =>
      rw [order] at whole
      cases whole

namespace Store

theorem projectionTree_keeps (p : Projection)
    (whole : (s.projectionTree inner p).isWhole = true) :
    s.projectionTree inner' p = s.projectionTree inner p := by
  obtain ⟨columns, sortItems⟩ := (Bool.and_eq_true _ _).mp whole
  rw [allWhole_iff, List.forall_mem_map] at columns sortItems
  have columns_eq := List.map_congr_left fun c mem =>
    Column.tree_keeps keeps c s.variableOf? (columns c mem)
  have sortItems_eq := List.map_congr_left fun i mem =>
    SortItem.tree_keeps keeps i s.view (sortItems i mem)
  simp only [projectionTree, columns_eq, sortItems_eq]

theorem slotTree?_keeps (c : Clause) (slot : Slot)
    (whole : ∀ t, s.slotTree? inner c slot = some t → t.isWhole = true) :
    s.slotTree? inner' c slot = s.slotTree? inner c slot := by
  cases slot with
  | path => rfl
  | filter =>
    cases filter : c.filter with
    | none => simp only [slotTree?, filter, Option.map_none]
    | some v =>
      have whole := whole _ (by simp only [slotTree?, filter]; rfl)
      simp only [slotTree?, filter, Option.map_some]
      exact congrArg (fun t => some (Tree.filter t)) (keeps v whole)
  | assignment =>
    cases entries : c.assignments.getD [] with
    | nil => simp only [slotTree?, entries]
    | cons e es =>
      have whole := whole _ (by simp only [slotTree?, entries]; rfl)
      rw [Tree.isWhole, pairsWhole_iff, List.forall_mem_map] at whole
      simp only [slotTree?, entries]
      refine congrArg (fun es => some (Tree.assignments es)) (List.map_congr_left fun e mem => ?_)
      exact Prod.ext (keeps _ (whole e mem).1) (keeps _ (whole e mem).2)
  | removal =>
    cases properties : c.removals.getD [] with
    | nil => simp only [slotTree?, properties]
    | cons v vs =>
      have whole := whole _ (by simp only [slotTree?, properties]; rfl)
      simp only [slotTree?, properties]
      exact congrArg (fun ts => some (Tree.removals ts)) (map_keeps keeps id whole)
  | deletion => rfl
  | passing =>
    cases passing : c.passing with
    | none => simp only [slotTree?, passing, Option.map_none]
    | some p =>
      have whole := whole _ (by simp only [slotTree?, passing]; rfl)
      simp only [slotTree?, passing, Option.map_some]
      exact congrArg some (projectionTree_keeps keeps p whole)
  | returning =>
    cases returning : c.returning with
    | none => simp only [slotTree?, returning, Option.map_none]
    | some p =>
      have whole := whole _ (by simp only [slotTree?, returning]; rfl)
      simp only [slotTree?, returning, Option.map_some]
      exact congrArg some (projectionTree_keeps keeps p whole)

theorem fragmentTrees_keeps (c : Clause) (whole : allWhole (s.fragmentTrees inner c) = true) :
    s.fragmentTrees inner' c = s.fragmentTrees inner c := by
  rw [allWhole_iff] at whole
  refine List.filterMap_congr fun slot mem => slotTree?_keeps keeps c slot fun t found => ?_
  exact whole t (List.mem_filterMap.mpr ⟨slot, mem, found⟩)

theorem clauseTree_keeps (c : Clause) (whole : (s.clauseTree inner c).isWhole = true) :
    s.clauseTree inner' c = s.clauseTree inner c := by
  unfold clauseTree at whole ⊢
  cases head : c.head with
  | read optionalClass isOptional patterns =>
    rw [head] at whole
    obtain ⟨patterns, fragments⟩ := (Bool.and_eq_true _ _).mp whole
    simp only [fragmentTrees_keeps keeps c fragments, map_keeps keeps _ patterns]
  | create patterns =>
    rw [head] at whole
    obtain ⟨patterns, fragments⟩ := (Bool.and_eq_true _ _).mp whole
    simp only [fragmentTrees_keeps keeps c fragments, map_keeps keeps _ patterns]
  | project p =>
    rw [head] at whole
    obtain ⟨body, fragments⟩ := (Bool.and_eq_true _ _).mp whole
    simp only [fragmentTrees_keeps keeps c fragments, projectionTree_keeps keeps p body]

/-- The elements of a chain are made of nothing else, unless they are given as they are. -/
theorem elements_keep {s' : Store} {es es' : List Element}
    (alike : List.Forall₂ (Element.Alike s s') es es')
    (whole : allWhole (es.map (Element.tree s.view s.bearer inner)) = true) :
    es.map (Element.tree s.view s.bearer inner') = es.map (Element.tree s.view s.bearer inner) := by
  induction alike with
  | nil => rfl
  | cons first _ ih =>
    obtain ⟨whole, others⟩ := (Bool.and_eq_true _ _).mp whole
    refine congrArg₂ List.cons ?_ (ih others)
    cases first with
    | node alike =>
      cases alike with
      | made _ _ => rfl
    | relationship alike =>
      cases alike with
      | made _ _ _ => rfl
    | @given v _ _ => exact keeps v whole

/-- If nothing in an object is stuck then it is made of parts in which nothing is. -/
theorem treeOf_keeps {R : Value → Value → Prop} {s' : Store} (unassigned : s.assignments = [])
    {h : Nat} {o o' : Object} (alike : Object.Alike R s s' h o o')
    (whole : (s.treeOf inner h o).isWhole = true) : s.treeOf inner' h o = s.treeOf inner h o := by
  cases alike with
  | reference _ | param _ | chain _ => rfl
  | expression exported => exact exported.tree_keeps keeps s.view whole
  | nodeElement alike =>
    cases alike with
    | made _ _ => rfl
  | relationshipElement alike =>
    cases alike with
    | made _ _ _ => rfl
  | pattern alike => exact congrArg Tree.pattern (elements_keep keeps alike whole)
  | @clause c _ _ =>
    simp only [treeOf, isReassigned_eq_false unassigned, Bool.false_eq_true, if_false] at whole ⊢
    exact clauseTree_keeps keeps c whole
  | @statement nodes =>
    simp only [treeOf, nodesOf, standIn?_eq_none unassigned, ofValues] at whole ⊢
    exact congrArg Tree.statement (map_keeps keeps id whole)
  | @union branches all _ =>
    simp only [treeOf, branchesOf, standIn?_eq_none unassigned, ofValues] at whole ⊢
    exact congrArg (Tree.union _) (map_keeps keeps id whole)
  | data isData _ => cases o <;> cases isData <;> cases whole

end Store

end Keeping

/-! ### The tree of a value on its own -/

namespace Store

/-- The tree of a value when only some handles may be looked up, each of them once. -/
def treeFrom (s : Store) (unused : List Nat) (v : Value) : Tree :=
  s.treeWithin unused.length unused v

/-- The tree that a value has on its own. -/
def valueTree (s : Store) (v : Value) : Tree := s.treeFrom (List.range s.next) v

variable {s : Store}

@[simp] theorem valueTree_object (h : Nat) : s.valueTree (.object h) = s.tree h := by
  rw [valueTree, treeFrom, List.length_range, tree]

/-- A literal has no tree. -/
theorem treeFrom_atom (unused : List Nat) (a : Atom) (mark : Nat) :
    s.treeFrom unused (.atom a mark) = .stuck [] .missing := by
  unfold treeFrom
  cases unused <;> rfl

/-- An object that is used up is not looked up. -/
theorem treeFrom_of_not_mem {unused : List Nat} {h : Nat} (absent : h ∉ unused) :
    s.treeFrom unused (.object h) = .stuck [] .endless := by
  unfold treeFrom
  cases unused with
  | nil => rfl
  | cons _ _ => exact if_neg (by simpa using absent)

/-- Nothing is behind a handle. -/
theorem treeFrom_of_missing (unassigned : s.assignments = []) {unused : List Nat} {h : Nat}
    (mem : h ∈ unused) (missing : s.get? h = none) :
    s.treeFrom unused (.object h) = .stuck [] .missing := by
  obtain ⟨depth, length⟩ : ∃ depth, unused.length = depth + 1 :=
    Nat.exists_eq_succ_of_ne_zero (Nat.ne_of_gt (List.length_pos_of_mem mem))
  rw [treeFrom, length, treeWithin]
  simp [mem, hasAssigned_eq_false unassigned, isLacking_eq_false unassigned, missing]

/-- An object is made of parts for which its own handle is used up. -/
theorem treeFrom_object (unassigned : s.assignments = []) {unused : List Nat} {h : Nat} {o : Object}
    (mem : h ∈ unused) (found : s.get? h = some o) :
    s.treeFrom unused (.object h) = s.treeOf (s.treeFrom (unused.erase h)) h o := by
  have length : unused.length = (unused.erase h).length + 1 := by
    rw [List.length_erase_of_mem mem, Nat.sub_add_cancel (List.length_pos_of_mem mem)]
  rw [treeFrom, length, treeWithin]
  simp only [List.contains_eq_mem, mem, decide_true, hasAssigned_eq_false unassigned,
    isLacking_eq_false unassigned, found, if_true, Bool.false_eq_true, if_false]
  rfl

/-- The tree of an object is made of the trees that its parts have inside of it. -/
theorem tree_of_get? (unassigned : s.assignments = []) {h : Nat} {o : Object}
    (found : s.get? h = some o) :
    s.tree h = s.treeOf (s.treeFrom ((List.range s.next).erase h)) h o := by
  rw [← valueTree_object]
  exact treeFrom_object unassigned (List.mem_range.mpr (lt_of_get? found)) found

theorem tree_of_clause (unassigned : s.assignments = []) {h : Nat} {c : Clause}
    (found : s.get? h = some (.clause c)) :
    s.tree h = s.clauseTree (s.treeFrom ((List.range s.next).erase h)) c := by
  rw [tree_of_get? unassigned found]
  simp only [treeOf, isReassigned_eq_false unassigned, Bool.false_eq_true, if_false]

/-- What is not stuck is an object that is there and is not used up. -/
theorem exists_of_treeFrom_whole {unused : List Nat} {v : Value}
    (whole : (s.treeFrom unused v).isWhole = true) :
    ∃ h o, v = .object h ∧ h ∈ unused ∧ s.get? h = some o := by
  cases v with
  | atom a mark =>
    rw [treeFrom_atom] at whole
    cases whole
  | object h =>
    by_cases mem : h ∈ unused
    · obtain ⟨depth, length⟩ : ∃ depth, unused.length = depth + 1 :=
        Nat.exists_eq_succ_of_ne_zero (Nat.ne_of_gt (List.length_pos_of_mem mem))
      rw [treeFrom, length, treeWithin, if_pos (by simpa using mem)] at whole
      cases found : s.get? h with
      | some o => exact ⟨h, o, rfl, mem, found⟩
      | none =>
        rw [found] at whole
        split at whole
        · cases whole
        · split at whole <;> cases whole
    · rw [treeFrom_of_not_mem mem] at whole
      cases whole

section Sound

variable {R : Value → Value → Prop} (like : s.Alike R s)
include like

/-- What is not stuck is the same with more handles to look up. The induction is on how many there
are. -/
theorem treeFrom_keeps {unused unused' : List Nat} (nodup : unused.Nodup)
    (subset : unused ⊆ unused') : Keeps (s.treeFrom unused) (s.treeFrom unused') := by
  induction length : unused.length generalizing unused unused' with
  | zero =>
    intro v whole
    obtain ⟨h, -, -, mem, -⟩ := exists_of_treeFrom_whole whole
    rw [List.length_eq_zero_iff.mp length] at mem
    cases mem
  | succ n ih =>
    intro v whole
    obtain ⟨h, o, rfl, mem, found⟩ := exists_of_treeFrom_whole whole
    have fewer : unused.erase h ⊆ unused'.erase h := by
      intro g other
      obtain ⟨ne, mem⟩ := nodup.mem_erase_iff.mp other
      exact (List.mem_erase_of_ne ne).mpr (subset mem)
    have parts := ih (nodup.erase h) fewer (by rw [List.length_erase_of_mem mem, length]; rfl)
    rw [treeFrom_object like.unassigned mem found] at whole ⊢
    rw [treeFrom_object like.unassigned (subset mem) found]
    exact treeOf_keeps parts like.unassigned (like.objects found found) whole

/-- Where an object is stuck, nothing that is not stuck meets it. -/
theorem treeFrom_avoids {h : Nat} (stuck : (s.tree h).isWhole = false) {unused : List Nat}
    (nodup : unused.Nodup) (subset : unused ⊆ List.range s.next) :
    Keeps (s.treeFrom unused) (s.treeFrom (unused.erase h)) := by
  induction length : unused.length generalizing unused with
  | zero =>
    intro v whole
    obtain ⟨g, -, -, mem, -⟩ := exists_of_treeFrom_whole whole
    rw [List.length_eq_zero_iff.mp length] at mem
    cases mem
  | succ n ih =>
    intro v whole
    obtain ⟨g, o, rfl, mem, found⟩ := exists_of_treeFrom_whole whole
    have ne : g ≠ h := by
      rintro rfl
      have same : s.tree g = s.treeFrom unused (.object g) := by
        rw [← valueTree_object]
        exact treeFrom_keeps like nodup subset _ whole
      rw [same, whole] at stuck
      cases stuck
    have parts := ih (nodup.erase g) (List.Subset.trans List.erase_subset subset)
      (by rw [List.length_erase_of_mem mem, length]; rfl)
    rw [List.erase_comm] at parts
    rw [treeFrom_object like.unassigned mem found] at whole ⊢
    rw [treeFrom_object like.unassigned ((List.mem_erase_of_ne ne).mpr mem) found]
    exact treeOf_keeps parts like.unassigned (like.objects found found) whole

/-- An object is what is made of the trees that its parts have on their own. -/
theorem tree_coincides {h : Nat} {o : Object} (found : s.get? h = some o) :
    (s.tree h).Coincides (s.treeOf s.valueTree h o) := by
  have nodup := List.nodup_range (n := s.next)
  have tree := tree_of_get? like.unassigned found
  have alike := like.objects found found
  have forth : (s.tree h).isWhole = true → s.treeOf s.valueTree h o = s.tree h := by
    rw [tree]
    exact treeOf_keeps (treeFrom_keeps like (nodup.erase h) List.erase_subset) like.unassigned alike
  refine .of_eq forth fun whole => ?_
  cases stuck : (s.tree h).isWhole with
  | true => exact (forth stuck).symm
  | false =>
    rw [tree]
    exact treeOf_keeps (treeFrom_avoids like stuck nodup (List.Subset.refl _)) like.unassigned alike
      whole

end Sound

end Store

end GraphQuery
