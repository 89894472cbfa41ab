import GraphQuery.Proofs.Store.Containment

/-!
What can be said of an object in which nothing is stuck.

All that an object contains is written with it. So if nothing is stuck in the object then nothing is
stuck in what it contains, everything there is usable, and nothing contains itself: what is written
once inside of itself would have to be written over and over again. Together with the converse this
says just when an object can be written.

* `Clause.Fitted`: a clause has no other slots than those that are written.
* `Store.part_isWhole`: the parts of an object in which nothing is stuck.
* `Store.isWhole_of_reaches`: what such an object contains.
* `Store.isWhole_iff`: in a typed store, nothing is stuck in an object just in case nothing in it
  contains itself and everything in it is usable.
-/

namespace GraphQuery

variable {s : Store} {inner : Value → Tree}

/-! ### Parts of what is whole -/

/-- The expression of a column is whole. -/
theorem Column.part_isWhole {c : Column} {variableOf : Value → Option Bearer}
    (whole : (c.tree inner variableOf).isWhole = true) (given : c.expression.isNull = false) :
    (inner c.expression).isWhole = true := by
  have given : c.expression.given? = some c.expression := by simp [Value.given?, given]
  simp only [Column.tree, given] at whole
  cases name : c.name.given? with
  | none =>
    rw [name] at whole
    exact whole
  | some name =>
    simp only [name] at whole
    split at whole
    · exact whole
    · exact whole
    · cases whole

/-- What rows are sorted by is whole. -/
theorem SortItem.part_isWhole {i : SortItem} {view : ObjectView}
    (whole : (i.tree view inner).isWhole = true) : (inner i.expression).isWhole = true := by
  unfold SortItem.tree at whole
  split at whole
  · exact whole
  · split at whole
    · exact whole
    · cases whole

/-- The operands of an expression are whole. -/
theorem Expression.part_isWhole {e : Expression} {view : ObjectView}
    (whole : (e.tree view inner).isWhole = true) {v : Value} (part : v ∈ e.parts)
    (given : v.isNull = false) : (inner v).isWhole = true := by
  have among : ∀ {vs : List Value}, Tree.allWhole (vs.map inner) = true → v ∈ vs →
      (inner v).isWhole = true := fun whole mem =>
    (Tree.allWhole_iff _).mp whole _ (List.mem_map_of_mem mem)
  cases e with
  | property base path =>
    cases List.mem_singleton.mp part
    simp only [Expression.tree] at whole
    split at whole
    · exact whole
    · cases whole
  | comparison operator left right =>
    simp only [Expression.tree] at whole
    rcases List.mem_pair.mp part with rfl | rfl
    · split at whole
      · exact whole
      · exact (Bool.and_eq_true_iff.mp whole).1
      · cases whole
    · rw [show v.given? = some v by simp [Value.given?, given]] at whole
      cases text : operator.plain view with
      | ok s =>
        rw [text] at whole
        exact (Bool.and_eq_true_iff.mp whole).2
      | error f =>
        rw [text] at whole
        cases whole
  | junction operator operands =>
    cases operands with
    | assigned w => cases part
    | made vs =>
      simp only [Expression.tree] at whole
      cases text : operator.plain view with
      | ok s =>
        rw [text] at whole
        exact among whole part
      | error f =>
        rw [text] at whole
        cases whole
  | negation operand =>
    cases List.mem_singleton.mp part
    exact whole
  | call name arguments =>
    cases arguments with
    | assigned w => cases part
    | made vs =>
      simp only [Expression.tree] at whole
      cases text : name.plain view with
      | ok s =>
        rw [text] at whole
        exact among whole part
      | error f =>
        rw [text] at whole
        cases whole

/-- What was given for an element of a chain is whole. -/
theorem Element.part_isWhole {e : Element} {view : ObjectView}
    {bearer : Value → Except Fault Bearer} (whole : (e.tree view bearer inner).isWhole = true)
    {v : Value} (part : v ∈ e.parts) : (inner v).isWhole = true := by
  cases e with
  | node n | relationship r => cases part
  | given w =>
    cases List.mem_singleton.mp part
    exact whole

/-- The elements of a pattern are whole. -/
theorem Pattern.element_isWhole {es : List Element} {view : ObjectView}
    {bearer : Value → Except Fault Bearer}
    (whole : ((⟨.made es⟩ : Pattern).tree view bearer inner).isWhole = true) {e : Element}
    (mem : e ∈ es) : (e.tree view bearer inner).isWhole = true :=
  (Tree.allWhole_iff _).mp whole _ (List.mem_map_of_mem mem)

/-- A clause has no other slots than those that are written. -/
def Clause.Fitted (c : Clause) : Prop := ∀ slot, c.has slot = true → slot ∈ c.head.manifest

namespace Store

/-- The columns and the sort items of a projection are whole. -/
theorem part_isWhole_projection {p : Projection} (whole : (s.projectionTree inner p).isWhole = true)
    {v : Value} (part : v ∈ p.parts) (given : v.isNull = false) : (inner v).isWhole = true := by
  obtain ⟨columns, sortItems⟩ := Bool.and_eq_true_iff.mp whole
  rw [Tree.allWhole_iff, List.forall_mem_map] at columns sortItems
  rcases List.mem_append.mp part with part | part
  · obtain ⟨c, mem, rfl⟩ := List.mem_map.mp part
    exact Column.part_isWhole (columns c mem) given
  · obtain ⟨i, mem, rfl⟩ := List.mem_map.mp part
    exact SortItem.part_isWhole (sortItems i mem)

/-- What a clause is made of is whole. -/
theorem part_isWhole_clause {c : Clause} (fitted : c.Fitted)
    (whole : (s.clauseTree inner c).isWhole = true) {v : Value} (part : v ∈ c.parts)
    (given : v.isNull = false) : (inner v).isWhole = true := by
  obtain ⟨head, fragments⟩ : (∀ v ∈ c.head.parts, v.isNull = false → (inner v).isWhole = true) ∧
      Tree.allWhole (s.fragmentTrees inner c) = true := by
    unfold clauseTree at whole
    cases eq : c.head with
    | read _ _ hs | create hs =>
      rw [eq] at whole
      obtain ⟨patterns, fragments⟩ := Bool.and_eq_true_iff.mp whole
      rw [Tree.allWhole_iff, List.forall_mem_map] at patterns
      exact ⟨List.forall_mem_map.mpr fun h mem _ => patterns h mem, fragments⟩
    | project p =>
      rw [eq] at whole
      obtain ⟨body, fragments⟩ := Bool.and_eq_true_iff.mp whole
      exact ⟨fun v part => part_isWhole_projection body part, fragments⟩
  rw [Tree.allWhole_iff] at fragments
  have written : ∀ {t : Tree} (slot : Slot), c.has slot = true →
      s.slotTree? inner c slot = some t → t.isWhole = true := fun slot has found =>
    fragments _ (List.mem_filterMap.mpr ⟨slot, fitted slot has, found⟩)
  simp only [Clause.parts, List.mem_append] at part
  rcases part with ((((part | part) | part) | part) | part) | part
  · exact head v part given
  · have eq : c.filter = some v := Option.mem_toList.mp part
    exact written (t := .filter (inner v)) .filter (by rw [Clause.has, eq]; rfl)
      (by rw [slotTree?, eq]; rfl)
  · obtain ⟨e, mem, part⟩ := List.mem_flatMap.mp part
    have pairs := written .assignment (by cases eq : c.assignments <;> simp_all [Clause.has])
      ((slotTree?_assignment_iff s inner c).mpr ⟨List.ne_nil_of_mem mem, rfl⟩)
    rw [Tree.isWhole, Tree.pairsWhole_iff, List.forall_mem_map] at pairs
    rcases List.mem_pair.mp part with rfl | rfl
    · exact (pairs e mem).1
    · exact (pairs e mem).2
  · have properties := written .removal (by cases eq : c.removals <;> simp_all [Clause.has])
      ((slotTree?_removal_iff s inner c).mpr ⟨List.ne_nil_of_mem part, rfl⟩)
    rw [Tree.isWhole, Tree.allWhole_iff, List.forall_mem_map] at properties
    exact properties v part
  · cases eq : c.passing with
    | none =>
      rw [eq] at part
      cases part
    | some p =>
      rw [eq] at part
      exact part_isWhole_projection (written .passing (by rw [Clause.has, eq]; rfl)
        (by rw [slotTree?, eq]; rfl)) part given
  · cases eq : c.returning with
    | none =>
      rw [eq] at part
      cases part
    | some p =>
      rw [eq] at part
      exact part_isWhole_projection (written .returning (by rw [Clause.has, eq]; rfl)
        (by rw [slotTree?, eq]; rfl)) part given

/-- What an object is made of is whole. -/
theorem part_isWhole (unassigned : s.assignments = []) {h : Nat} {o : Object}
    (fitted : ∀ c, o = .clause c → c.Fitted) (whole : (s.treeOf inner h o).isWhole = true)
    {v : Value} (part : v ∈ o.parts) (given : v.isNull = false) : (inner v).isWhole = true := by
  cases o with
  | expression e => exact Expression.part_isWhole whole part given
  | pattern p =>
    obtain ⟨elements⟩ := p
    cases elements with
    | assigned w => cases part
    | made es =>
      obtain ⟨e, mem, part⟩ := List.mem_flatMap.mp part
      exact Element.part_isWhole (Pattern.element_isWhole whole mem) part
  | clause c =>
    simp only [treeOf, isReassigned_eq_false unassigned, Bool.false_eq_true, if_false] at whole
    exact part_isWhole_clause (fitted c rfl) whole part given
  | statement nodes | union nodes all =>
    simp only [treeOf, nodesOf, branchesOf, standIn?_eq_none unassigned, ofValues] at whole
    exact (Tree.allWhole_iff _).mp whole _ (List.mem_map_of_mem part)
  | _ => cases part

/-- An object in which nothing is stuck can stand in a query. -/
theorem isCompilable_of_isWhole {h : Nat} {o : Object}
    (whole : (s.treeOf inner h o).isWhole = true) : o.isCompilable = true := by
  cases o <;> first | rfl | cases whole

/-- What is not checked is of use in an object in which nothing is stuck. -/
theorem usable_of_isWhole {R : Value → Value → Prop} {s' : Store} {h : Nat} {o : Object}
    (alike : Object.Alike R s s' h o o) (stands : ∀ v, (inner v).isWhole = true → s.Stands v)
    (whole : (s.treeOf inner h o).isWhole = true) : o.Usable s := by
  cases alike with
  | expression exported =>
    cases exported with
    | property => exact stands _ whole
    | _ => trivial
  | relationshipElement alike => exact alike.isWhole_iff.mp whole
  | @pattern es _ alike =>
    rintro _ ⟨⟩ r mem
    cases List.forall₂_same.mp alike _ mem with
    | relationship alike => exact alike.isWhole_iff.mp (Pattern.element_isWhole whole mem)
  | data isData _ =>
    have compilable := isCompilable_of_isWhole whole
    rw [Object.isCompilable_of_isData isData] at compilable
    cases compilable
  | _ => trivial

/-! ### What a whole object contains -/

section Inside

variable {R : Value → Value → Prop} (like : s.Alike R s)
include like

/-- What is whole with some handles to look up can stand in a query. -/
theorem stands_of_treeFrom {unused : List Nat} {v : Value}
    (whole : (s.treeFrom unused v).isWhole = true) : s.Stands v := by
  obtain ⟨h, o, rfl, mem, found⟩ := exists_of_treeFrom_whole whole
  rw [treeFrom_object like.unassigned mem found] at whole
  exact ⟨o, found, isCompilable_of_isWhole whole⟩

variable (fitted : ∀ ⦃h c⦄, s.get? h = some (.clause c) → c.Fitted)
include fitted

/-- What an object contains is whole without the handle of the object. -/
theorem treeFrom_isWhole_of_contains {unused : List Nat} {h g : Nat}
    (whole : (s.treeFrom unused (.object h)).isWhole = true) (contains : s.Contains h g) :
    (s.treeFrom (unused.erase h) (.object g)).isWhole = true := by
  obtain ⟨_, _, ⟨⟩, mem, -⟩ := exists_of_treeFrom_whole whole
  obtain ⟨o, found, part⟩ := contains
  rw [treeFrom_object like.unassigned mem found] at whole
  exact part_isWhole like.unassigned (fun c eq => fitted (eq ▸ found)) whole part rfl

/-- The handles in a whole object are among those that may be looked up. -/
theorem mem_of_reaches {h g : Nat} (reaches : Relation.ReflTransGen s.Contains h g)
    {unused : List Nat} (whole : (s.treeFrom unused (.object h)).isWhole = true) : g ∈ unused := by
  induction reaches using Relation.ReflTransGen.head_induction_on generalizing unused with
  | refl =>
    obtain ⟨_, _, ⟨⟩, mem, -⟩ := exists_of_treeFrom_whole whole
    exact mem
  | head contains _ ih =>
    exact List.mem_of_mem_erase (ih (treeFrom_isWhole_of_contains like fitted whole contains))

/-- A whole object does not contain itself. -/
theorem not_cycle_of_isWhole {h : Nat} (whole : (s.tree h).isWhole = true) :
    ¬ Relation.TransGen s.Contains h h := by
  intro cycle
  obtain ⟨g, contains, reaches⟩ := Relation.TransGen.head'_iff.mp cycle
  rw [← valueTree_object] at whole
  have mem : h ∈ (List.range s.next).erase h :=
    mem_of_reaches like fitted reaches (treeFrom_isWhole_of_contains like fitted whole contains)
  exact (List.nodup_range.mem_erase_iff.mp mem).1 rfl

/-- Everything in a whole object is whole. -/
theorem isWhole_of_reaches {h g : Nat} (reaches : Relation.ReflTransGen s.Contains h g)
    (whole : (s.tree h).isWhole = true) : (s.tree g).isWhole = true := by
  induction reaches with
  | refl => exact whole
  | tail _ contains ih =>
    obtain ⟨o, found, part⟩ := contains
    rw [← (tree_coincides like found).isWhole_eq] at ih
    rw [← valueTree_object]
    exact part_isWhole like.unassigned (fun c eq => fitted (eq ▸ found)) ih part rfl

/-- In a typed store, nothing is stuck in an object just in case it can be written, nothing in it
contains itself and everything in it is usable. -/
theorem isWhole_iff {strict : Prop} (typed : s.Typed strict) {h : Nat} :
    (s.tree h).isWhole = true ↔ s.Stands (.object h) ∧ s.IsAcyclic h ∧ s.IsUsable h := by
  refine ⟨fun whole => ?_, fun ⟨stands, acyclic, usable⟩ =>
    isWhole_of_usable like typed stands acyclic usable⟩
  have inside := fun g reaches => isWhole_of_reaches like fitted (g := g) reaches whole
  refine ⟨?_, fun g reaches => not_cycle_of_isWhole like fitted (inside g reaches),
    fun g o reaches found => ?_⟩
  · rw [← valueTree_object] at whole
    exact stands_of_treeFrom like whole
  · have whole := inside g reaches
    rw [tree_of_get? like.unassigned found] at whole
    exact usable_of_isWhole (like.objects found found) (fun v => stands_of_treeFrom like) whole

end Inside

end Store

end GraphQuery
