import GraphQuery.Proofs.Rendering.Stability
import GraphQuery.Proofs.Store.Typing
import GraphQuery.Proofs.Tree.Made
import GraphQuery.Store.Tree

/-!
The trees of a sound store are those that the library makes.

In such a store operators and functions are words of the library, references and parameters are the
objects of their handles, and chains are made of elements. So every object has a tree that the
library makes, which speaks of references and parameters of the store alone. In a typed store its
boolean combinations have several operands.

* `Store.grounds`: the references and parameters of a store.
* `Store.Alike.tree_made`: the tree of an object is one that the library makes.
* `Store.Alike.tree_clean`: it is clean.
-/

namespace GraphQuery

/-- What templates may speak of: the references and parameters that are there. -/
def Store.grounds (s : Store) : Grounds where
  bearer b := ∃ r, b = .reference r ∧ s.get? r.id = some (.reference r)
  param p := s.get? p.id = some (.param p)

/-- A tidy segment labels references alone. -/
theorem Segment.Tidy.references {s : Store} {segment : Segment} (tidy : segment.Tidy s.grounds) :
    ∀ b, segment.bearer? = some b → ∃ r, b = .reference r := by
  intro b isBearer
  have grounded : s.grounds.bearer b := by
    cases segment <;> cases isBearer <;> exact tidy
  obtain ⟨r, eq, -⟩ := grounded
  exact ⟨r, eq⟩

/-- The object is a node or a relationship of a pattern. -/
def Object.isElement : Object → Bool
  | nodeElement _ | relationshipElement _ => true
  | _ => false

/-- The tree of a value is one that the library makes, and an element if the value is one. -/
structure Store.Makes (strict : Prop) (s : Store) (v : Value) (t : Tree) : Prop where
  made : t.Made strict s.grounds
  element : s.IsElement v → t.isElement = true

variable {R : Value → Value → Prop} {strict : Prop} {s s' : Store}

/-- Nothing can be written in the place of a value. -/
theorem Store.makes_stuck (strict : Prop) (s : Store) (v : Value) (f : Fault) :
    s.Makes strict v (.stuck [] f) :=
  ⟨.stuck f, fun _ => rfl⟩

/-- What is no element of a chain need not be written as one. -/
theorem Store.makes_of_made {h : Nat} {o : Object} {t : Tree} (found : s.get? h = some o)
    (noElement : o.isElement = false) (made : t.Made strict s.grounds) :
    s.Makes strict (.object h) t := by
  refine ⟨made, fun isElement => ?_⟩
  have isElement : o.isElement = true := by
    rcases isElement with ⟨n, found'⟩ | ⟨r, found'⟩
    · cases found.symm.trans found'
      rfl
    · cases found.symm.trans found'
      rfl
  rw [noElement] at isElement
  cases isElement

theorem Reference.Held.grounded {r : Reference} (h : r.Held s s') :
    s.grounds.bearer (.reference r) := ⟨r, rfl, h.found⟩

theorem Param.Alike.grounded {p p' : Param} (h : p.Alike s s' p') : s.grounds.param p := h.found

theorem grounded_of_optionRel {p? p?' : Option Param} (h : Option.Rel (Param.Alike s s') p? p?') :
    ∀ p, p? = some p → s.grounds.param p := by
  rintro p rfl
  cases h with
  | some alike => exact alike.grounded

/-- The properties of an element are parameters of the store. -/
theorem PropertiesAlike.tree_made {ps ps' : List (Name × Param)} (h : PropertiesAlike s s' ps ps') :
    ∀ p ∈ ps.map propertyTree, p.2.Made strict s.grounds := by
  unfold PropertiesAlike at h
  induction h with
  | nil => exact fun _ mem => absurd mem List.not_mem_nil
  | cons first _ ih =>
    rw [List.map_cons, List.forall_mem_cons]
    exact ⟨.key first.2.grounded, ih⟩

/-- A variable that is the name of a column is a reference of the store. -/
theorem Store.Alike.grounded_variable (like : s.Alike R s') {v : Value} {b : Bearer}
    (eq : s.variableOf? v = some b) : s.grounds.bearer b := by
  unfold variableOf? at eq
  split at eq
  · rename_i id stem found
    cases eq
    refine ⟨⟨id, stem, .var⟩, rfl, ?_⟩
    rcases like.object?_cases v with ⟨absent, -⟩ | ⟨h, o, o', rfl, found', -, alike⟩
    · rw [absent] at found
      cases found
    · rw [found] at found'
      cases found'
      cases alike with
      | reference eq =>
        rw [eq]
        exact found
      | data isData _ => cases isData
  · cases eq

/-! ### Parts -/

section Elements

variable (strict : Prop) (inner : Value → Tree)

/-- A node of a pattern is an element that the library makes. -/
theorem NodeElement.Alike.tree_made {n n' : NodeElement} (alike : n.Alike s s' n') :
    (n.tree s.view s.bearer inner).Made strict s.grounds ∧
      (n.tree s.view s.bearer inner).isElement = true := by
  cases alike with
  | @made _ labels _ _ held ps => exact ⟨.node labels held.grounded ps.tree_made, rfl⟩

/-- A relationship of a pattern is an element that the library makes. -/
theorem RelationshipElement.Alike.tree_made {r r' : RelationshipElement}
    (alike : r.Alike s s' r') :
    (r.tree s.view s.bearer inner).Made strict s.grounds ∧
      (r.tree s.view s.bearer inner).isElement = true := by
  cases alike with
  | @made r type _ _ d held _ ps =>
    simp only [RelationshipElement.tree, Attribute.resolve]
    cases typeOf s.view type with
    | error f => exact ⟨.halted f (.label held.grounded), rfl⟩
    | ok type => exact ⟨.relationship type d held.grounded ps.tree_made, rfl⟩

end Elements

section Parts

variable {inner : Value → Tree} (parts : ∀ v, s.Makes strict v (inner v))
include parts

/-- The trees of values are made. -/
theorem made_trees (vs : List Value) : ∀ t ∈ vs.map inner, t.Made strict s.grounds :=
  List.forall_mem_map.mpr fun v _ => (parts v).made

theorem Expression.Exported.tree_made {e : Expression} (exported : e.Exported)
    (typed : strict → e.Typed False s) (view : ObjectView) :
    (e.tree view inner).Made strict s.grounds := by
  cases exported with
  | property => exact .property _ (parts _).made
  | @comparison operator left right mem given =>
    have given : right.given? = some right := by simp [Value.given?, given]
    simp only [Expression.tree, given]
    exact .comparison mem (parts _).made (parts _).made
  | check mem => exact .check mem (parts _).made
  | junction mem =>
    refine .junction mem (fun asked => ?_) (made_trees parts _)
    rw [List.length_map]
    cases typed asked with
    | junction several _ => exact several
  | negation => exact .negation (parts _).made
  | call mem => exact .call mem (made_trees parts _)

theorem SortItem.Exported.tree_made {i : SortItem} (exported : i.Exported) (view : ObjectView) :
    (i.tree view inner).Made strict s.grounds := by
  cases exported with
  | made mem =>
    unfold SortItem.tree
    split
    · exact .column (parts _).made
    · exact .sorted mem (parts _).made

theorem Column.tree_made (like : s.Alike R s') (c : Column) :
    (c.tree inner s.variableOf?).Made strict s.grounds := by
  unfold Column.tree
  split
  · exact .star
  · exact .column (parts _).made
  · split
    · rename_i found
      exact .aliasedBearer (like.grounded_variable found) (parts _).made
    · exact .aliased _ (parts _).made
    · exact .halted _ (parts _).made

theorem Element.Alike.tree_made {e e' : Element} (alike : e.Alike s s' e') :
    (e.tree s.view s.bearer inner).Made strict s.grounds ∧
      (e.tree s.view s.bearer inner).isElement = true := by
  cases alike with
  | node n => exact n.tree_made strict inner
  | relationship r => exact r.tree_made strict inner
  | given isElement _ => exact ⟨(parts _).made, (parts _).element isElement⟩

theorem Projection.Alike.tree_made (like : s.Alike R s') {p p' : Projection}
    (alike : p.Alike s s' p') : (s.projectionTree inner p).Made strict s.grounds := by
  refine .projection _ _ ?_ ?_ (grounded_of_optionRel alike.ordering.skip)
    (grounded_of_optionRel alike.ordering.limit)
  · exact List.forall_mem_map.mpr fun c _ => c.tree_made parts like
  · exact List.forall_mem_map.mpr fun i mem => (alike.ordering.exported i mem).tree_made parts _

theorem Projection.made_of_optionRel (like : s.Alike R s') {p? p?' : Option Projection}
    (alike : Option.Rel (Projection.Alike s s') p? p?') {t : Tree}
    (eq : p?.map (s.projectionTree inner) = some t) : t.Made strict s.grounds := by
  cases alike with
  | none => cases eq
  | some p =>
    cases eq
    exact p.tree_made parts like

/-- The fragment in a slot is made. -/
theorem Clause.Alike.slot_made (like : s.Alike R s') {c c' : Clause} (alike : c.Alike s s' c')
    {slot : Slot} {t : Tree} (eq : s.slotTree? inner c slot = some t) :
    t.Made strict s.grounds := by
  cases slot with
  | path => cases eq
  | filter =>
    obtain ⟨v, -, rfl⟩ := Option.map_eq_some_iff.mp eq
    exact .filter (parts v).made
  | assignment =>
    simp only [Store.slotTree?] at eq
    split at eq
    · cases eq
    · cases eq
      exact .assignments (List.forall_mem_map.mpr fun e _ => (parts _).made)
        (List.forall_mem_map.mpr fun e _ => (parts _).made)
  | removal =>
    simp only [Store.slotTree?] at eq
    split at eq
    · cases eq
    · cases eq
      exact .removals (made_trees parts _)
  | deletion =>
    simp only [Store.slotTree?] at eq
    split at eq
    · cases eq
    · cases eq
    · rename_i references detach deletion
      cases eq
      refine .deletions _ (List.forall_mem_map.mpr fun r mem => ?_)
      exact .label (alike.deletion _ deletion r mem).grounded
  | passing => exact Projection.made_of_optionRel parts like alike.passing eq
  | returning => exact Projection.made_of_optionRel parts like alike.returning eq

theorem Clause.Alike.tree_made (like : s.Alike R s') {c c' : Clause} (alike : c.Alike s s' c') :
    (s.clauseTree inner c).Made strict s.grounds := by
  have fragments : ∀ t ∈ s.fragmentTrees inner c, t.Made strict s.grounds := by
    intro t mem
    obtain ⟨slot, -, eq⟩ := List.mem_filterMap.mp mem
    exact alike.slot_made parts like eq
  have paths : ∀ b, c.path.join.map .reference = some b → s.grounds.bearer b := by
    intro b eq
    obtain ⟨r, found, rfl⟩ := Option.map_eq_some_iff.mp eq
    exact (alike.path r found).grounded
  have patterns : ∀ hs : List Nat, ∀ t ∈ hs.map fun h => inner (.object h),
      t.Made strict s.grounds := fun hs => List.forall_mem_map.mpr fun h _ => (parts _).made
  have head := alike.head
  unfold Store.clauseTree
  generalize c.head = k at head
  generalize c'.head = k' at head
  cases head with
  | @read _ isOptional _ _ =>
    have keyword : s.readKeyword isOptional ∈ clauseKeywords := by
      unfold Store.readKeyword
      split <;> decide
    exact .patternClause keyword paths (patterns _) fragments
  | create => exact .patternClause (by decide) paths (patterns _) fragments
  | project p => exact .projectionClause (p.tree_made parts like) fragments

end Parts

/-! ### Objects -/

namespace Store.Alike

section Strict

variable (like : s.Alike R s') (typed : strict → s.Typed False)
include like typed

/-- The tree of an object is made, given those of its parts. -/
theorem makes_treeOf {inner : Value → Tree} (parts : ∀ v, s.Makes strict v (inner v)) {h : Nat}
    {o o' : Object} (found : s.get? h = some o) (alike : Object.Alike R s s' h o o') :
    s.Makes strict (.object h) (s.treeOf inner h o) := by
  cases alike with
  | nodeElement n =>
    have tree := n.tree_made strict inner
    exact ⟨tree.1, fun _ => tree.2⟩
  | relationshipElement r =>
    have tree := r.tree_made strict inner
    exact ⟨tree.1, fun _ => tree.2⟩
  | @reference r eq =>
    have held : s.get? r.id = some (.reference r) := by rw [eq, found]
    exact makes_of_made found rfl (.label ⟨r, rfl, held⟩)
  | param _ => exact makes_of_made found rfl (.key found)
  | expression exported =>
    exact makes_of_made found rfl
      (exported.tree_made parts (fun asked => (typed asked).objects found) _)
  | @pattern es es' elements =>
    have made : ∀ e ∈ es, (e.tree s.view s.bearer inner).Made strict s.grounds ∧
        (e.tree s.view s.bearer inner).isElement = true := by
      intro e mem
      obtain ⟨i, lt, rfl⟩ := List.getElem_of_mem mem
      have lt' : i < es'.length := elements.length_eq ▸ lt
      exact (elements.get lt lt').tree_made parts
    exact makes_of_made found rfl (.pattern (List.forall_mem_map.mpr fun e mem => (made e mem).2)
      (List.forall_mem_map.mpr fun e mem => (made e mem).1))
  | clause c =>
    simp only [Store.treeOf, isReassigned_eq_false like.unassigned]
    exact makes_of_made found rfl (c.tree_made parts like)
  | statement =>
    simp only [Store.treeOf, nodesOf, standIn?_eq_none like.unassigned, ofValues]
    exact makes_of_made found rfl (.statement (made_trees parts _))
  | @union _ all _ =>
    have keyword : s.unionKeyword all ∈ unionKeywords := by
      unfold Store.unionKeyword
      split <;> decide
    simp only [Store.treeOf, branchesOf, standIn?_eq_none like.unassigned, ofValues]
    exact makes_of_made found rfl (.union keyword (made_trees parts _))
  | chain _ => exact s.makes_stuck strict _ _
  | data isData _ => cases o <;> cases isData <;> exact s.makes_stuck strict _ _

/-- Every value has a tree that the library makes. The induction is on how many handles may still be
looked up. -/
theorem makes_treeWithin (depth : Nat) (unused : List Nat) (v : Value) :
    s.Makes strict v (s.treeWithin depth unused v) := by
  induction depth generalizing unused v with
  | zero => cases v <;> exact s.makes_stuck strict _ _
  | succ depth ih =>
    cases v with
    | atom a mark => exact s.makes_stuck strict _ _
    | object h =>
      simp only [Store.treeWithin, hasAssigned_eq_false like.unassigned,
        isLacking_eq_false like.unassigned]
      split
      · rcases like.get?_cases h with ⟨absent, -⟩ | ⟨o, o', found, -, alike⟩
        · rw [absent]
          exact s.makes_stuck strict _ _
        · rw [found]
          exact like.makes_treeOf typed (ih (unused.erase h)) found alike
      · exact s.makes_stuck strict _ _

/-- Every object has a tree that the library makes. -/
theorem tree_made (h : Nat) : (s.tree h).Made strict s.grounds :=
  (like.makes_treeWithin typed _ _ _).made

end Strict

/-- Every object has a clean tree, which speaks of references and parameters of the store alone. -/
theorem tree_clean (like : s.Alike R s') (h : Nat) : (s.tree h).Clean s.grounds :=
  (like.tree_made False.elim h).clean

end Store.Alike

end GraphQuery
