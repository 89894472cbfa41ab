import GraphQuery.Proofs.Store.Containment
import GraphQuery.Proofs.Store.Locality

/-!
The sequence of clauses and unions that queries flatten to.

A statement is opened in its place, however deep it is nested, until only clauses and unions are
left. Empty statements leave no trace, and neither do the bounds of statements. Sequences of queries
flatten one after another, so they do so like the elements of a monoid.

* `Store.Flattens`: queries flatten to clauses and unions. `Store.Flattens.unique`: in one way only.
* `Store.Flattens.append`, `Store.Flattens.wrap`: what becomes of it when sequences are put one
  after another, and when a sequence is made a statement.
* `Store.exists_flattens`: every query that does not contain itself flattens.
* `Store.Flattens.leaves_eq`: the trees of the clauses and unions are the leaves of the trees.
-/

namespace GraphQuery

namespace Store

/-- Queries flatten to clauses and unions when all statements among them are opened, with their
nodes in their place. -/
inductive Flattens (s : Store) : List Nat → List Nat → Prop where
  | nil : Flattens s [] []
  | clause {h : Nat} {c : Clause} {rest leaves : List Nat} : s.get? h = some (.clause c) →
      Flattens s rest leaves → Flattens s (h :: rest) (h :: leaves)
  | union {h : Nat} {branches : List Nat} {all : Value} {rest leaves : List Nat} :
      s.get? h = some (.union branches all) → Flattens s rest leaves →
      Flattens s (h :: rest) (h :: leaves)
  | statement {h : Nat} {nodes rest leaves : List Nat} : s.get? h = some (.statement nodes) →
      Flattens s (nodes ++ rest) leaves → Flattens s (h :: rest) leaves

namespace Flattens

variable {s : Store} {hs gs leaves leaves' : List Nat}

/-- Queries flatten one after another. -/
theorem append (flat : s.Flattens hs leaves) (flat' : s.Flattens gs leaves') :
    s.Flattens (hs ++ gs) (leaves ++ leaves') := by
  induction flat with
  | nil => exact flat'
  | clause found _ ih => exact .clause found ih
  | union found _ ih => exact .union found ih
  | @statement h nodes rest _ found _ ih =>
    rw [List.append_assoc] at ih
    exact .statement found ih

/-- A statement flattens like the sequence of its nodes. -/
theorem wrap {h : Nat} (found : s.get? h = some (.statement hs)) (flat : s.Flattens hs leaves) :
    s.Flattens [h] leaves :=
  .statement found (by rwa [List.append_nil])

/-- There is but one sequence that queries flatten to. -/
theorem unique (flat : s.Flattens hs leaves) (flat' : s.Flattens hs leaves') :
    leaves' = leaves := by
  induction flat generalizing leaves' with
  | nil =>
    cases flat'
    rfl
  | clause found _ ih =>
    cases flat' with
    | clause _ flat' => rw [ih flat']
    | union found' _ | statement found' _ => cases found.symm.trans found'
  | union found _ ih =>
    cases flat' with
    | union _ flat' => rw [ih flat']
    | clause found' _ | statement found' _ => cases found.symm.trans found'
  | statement found _ ih =>
    cases flat' with
    | statement found' flat' =>
      cases found.symm.trans found'
      exact ih flat'
    | clause found' _ | union found' _ => cases found.symm.trans found'

/-- What flattens are queries. -/
theorem isQuery (flat : s.Flattens hs leaves) : ∀ h ∈ hs, s.IsQuery h := by
  induction flat with
  | nil => exact fun _ mem => absurd mem List.not_mem_nil
  | clause found _ ih => exact List.forall_mem_cons.mpr ⟨⟨_, found, rfl⟩, ih⟩
  | union found _ ih => exact List.forall_mem_cons.mpr ⟨⟨_, found, rfl⟩, ih⟩
  | statement found _ ih =>
    exact List.forall_mem_cons.mpr ⟨⟨_, found, rfl⟩, (List.forall_mem_append.mp ih).2⟩

variable {R : Value → Value → Prop} (like : s.Alike R s)
include like

/-- Nothing is stuck in queries just in case nothing is stuck in the clauses and unions that they
flatten to. -/
theorem isWhole_iff (flat : s.Flattens hs leaves) :
    (∀ h ∈ hs, (s.tree h).isWhole = true) ↔ ∀ l ∈ leaves, (s.tree l).isWhole = true := by
  induction flat with
  | nil => rfl
  | clause _ _ ih | union _ _ ih => rw [List.forall_mem_cons, List.forall_mem_cons, ih]
  | statement found _ ih =>
    rw [List.forall_mem_cons, ← ih, List.forall_mem_append, isWhole_statement_iff like found]

/-- The leaves of the trees are the trees of the clauses and unions. -/
theorem leaves_eq (flat : s.Flattens hs leaves) (whole : ∀ h ∈ hs, (s.tree h).isWhole = true) :
    (hs.map s.tree).flatMap Tree.leaves = leaves.map s.tree := by
  induction flat with
  | nil => rfl
  | @clause h c rest leaves found _ ih =>
    obtain ⟨first, whole⟩ := List.forall_mem_cons.mp whole
    have tree : s.clauseTree s.valueTree c = s.tree h := by
      have coincides := (tree_coincides like found).eq first
      simpa only [treeOf, isReassigned_eq_false like.unassigned, Bool.false_eq_true, if_false]
        using coincides
    have leaf : (s.tree h).leaves = [s.tree h] := by
      rw [← tree]
      exact Tree.leaves_of_isLeaf (isLeaf_clauseTree _ c)
    rw [List.map_cons, List.flatMap_cons, leaf, ih whole]
    rfl
  | @union h branches all rest leaves found _ ih =>
    obtain ⟨first, whole⟩ := List.forall_mem_cons.mp whole
    have leaf : (s.tree h).leaves = [s.tree h] := by
      rw [← (union_coincides like found).eq first]
      rfl
    rw [List.map_cons, List.flatMap_cons, leaf, ih whole]
    rfl
  | @statement h nodes rest leaves found _ ih =>
    obtain ⟨first, whole⟩ := List.forall_mem_cons.mp whole
    have opened : (s.tree h).leaves = (nodes.map s.tree).flatMap Tree.leaves := by
      rw [← (statement_coincides like found).eq first, Tree.leaves, Tree.allLeaves_eq]
    have nodes_whole := (isWhole_statement_iff like found).mp first
    rw [← ih (List.forall_mem_append.mpr ⟨nodes_whole, whole⟩), List.map_cons, List.flatMap_cons,
      opened, List.map_append, List.flatMap_append]

end Flattens

variable {s : Store}

/-- Where all queries flatten on their own, they flatten one after another. -/
theorem exists_flattens_of_forall {hs : List Nat}
    (each : ∀ h ∈ hs, ∃ leaves, s.Flattens [h] leaves) : ∃ leaves, s.Flattens hs leaves := by
  induction hs with
  | nil => exact ⟨[], .nil⟩
  | cons h hs ih =>
    obtain ⟨⟨leaves, first⟩, each⟩ := List.forall_mem_cons.mp each
    obtain ⟨leaves', others⟩ := ih each
    exact ⟨leaves ++ leaves', first.append others⟩

/-- Every query that does not contain itself flattens. -/
theorem exists_flattens {strict : Prop} (typed : s.Typed strict) {h : Nat} (query : s.IsQuery h)
    (acyclic : s.IsAcyclic h) : ∃ leaves, s.Flattens [h] leaves := by
  have lt : h < s.next := by
    obtain ⟨_, found, _⟩ := query
    exact lt_of_get? found
  refine acyclic.induction (P := fun h => s.IsQuery h → ∃ leaves, s.Flattens [h] leaves) lt ?_ query
  rintro g ih ⟨o, found, isQuery⟩
  cases o with
  | clause c => exact ⟨[g], .clause found .nil⟩
  | union branches all => exact ⟨[g], .union found .nil⟩
  | statement nodes =>
    have queries : ∀ i ∈ nodes, s.IsQuery i := typed.objects found
    have each : ∀ i ∈ nodes, ∃ leaves, s.Flattens [i] leaves := by
      intro i mem
      obtain ⟨o, there, -⟩ := queries i mem
      exact ih i (lt_of_get? there) ⟨_, found, List.mem_map_of_mem mem⟩ (queries i mem)
    obtain ⟨leaves, flat⟩ := exists_flattens_of_forall each
    exact ⟨leaves, .wrap found flat⟩
  | _ => cases isQuery

end Store

end GraphQuery
