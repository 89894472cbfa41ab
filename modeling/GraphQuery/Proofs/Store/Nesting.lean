import GraphQuery.Proofs.Compile.Query
import GraphQuery.Proofs.Store.Wholeness
import GraphQuery.Proofs.Tree.Strands

/-!
Queries that are nested in queries.

Statements and unions are the queries that others are nested in, to any depth. What a query is like
can be told from its nested ones, kind by kind, since a query that can be written comes to an end.

* `Store.Nests`: a query is a node of a statement, or a branch of a union.
* `Store.IsHollow`: there is nothing but statements in a query.
* `Store.Assembled.query_induction`: what holds of clauses, and of statements and unions if it holds
  of what is nested in them, holds of all queries that can be written.
* `Store.Assembled.strands_eq_nil_iff`, `Store.Assembled.keyword_mem_strands_iff`,
  `Store.Assembled.isNeat_iff`: the strands of a query, by what is nested in it.
-/

namespace GraphQuery

namespace Store

/-- A query is nested in another one: it is a node of a statement, or a branch of a union. -/
inductive Nests (s : Store) (h g : Nat) : Prop where
  | node {nodes : List Nat} (found : s.get? h = some (.statement nodes)) (mem : g ∈ nodes)
  | branch {branches : List Nat} {all : Value} (found : s.get? h = some (.union branches all))
    (mem : g ∈ branches)

/-- There is nothing but statements in a query, itself included. -/
def IsHollow (s : Store) (h : Nat) : Prop :=
  ∀ g, Relation.ReflTransGen s.Nests h g → ∃ nodes, s.get? g = some (.statement nodes)

/-- There is a union in a query with a word between its branches. -/
def HasUnion (s : Store) (h : Nat) (word : String) : Prop :=
  ∃ g, Relation.ReflTransGen s.Nests h g ∧
    ∃ branches all, s.get? g = some (.union branches all) ∧ s.unionKeyword all = word

/-- No union in a query has a branch in which there is nothing but statements. -/
def IsFilled (s : Store) (h : Nat) : Prop :=
  ∀ g, Relation.ReflTransGen s.Nests h g →
    ∀ branches all, s.get? g = some (.union branches all) → ∀ b ∈ branches, ¬ s.IsHollow b

variable {s : Store} {h g : Nat}

/-! ### What is nested -/

theorem nests_clause_iff {c : Clause} (found : s.get? h = some (.clause c)) :
    s.Nests h g ↔ g ∈ ([] : List Nat) := by
  refine iff_of_false ?_ List.not_mem_nil
  rintro (⟨found', _⟩ | ⟨found', _⟩) <;> cases found.symm.trans found'

theorem nests_statement_iff {nodes : List Nat} (found : s.get? h = some (.statement nodes)) :
    s.Nests h g ↔ g ∈ nodes := by
  refine ⟨?_, fun mem => .node found mem⟩
  rintro (⟨found', mem⟩ | ⟨found', mem⟩)
  · cases found.symm.trans found'
    exact mem
  · cases found.symm.trans found'

theorem nests_union_iff {branches : List Nat} {all : Value}
    (found : s.get? h = some (.union branches all)) : s.Nests h g ↔ g ∈ branches := by
  refine ⟨?_, fun mem => .branch found mem⟩
  rintro (⟨found', mem⟩ | ⟨found', mem⟩)
  · cases found.symm.trans found'
  · cases found.symm.trans found'
    exact mem

section Within

variable {hs : List Nat} (nests : ∀ g, s.Nests h g ↔ g ∈ hs)
include nests

/-- What is in a query is the query, or in one that is nested in it. -/
theorem reaches_iff : Relation.ReflTransGen s.Nests h g ↔
    h = g ∨ ∃ i ∈ hs, Relation.ReflTransGen s.Nests i g := by
  rw [Relation.ReflTransGen.cases_head_iff]
  simp only [nests]

/-- What holds of all that is in a query holds of the query and of what is in those nested in it. -/
theorem forall_reaches_iff {Q : Nat → Prop} :
    (∀ g, Relation.ReflTransGen s.Nests h g → Q g) ↔
      Q h ∧ ∀ i ∈ hs, ∀ g, Relation.ReflTransGen s.Nests i g → Q g := by
  simp only [reaches_iff nests]
  constructor
  · intro all
    exact ⟨all h (.inl rfl), fun i mem g reaches => all g (.inr ⟨i, mem, reaches⟩)⟩
  · rintro ⟨first, others⟩ g (rfl | ⟨i, mem, reaches⟩)
    · exact first
    · exact others i mem g reaches

/-- There is nothing but statements in a query if it is one and so are all that are nested in it. -/
theorem isHollow_iff : s.IsHollow h ↔
    (∃ nodes, s.get? h = some (.statement nodes)) ∧ ∀ i ∈ hs, s.IsHollow i :=
  forall_reaches_iff nests

/-- There is a union in a query if it is one, or if there is one in a query nested in it. -/
theorem hasUnion_iff {word : String} : s.HasUnion h word ↔
    (∃ branches all, s.get? h = some (.union branches all) ∧ s.unionKeyword all = word) ∨
    ∃ i ∈ hs, s.HasUnion i word := by
  unfold HasUnion
  simp only [reaches_iff nests]
  constructor
  · rintro ⟨g, rfl | ⟨i, mem, reaches⟩, union⟩
    · exact .inl union
    · exact .inr ⟨i, mem, g, reaches, union⟩
  · rintro (union | ⟨i, mem, g, reaches, union⟩)
    · exact ⟨h, .inl rfl, union⟩
    · exact ⟨g, .inr ⟨i, mem, reaches⟩, union⟩

/-- The branches of the unions in a query are filled if those of the query are, should it be a
union, and those of the unions nested in it. -/
theorem isFilled_iff : s.IsFilled h ↔
    (∀ branches all, s.get? h = some (.union branches all) → ∀ b ∈ branches, ¬ s.IsHollow b) ∧
    ∀ i ∈ hs, s.IsFilled i :=
  forall_reaches_iff nests

end Within

/-! ### Queries by what is nested in them -/

namespace Assembled

variable (assembled : s.Assembled)
include assembled

/-- What holds of clauses, and of statements and unions if it holds of what is nested in them, holds
of all queries in which nothing is stuck. -/
theorem query_induction {P : Nat → Prop}
    (clause : ∀ h c, s.get? h = some (.clause c) → (s.tree h).isLeaf = true →
      (s.tree h).strands = [.clause (s.tree h)] → P h)
    (statement : ∀ h nodes, s.get? h = some (.statement nodes) →
      s.tree h = .statement (nodes.map s.tree) →
      (∀ g ∈ nodes, s.IsQuery g ∧ (s.tree g).isWhole = true ∧ P g) → P h)
    (union : ∀ h branches all, s.get? h = some (.union branches all) →
      s.tree h = .union (s.unionKeyword all) (branches.map s.tree) →
      2 ≤ (branches.map s.tree).length →
      (∀ g ∈ branches, s.IsQuery g ∧ (s.tree g).isWhole = true ∧ P g) → P h)
    (query : s.IsQuery h) (whole : (s.tree h).isWhole = true) : P h := by
  have like := assembled.sound
  have typed := assembled.typed
  have fitted : ∀ ⦃h c⦄, s.get? h = some (.clause c) → c.Fitted :=
    fun _ _ found => (assembled.proper found).slots
  have acyclic : s.IsAcyclic h := ((isWhole_iff like fitted typed).mp whole).2.1
  have lt : h < s.next := by
    obtain ⟨_, found, _⟩ := query
    exact lt_of_get? found
  refine acyclic.induction (P := fun h => s.IsQuery h → (s.tree h).isWhole = true → P h) lt ?_
    query whole
  rintro h ih ⟨o, found, isQuery⟩ whole
  -- The queries that are handed to it are parts of the object.
  have nested : ∀ gs : List Nat, o.parts = gs.map .object → (∀ g ∈ gs, s.IsQuery g) →
      (∀ g ∈ gs, (s.tree g).isWhole = true) →
      ∀ g ∈ gs, s.IsQuery g ∧ (s.tree g).isWhole = true ∧ P g := by
    intro gs parts queries wholes g mem
    obtain ⟨_, there, -⟩ := queries g mem
    refine ⟨queries g mem, wholes g mem, ih g (lt_of_get? there) ⟨o, found, ?_⟩ (queries g mem)
      (wholes g mem)⟩
    rw [parts]
    exact List.mem_map_of_mem mem
  cases o with
  | clause c =>
    have tree : s.clauseTree s.valueTree c = s.tree h := by
      have coincides := (tree_coincides like found).eq whole
      simpa only [treeOf, isReassigned_eq_false like.unassigned, Bool.false_eq_true, if_false]
        using coincides
    refine clause h c found ?_ ?_
    · rw [← tree]
      exact isLeaf_clauseTree _ c
    · rw [← tree]
      unfold clauseTree
      cases c.head <;> rfl
  | statement nodes =>
    exact statement h nodes found ((statement_coincides like found).eq whole).symm
      (nested nodes rfl (typed.objects found) ((isWhole_statement_iff like found).mp whole))
  | union branches all =>
    obtain ⟨several, queries⟩ : 2 ≤ branches.length ∧ ∀ g ∈ branches, s.IsQuery g :=
      typed.objects found
    exact union h branches all found ((union_coincides like found).eq whole).symm
      (by rwa [List.length_map])
      (nested branches rfl queries ((isWhole_union_iff like found).mp whole))
  | _ => cases isQuery

variable (query : s.IsQuery h) (whole : (s.tree h).isWhole = true)
include query whole

/-- A query has no strands just in case there is nothing but statements in it. -/
theorem strands_eq_nil_iff : (s.tree h).strands = [] ↔ s.IsHollow h := by
  refine assembled.query_induction (P := fun h => (s.tree h).strands = [] ↔ s.IsHollow h)
    ?_ ?_ ?_ query whole
  · intro h c found _ strands
    rw [strands, isHollow_iff fun g => nests_clause_iff found]
    simp [found]
  · intro h nodes found tree nested
    rw [tree, Tree.strands_statement_eq_nil_iff, List.forall_mem_map,
      isHollow_iff fun g => nests_statement_iff found, and_iff_right ⟨nodes, found⟩]
    exact forall₂_congr fun g mem => (nested g mem).2.2
  · intro h branches all found tree several _
    rw [tree, isHollow_iff fun g => nests_union_iff found]
    simp [found, Tree.strands_union_ne_nil several]

/-- The keywords in a query are those of the unions in it. -/
theorem keyword_mem_strands_iff {word : String} :
    .keyword word ∈ (s.tree h).strands ↔ s.HasUnion h word := by
  refine assembled.query_induction
    (P := fun h => .keyword word ∈ (s.tree h).strands ↔ s.HasUnion h word) ?_ ?_ ?_ query whole
  · intro h c found _ strands
    rw [strands, hasUnion_iff fun g => nests_clause_iff found]
    simp [found]
  · intro h nodes found tree nested
    rw [tree, Tree.mem_strands_statement (by simp),
      hasUnion_iff fun g => nests_statement_iff found, or_iff_right (by simp [found])]
    simp only [List.mem_map, exists_exists_and_eq_and]
    exact exists_congr fun g => and_congr_right fun mem => (nested g mem).2.2
  · intro h branches all found tree several nested
    rw [tree, Tree.mem_strands_union several, hasUnion_iff fun g => nests_union_iff found]
    refine or_congr (by simp [found, eq_comm]) ?_
    simp only [List.mem_map, exists_exists_and_eq_and]
    exact exists_congr fun g => and_congr_right fun mem => (nested g mem).2.2

/-- The clauses among the strands of a query have a text. -/
theorem isLeaf_of_mem_strands {t : Tree} (mem : .clause t ∈ (s.tree h).strands) :
    t.isLeaf = true := by
  refine assembled.query_induction (P := fun h => .clause t ∈ (s.tree h).strands → t.isLeaf = true)
    ?_ ?_ ?_ query whole mem
  · intro h c _ leaf strands mem
    rw [strands, List.mem_singleton] at mem
    cases mem
    exact leaf
  · intro h nodes _ tree nested mem
    rw [tree, Tree.mem_strands_statement (by simp)] at mem
    simp only [List.mem_map, exists_exists_and_eq_and] at mem
    obtain ⟨g, part, mem⟩ := mem
    exact (nested g part).2.2 mem
  · intro h branches all _ tree several nested mem
    rw [tree, Tree.mem_strands_union several, or_iff_right (by simp)] at mem
    simp only [List.mem_map, exists_exists_and_eq_and] at mem
    obtain ⟨g, part, mem⟩ := mem
    exact (nested g part).2.2 mem

/-- The strands of a query alternate, if there are any, just in case all unions in it have filled
branches. -/
theorem isNeat_iff : (s.tree h).IsNeat ↔ s.IsFilled h := by
  refine assembled.query_induction (P := fun h => (s.tree h).IsNeat ↔ s.IsFilled h)
    ?_ ?_ ?_ query whole
  · intro h c found _ strands
    rw [isFilled_iff fun g => nests_clause_iff found]
    refine iff_of_true (.inr ?_) (by simp [found])
    rw [strands]
    rfl
  · intro h nodes found tree nested
    rw [tree, Tree.isNeat_statement_iff, List.forall_mem_map,
      isFilled_iff fun g => nests_statement_iff found, and_iff_right (by simp [found])]
    exact forall₂_congr fun g mem => (nested g mem).2.2
  · intro h branches all found tree several nested
    have filled : ∀ g ∈ branches, (s.tree g).strands ≠ [] ↔ ¬ s.IsHollow g :=
      fun g mem => (assembled.strands_eq_nil_iff (nested g mem).1 (nested g mem).2.1).not
    have own : (∀ branches' all', s.get? h = some (.union branches' all') →
        ∀ b ∈ branches', ¬ s.IsHollow b) ↔ ∀ b ∈ branches, ¬ s.IsHollow b := by
      simp [found]
    rw [tree, Tree.isNeat_union_iff several, List.forall_mem_map,
      isFilled_iff fun g => nests_union_iff found, own, ← forall₂_and]
    exact forall₂_congr fun g mem => and_congr (filled g mem) (nested g mem).2.2

/-- The text of a query is that of its strands. -/
theorem shown_strands {e : Environment} {sep : String} (textual : e.IsTextual sep) :
    (s.template h).shown e = Strand.text e sep (s.tree h).strands := by
  refine assembled.query_induction
    (P := fun h => (s.tree h).template.shown e = Strand.text e sep (s.tree h).strands)
    ?_ ?_ ?_ query whole
  · intro h c _ _ strands
    simp [strands, Strand.text, Strand.shown]
  · intro h nodes _ tree nested
    rw [tree]
    refine Tree.shown_strands_statement textual (List.forall_mem_map.mpr fun g mem => ?_)
      (List.forall_mem_map.mpr fun g mem => (nested g mem).2.2)
    exact isQuery_tree assembled.typed (nested g mem).1 (nested g mem).2.1
  · intro h branches all _ tree _ nested
    rw [tree]
    refine Tree.shown_strands_union textual _ (List.forall_mem_map.mpr fun g mem => ?_)
      (List.forall_mem_map.mpr fun g mem => (nested g mem).2.2)
    exact isQuery_tree assembled.typed (nested g mem).1 (nested g mem).2.1

end Assembled

end Store

end GraphQuery
