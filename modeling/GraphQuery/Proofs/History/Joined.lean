import GraphQuery.Proofs.Tree.Formula
import GraphQuery.Proofs.History.Filter
import GraphQuery.Proofs.Text.Truth

/-!
What a filter says.

A filter that is joined out of predicates is not the tree of the calls: combinations by `AND` take
further operands in. Its value is still that of one predicate after the other, combined from the
left, since `AND` does not mind how its operands are grouped.

* `Tree.joined_cases`: a filter and a predicate make a pair, or the predicate is one operand more.
* `Tree.Readable`: a predicate that is read as it was built.
* `Tree.Readable.joinedAll`: a filter of such predicates is one.
* `Tree.eval_joinedAll`: a filter has the value of its predicates, combined from the left.
-/

namespace GraphQuery

/-- What a connective makes of two values. -/
def Connective.combine : Connective → Truth → Truth → Truth
  | and => .and
  | or => .or

namespace Tree

variable {strict : Prop} {G : Grounds} {e : Environment}

/-! ### One predicate more -/

/-- A predicate that is joined to a filter makes a pair with it, or is one more operand of it. -/
theorem joined_cases (u : Tree) (connective : Connective) (t : Tree) :
    joined (some u) connective t = junction connective.word [u, t] ∨
      connective = .and ∧ ∃ operands, u = junction "AND" operands ∧
        joined (some u) connective t = junction "AND" (operands ++ [t]) := by
  cases connective with
  | or => exact .inl rfl
  | and =>
    cases conjuncts : u.conjuncts? with
    | none =>
      left
      simp only [joined, conjuncts]
    | some operands =>
      refine .inr ⟨rfl, operands, eq_of_conjuncts? conjuncts, ?_⟩
      simp only [joined, conjuncts]

theorem Connective.word_mem (connective : Connective) : connective.word ∈ junctionOperators := by
  cases connective <;> decide

/-- A filter and a predicate that the library makes can be joined. -/
theorem Made.joined {u t : Tree} (filter : u.Made strict G) (connective : Connective)
    (predicate : t.Made strict G) : (joined (some u) connective t).Made strict G := by
  rcases joined_cases u connective t with eq | ⟨-, operands, rfl, eq⟩
  · rw [eq]
    refine .junction (Connective.word_mem connective) (fun _ => le_refl 2) ?_
    simp [filter, predicate]
  · rw [eq]
    cases filter with
    | junction mem several made =>
      refine .junction mem (fun isStrict => ?_) ?_
      · exact (several isStrict).trans (by simp)
      · simpa [or_imp, forall_and] using ⟨made, predicate⟩

/-- The operands of both are those of the two together. -/
theorem atoms_joined (u : Tree) (connective : Connective) (t : Tree) :
    (joined (some u) connective t).formula.atoms = u.formula.atoms ++ t.formula.atoms := by
  rcases joined_cases u connective t with eq | ⟨-, operands, rfl, eq⟩ <;> rw [eq] <;>
    simp [formula, Formula.atoms, Formula.atomsOf_eq, formulas_eq]

/-- There are separators among the operands of a combination just in case there are some in it. -/
theorem any_isSeparating_junction (o : String) {ts : List Tree}
    (operands : ∀ t ∈ ts, ∀ u ∈ t.formula.atoms, u.isOperand = true) :
    (junction o ts).template.any Segment.isSeparating =
      ts.any fun t => t.template.any Segment.isSeparating := by
  have word : ([.text (" " ++ o ++ " ")] : Template).any Segment.isSeparating = false := rfl
  have operand : ∀ t ∈ ts, (t.asOperand t.template).any Segment.isSeparating =
      t.template.any Segment.isSeparating := by
    intro t mem
    unfold asOperand
    split
    · simp [parenthesized, Segment.isSeparating]
    · rcases asItem_of_operands (operands t mem) with ⟨b, rfl⟩ | sole
      · rfl
      · rw [asItem, sole]
  rw [template, operands_eq, Template.listed]
  simp only [List.cons_append, List.any_cons, List.any_append, Template.any_join word, List.any_map]
  simp only [Segment.isSeparating, List.any_nil, Bool.false_or, Bool.or_false]
  rw [Bool.eq_iff_iff, List.any_eq_true, List.any_eq_true]
  exact exists_congr fun t => and_congr_right fun mem => by
    rw [Function.comp_apply, operand t mem]

/-- There are separators in a filter or in a predicate just in case there are some in the two
together. -/
theorem any_isSeparating_joined {u : Tree} (connective : Connective) {t : Tree}
    (filter : ∀ v ∈ u.formula.atoms, v.isOperand = true)
    (predicate : ∀ v ∈ t.formula.atoms, v.isOperand = true) :
    (joined (some u) connective t).template.any Segment.isSeparating =
      (u.template.any Segment.isSeparating || t.template.any Segment.isSeparating) := by
  rcases joined_cases u connective t with eq | ⟨-, operands, rfl, eq⟩
  · rw [eq, any_isSeparating_junction]
    · simp
    · simpa using ⟨filter, predicate⟩
  · have inner : ∀ w ∈ operands, ∀ v ∈ w.formula.atoms, v.isOperand = true := fun w mem v v_mem =>
      filter v (mem_atoms_junction "AND" mem v_mem)
    rw [eq, any_isSeparating_junction, any_isSeparating_junction "AND" inner]
    · simp
    · simpa [or_imp, forall_and] using ⟨inner, predicate⟩

/-- A predicate that is joined to a filter is combined with it. -/
theorem eval_joined (truth : Formula String → Truth) (u : Tree) (connective : Connective)
    (t : Tree) : ((joined (some u) connective t).predicate e).eval truth =
      connective.combine ((u.predicate e).eval truth) ((t.predicate e).eval truth) := by
  rcases joined_cases u connective t with eq | ⟨rfl, operands, rfl, eq⟩
  · rw [eq, predicate_junction]
    cases connective <;> simp [Connective.word, Connective.combine, Truth.all, Truth.any]
  · rw [eq, predicate_junction, predicate_junction]
    simp [Connective.combine, Truth.all_append]
    simp [Truth.all]

/-! ### Filters that can be read -/

/-- The tree is a predicate that can be written and read: its operands are labels, keys, properties
and calls in which no name falls apart, and so do the separators where there are any. -/
structure Readable (G : Grounds) (blank : Char → Bool) (e : Environment) (t : Tree) : Prop where
  made : t.Made True G
  operands : ∀ u ∈ t.formula.atoms, u.isOperand = true
  feeds : blank '\n' = true → ∀ u ∈ t.formula.atoms, u.hasFeed e = false
  separators : t.template.any Segment.isSeparating = true →
    ∀ segment : Segment, segment.isSeparating = true →
      Text.IsLevel blank (segment.shown e).toList

namespace Readable

variable {blank : Char → Bool}

/-- A predicate that can be read is read as it was built. -/
theorem parse?_shown {t : Tree} (h : t.Readable G blank e) (spaces : Text.Spaces blank)
    (spelt : G.Spelt e) : Formula.parse? blank (t.template.shown e) = some (t.predicate e) := by
  have regular := h.made.regular spaces spelt h.operands h.feeds fun segment inside separating =>
    h.separators (List.any_eq_true.mpr ⟨segment, inside, separating⟩) segment separating
  rw [← String.ofList_toList (s := t.template.shown e), h.made.toList_template spelt h.operands]
  exact regular.parse?_chars spaces

/-- A filter that can be read can be read with a further predicate. -/
theorem joined {u t : Tree} (filter : u.Readable G blank e) (connective : Connective)
    (predicate : t.Readable G blank e) :
    (joined (some u) connective t).Readable G blank e where
  made := filter.made.joined connective predicate.made
  operands := by
    rw [atoms_joined]
    exact List.forall_mem_append.mpr ⟨filter.operands, predicate.operands⟩
  feeds isBlank := by
    rw [atoms_joined]
    exact List.forall_mem_append.mpr ⟨filter.feeds isBlank, predicate.feeds isBlank⟩
  separators some := by
    rw [any_isSeparating_joined connective filter.operands predicate.operands,
      Bool.or_eq_true] at some
    exact some.elim filter.separators predicate.separators

end Readable

/-! ### One predicate after the other -/

section Folds

variable (tree : Value → Tree) (u : Tree) (ps : List (Connective × Value))

/-- A filter with predicates joined to it in turn. -/
def joinedAll : Tree := ps.foldl (fun u p => joined (some u) p.1 (tree p.2)) u

/-- A filter begins with the first predicate, and the others are joined to it. -/
theorem filterOf_cons (p : Connective × Value) :
    filterOf tree (p :: ps) = some (joinedAll tree (tree p.2) ps) :=
  List.foldl_hom some fun _ _ => rfl

variable {u ps}

/-- A filter of predicates that can be read can be read. -/
theorem Readable.joinedAll {blank : Char → Bool} (filter : u.Readable G blank e)
    (each : ∀ p ∈ ps, (tree p.2).Readable G blank e) :
    (joinedAll tree u ps).Readable G blank e := by
  induction ps generalizing u with
  | nil => exact filter
  | cons p ps ih =>
    obtain ⟨next, others⟩ := List.forall_mem_cons.mp each
    exact ih (filter.joined p.1 next) others

variable (u ps)

/-- A filter has the value of its predicates, combined from the left. -/
theorem eval_joinedAll (truth : Formula String → Truth) :
    ((joinedAll tree u ps).predicate e).eval truth =
      ps.foldl (fun v p => p.1.combine v (((tree p.2).predicate e).eval truth))
        ((u.predicate e).eval truth) :=
  (List.foldl_hom (fun u : Tree => (u.predicate e).eval truth) fun u p =>
    (eval_joined truth u p.1 (tree p.2)).symm).symm

end Folds

end Tree

end GraphQuery
