import GraphQuery.Proofs.History.Run
import GraphQuery.Proofs.Store.Renaming

/-!
How a clause is written, told by the calls on it alone.

What calls come to has a tree of its own: the head of the clause with its path, and behind it what
is in the slots, in the order of the manifest. It is made of the trees that the arguments of the
calls have on their own. The clause on which the calls have succeeded is written like this.

* `Store.historyTree`: the tree of what calls come to.
* `Store.Told.tree_coincides`: a clause has the tree of the calls on it.
-/

namespace GraphQuery

open History

namespace Store

/-! ### The tree of a history -/

/-- What is in a slot, as a tree. -/
def fragment? (s : Store) (m : Contents) : Slot → Option Tree
  | .path => none
  | .filter => (Tree.filterOf s.valueTree m.predicates).map .filter
  | .assignment =>
    match m.assignments with
    | [] => none
    | entries => some (.assignments (entries.map fun e => (s.valueTree e.1, s.valueTree e.2)))
  | .removal =>
    match m.removals with
    | [] => none
    | properties => some (.removals (properties.map s.valueTree))
  | .deletion =>
    match m.deletion.references with
    | [] => none
    | references =>
      some (.deletions m.deletion.detach (references.map fun r => .label (.reference r)))
  | .passing => m.passing.map (s.projectionTree s.valueTree)
  | .returning => m.returning.map (s.projectionTree s.valueTree)

/-- The head of a clause with its path, and behind it what is in the slots of its manifest. -/
def contentsTree (s : Store) (m : Contents) : Tree :=
  let fragments := m.head.manifest.filterMap (s.fragment? m)
  match m.head with
  | .read _ isOptional patterns =>
    .patternClause (s.readKeyword isOptional) (m.path.map .reference) (patterns.map s.tree)
      fragments
  | .create patterns =>
    .patternClause "CREATE" (m.path.map .reference) (patterns.map s.tree) fragments
  | .project p => .projectionClause (s.projectionTree s.valueTree p) fragments

/-- The tree of what calls come to on a clause that has been made with a head. -/
def historyTree (s : Store) (head : Head) (calls : List Call) : Tree :=
  s.contentsTree (contents head calls)

end Store

/-! ### Fragments that coincide -/

namespace Tree

theorem coincides_option (t? : Option Tree) : Option.Rel Coincides t? t? := by
  cases t? with
  | none => exact .none
  | some t => exact .some (.refl t)

theorem eq_of_coincide {ts us : List Tree} (h : List.Forall₂ Coincides ts us)
    (whole : allWhole ts = true) : us = ts := by
  induction h with
  | nil => rfl
  | cons first _ ih =>
    obtain ⟨whole, others⟩ := (Bool.and_eq_true _ _).mp whole
    rw [first.eq whole, ih others]

theorem coincide_symm {ts us : List Tree} (h : List.Forall₂ Coincides ts us) :
    List.Forall₂ Coincides us ts :=
  h.flip.imp fun _ _ same => same.symm

theorem Coincides.patternClause {keyword : String} {path : Option Bearer} {patterns : List Tree}
    {fragments fragments' : List Tree} (h : List.Forall₂ Coincides fragments fragments') :
    (patternClause keyword path patterns fragments).Coincides
      (patternClause keyword path patterns fragments') := by
  refine .of_eq (fun whole => ?_) fun whole => ?_
  · rw [eq_of_coincide h ((Bool.and_eq_true _ _).mp whole).2]
  · rw [eq_of_coincide (coincide_symm h) ((Bool.and_eq_true _ _).mp whole).2]

theorem Coincides.projectionClause {body : Tree} {fragments fragments' : List Tree}
    (h : List.Forall₂ Coincides fragments fragments') :
    (projectionClause body fragments).Coincides (projectionClause body fragments') := by
  refine .of_eq (fun whole => ?_) fun whole => ?_
  · rw [eq_of_coincide h ((Bool.and_eq_true _ _).mp whole).2]
  · rw [eq_of_coincide (coincide_symm h) ((Bool.and_eq_true _ _).mp whole).2]

end Tree

namespace Store

variable {s : Store}

/-! ### The tree of a clause -/

section Following

variable {R : Value → Value → Prop} (like : s.Alike R s) {m : Contents} {c : Clause}
  (follows : c.Follows s m)
include like follows

/-- What is in a slot is what calls come to there. -/
theorem slotTree?_coincides (slot : Slot) :
    Option.Rel Tree.Coincides (s.slotTree? s.valueTree c slot) (s.fragment? m slot) := by
  cases slot with
  | path => exact .none
  | filter =>
    have filter := follows.filter.coincides like
    simp only [slotTree?, fragment?]
    generalize Tree.filterOf s.valueTree m.predicates = t? at filter
    cases found : c.filter with
    | none =>
      rw [found] at filter
      cases filter
      exact .none
    | some v =>
      rw [found] at filter
      cases filter with
      | some same =>
        exact .some ⟨same.isWhole_eq, fun whole => congrArg Tree.filter (same.eq whole)⟩
  | assignment =>
    simp only [slotTree?, fragment?, follows.assignments]
    exact Tree.coincides_option _
  | removal =>
    simp only [slotTree?, fragment?, follows.removals]
    exact Tree.coincides_option _
  | deletion =>
    rw [slotTree?_deletion, follows.deletion]
    exact Tree.coincides_option _
  | passing =>
    simp only [slotTree?, fragment?, follows.passing]
    exact Tree.coincides_option _
  | returning =>
    simp only [slotTree?, fragment?, follows.returning]
    exact Tree.coincides_option _

theorem fragments_coincide (slots : List Slot) :
    List.Forall₂ Tree.Coincides (slots.filterMap (s.slotTree? s.valueTree c))
      (slots.filterMap (s.fragment? m)) := by
  refine List.rel_filterMap (R := Eq) ?_ (List.forall₂_same.mpr fun _ _ => rfl)
  rintro slot _ rfl
  exact slotTree?_coincides like follows slot

/-- A clause has the tree of what it holds. -/
theorem clauseTree_coincides :
    (s.clauseTree s.valueTree c).Coincides (s.contentsTree m) := by
  have fragments := fragments_coincide like follows
  have trees : ∀ patterns : List Nat, (patterns.map fun h => s.valueTree (.object h)) =
      patterns.map s.tree := fun patterns => List.map_congr_left fun h _ => valueTree_object h
  unfold clauseTree contentsTree fragmentTrees
  rw [follows.head, follows.path]
  cases m.head with
  | read optionalClass isOptional patterns =>
    simp only [trees]
    exact .patternClause (fragments _)
  | create patterns =>
    simp only [trees]
    exact .patternClause (fragments _)
  | project p => exact .projectionClause (fragments _)

end Following

/-- A clause has the tree of what the calls come to that have succeeded on it. -/
theorem Told.tree_coincides {h : Nat} {head : Head} {calls : List Call}
    (told : Told h head s calls) : (s.tree h).Coincides (s.historyTree head calls) := by
  obtain ⟨c, found, follows, -⟩ := told.follows
  have like := told.assembled.sound
  refine (Store.tree_coincides like found).trans ?_
  simp only [treeOf, isReassigned_eq_false like.unassigned, Bool.false_eq_true, if_false]
  exact clauseTree_coincides like follows

end Store

end GraphQuery
