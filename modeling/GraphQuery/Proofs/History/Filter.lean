import GraphQuery.Proofs.Assembly.Proper
import GraphQuery.Proofs.History.Call
import GraphQuery.Proofs.Store.Expansion

/-!
Filters: predicates that are joined one after another.

A filter is joined out of objects: what is joined by `AND` to a combination by `AND` extends it, and
everything else makes a pair. How this looks is told by the trees of the predicates alone.

* `Store.Joins`: a value stands for predicates that were joined in turn.
* `joinsTo_of_join`: what the library makes of a filter and a predicate.
* `Tree.joined`: a filter with a predicate joined to it.
* `Store.Joins.coincides`: the filter is written as the predicates joined in turn.
-/

namespace GraphQuery

open Assembly

/-! ### Joining values -/

namespace Store

/-- A value stands for a filter with a predicate joined to it. -/
inductive JoinsTo (s : Store) : Option Value → Connective × Value → Value → Prop where
  | first {connective : Connective} {p : Value} : JoinsTo s none (connective, p) p
  | extended {w p v : Value} {operands : List Value} :
      s.object? w = some (.expression (.junction (.text "AND") (.made operands))) →
      s.object? v = some (.expression (.junction (.text "AND") (.made (operands ++ [p])))) →
      JoinsTo s (some w) (.and, p) v
  | paired {connective : Connective} {w p v : Value} {o : Object} : s.object? w = some o →
      (connective = .and →
        ∀ operands, o ≠ .expression (.junction (.text "AND") (.made operands))) →
      s.object? v = some (.expression (.junction (.text connective.word) (.made [w, p]))) →
      JoinsTo s (some w) (connective, p) v

/-- A value stands for predicates that were joined in turn. -/
inductive Joins (s : Store) : List (Connective × Value) → Option Value → Prop where
  | nil : Joins s [] none
  | snoc {ps : List (Connective × Value)} {v? : Option Value} {p : Connective × Value} {v : Value} :
      Joins s ps v? → s.JoinsTo v? p v → Joins s (ps ++ [p]) (some v)

variable {s t : Store}

theorem JoinsTo.mono {v? : Option Value} {p : Connective × Value} {v : Value}
    (h : s.JoinsTo v? p v) (grows : s.Grows t) : t.JoinsTo v? p v := by
  cases h with
  | first => exact .first
  | extended before after => exact .extended (grows.object?_eq before) (grows.object?_eq after)
  | @paired connective w p v o before other after =>
    have known : s.Knows w := knows_of_object? before
    cases w with
    | atom a mark => cases before
    | object h =>
      obtain ⟨o', found, becomes⟩ := grows before
      refine .paired found (fun isAnd operands eq => ?_) (grows.object?_eq after)
      subst eq
      cases becomes with
      | same => exact other isAnd operands rfl

theorem Joins.mono {ps : List (Connective × Value)} {v? : Option Value} (h : s.Joins ps v?)
    (grows : s.Grows t) : t.Joins ps v? := by
  induction h with
  | nil => exact .nil
  | snoc _ step ih => exact .snoc ih (step.mono grows)

end Store

/-! ### What the library makes of a filter -/

section Results

variable {s : Store}

/-- What can stand in a query is an expression as it is. -/
theorem outcome_expression {v : Value} (stands : s.Stands v) :
    outcome (expression v).run s = (.ok v, s) := by
  obtain ⟨o, found, compilable⟩ := stands
  cases v with
  | atom a mark => cases found
  | object h =>
    have isExpression : outcome (isExpression (.object h)).run s = (.ok true, s) := by
      change (Except.ok (s.isCompilable h), s) = _
      change s.get? h = some o at found
      rw [Store.isCompilable, found, Option.any_some, compilable]
      rfl
    exact outcome_bind_of_ok isExpression

/-- A combination of two expressions. -/
theorem outcome_junction {operator : String} {v p : Value} (stands : s.Stands v)
    (stands' : s.Stands p) : outcome (junction operator [v, p]).run s =
      (.ok (.object s.next),
        s.push (.expression (.junction (.text operator) (.made [v, p])))) := by
  have last : outcome ([p].mapM expression).run s = (.ok [p], s) := by
    rw [List.mapM_cons, outcome_bind_of_ok (outcome_expression stands')]
    rfl
  have operands : outcome ([v, p].mapM expression).run s = (.ok [v, p], s) := by
    rw [List.mapM_cons, outcome_bind_of_ok (outcome_expression stands), outcome_bind_of_ok last]
    rfl
  exact outcome_bind_of_ok operands

/-- A pair is made of a filter and a predicate. -/
theorem joinsTo_of_junction {connective : Connective} {w p v : Value} {o : Object}
    (stands : s.Stands w) (stands' : s.Stands p) (found : s.object? w = some o)
    (other : connective = .and →
      ∀ operands, o ≠ .expression (.junction (.text "AND") (.made operands)))
    (ok : (outcome (junction connective.word [w, p]).run s).1 = .ok v) :
    (outcome (junction connective.word [w, p]).run s).2.JoinsTo (some w) (connective, p) v := by
  rw [outcome_junction stands stands'] at ok ⊢
  cases ok
  refine .paired ?_ other (Store.get?_push_next s _)
  cases w with
  | atom a mark => cases found
  | object h => exact (Store.get?_push_of_lt (Store.lt_of_get? found) _).trans found

/-- What is joined by `AND` to a combination by `AND` extends it, and everything else makes a
pair. -/
theorem outcome_conjoined {R : Value → Value → Prop} (like : s.Alike R s) {w : Value} {o : Object}
    (found : s.object? w = some o) (p : Value) :
    (∃ operands, o = .expression (.junction (.text "AND") (.made operands)) ∧
      outcome (conjoined (some w) p).run s = (.ok (.object s.next),
        s.push (.expression (.junction (.text "AND") (.made (operands ++ [p])))))) ∨
    (∀ operands, o ≠ .expression (.junction (.text "AND") (.made operands))) ∧
      outcome (conjoined (some w) p).run s =
        outcome (junction Connective.and.word [w, p]).run s := by
  have look : outcome (object? w).run s = (.ok (some o), s) := congrArg (Except.ok ·, s) found
  cases w with
  | atom a mark => cases found
  | object h =>
    cases like.objects found found with
    | expression exported =>
      cases exported with
      | @junction operator operands isOperator =>
        by_cases isAnd : operator = "AND"
        · subst isAnd
          exact .inl ⟨operands, rfl, outcome_bind_of_ok look⟩
        · have notAnd : (Value.text operator).isText "AND" = false := by
            simp [Value.isText, Value.text?, Value.name?, Value.text, Atom.name?, Name.word,
              isAnd]
          refine .inr ⟨?_, ?_⟩
          · rintro _ ⟨⟩
            exact isAnd rfl
          · refine (outcome_bind_of_ok look).trans ?_
            dsimp only
            rw [notAnd]
            rfl
      | _ => exact .inr ⟨by rintro _ ⟨⟩, outcome_bind_of_ok look⟩
    | data isData _ =>
      refine .inr ⟨?_, (outcome_bind_of_ok look).trans ?_⟩
      · rintro _ rfl
        cases isData
      · cases o <;> cases isData <;> rfl
    | _ => exact .inr ⟨by rintro _ ⟨⟩, outcome_bind_of_ok look⟩

/-- What the library makes of a filter and a predicate that is joined to it by `AND`. -/
theorem joinsTo_of_conjoined {R : Value → Value → Prop} (like : s.Alike R s) {v? : Option Value}
    {p v : Value} (standing : ∀ w, v? = some w → s.Stands w) (stands : s.Stands p)
    (ok : (outcome (conjoined v? p).run s).1 = .ok v) :
    (outcome (conjoined v? p).run s).2.JoinsTo v? (.and, p) v := by
  cases v? with
  | none =>
    cases ok
    exact .first
  | some w =>
    obtain ⟨o, found, -⟩ := standing w rfl
    rcases outcome_conjoined like found p with ⟨operands, rfl, eq⟩ | ⟨other, eq⟩
    · rw [eq] at ok ⊢
      cases ok
      refine .extended ?_ (Store.get?_push_next s _)
      cases w with
      | atom a mark => cases found
      | object h => exact (Store.get?_push_of_lt (Store.lt_of_get? found) _).trans found
    · rw [eq] at ok ⊢
      exact joinsTo_of_junction (standing w rfl) stands found (fun _ => other) ok

/-- What the library makes of a filter and a predicate that is joined to it by `OR`. -/
theorem joinsTo_of_disjoined {v? : Option Value} {p v : Value}
    (standing : ∀ w, v? = some w → s.Stands w) (stands : s.Stands p)
    (ok : (outcome (disjoined v? p).run s).1 = .ok v) :
    (outcome (disjoined v? p).run s).2.JoinsTo v? (.or, p) v := by
  cases v? with
  | none =>
    cases ok
    exact .first
  | some w =>
    obtain ⟨o, found, -⟩ := standing w rfl
    have notAnd : Connective.or ≠ .and := by decide
    have eq : disjoined (some w) p = junction Connective.or.word [w, p] := rfl
    rw [eq] at ok ⊢
    exact joinsTo_of_junction (standing w rfl) stands found (fun isAnd => absurd isAnd notAnd) ok

/-- The step that joins a predicate to a filter. -/
def Connective.join : Connective → Option Value → Value → Assembly Value
  | and => conjoined
  | or => disjoined

/-- What the library makes of a filter and a predicate that is joined to it. -/
theorem joinsTo_of_join {R : Value → Value → Prop} (like : s.Alike R s) {v? : Option Value}
    {p v : Value} (standing : ∀ w, v? = some w → s.Stands w) (stands : s.Stands p)
    {connective : Connective} (ok : (outcome (connective.join v? p).run s).1 = .ok v) :
    s.Grows (outcome (connective.join v? p).run s).2 ∧
      (outcome (connective.join v? p).run s).2.JoinsTo v? (connective, p) v := by
  cases connective with
  | and =>
    exact ⟨(agree_conjoined like standing stands).grows,
      joinsTo_of_conjoined like standing stands ok⟩
  | or =>
    exact ⟨(agree_disjoined like standing stands).grows, joinsTo_of_disjoined standing stands ok⟩

/-- What can stand in a query can be joined to a filter. -/
theorem exists_join {R : Value → Value → Prop} (like : s.Alike R s) {v? : Option Value} {p : Value}
    (standing : ∀ w, v? = some w → s.Stands w) (stands : s.Stands p) (connective : Connective) :
    ∃ v, (outcome (connective.join v? p).run s).1 = .ok v := by
  cases v? with
  | none => cases connective <;> exact ⟨p, rfl⟩
  | some w =>
    have pair (operator : String) :
        ∃ v, (outcome (junction operator [w, p]).run s).1 = .ok v :=
      ⟨_, congrArg Prod.fst (outcome_junction (standing w rfl) stands)⟩
    cases connective with
    | or => exact pair "OR"
    | and =>
      obtain ⟨o, found, -⟩ := standing w rfl
      rcases outcome_conjoined like found p with ⟨operands, rfl, eq⟩ | ⟨-, eq⟩
      · exact ⟨_, congrArg Prod.fst eq⟩
      · obtain ⟨v, ok⟩ := pair "AND"
        exact ⟨v, (congrArg Prod.fst eq).trans ok⟩

end Results

/-! ### Joining trees -/

namespace Tree

/-- The operands of a combination by `AND`. -/
def conjuncts? : Tree → Option (List Tree)
  | junction operator operands => if operator = "AND" then some operands else none
  | _ => none

/-- A filter with a predicate joined to it. What is joined to a combination by `AND` is one more
operand of it. -/
def joined (current : Option Tree) (connective : Connective) (t : Tree) : Tree :=
  match current with
  | none => t
  | some u =>
    match connective, u.conjuncts? with
    | .and, some operands => junction "AND" (operands ++ [t])
    | connective, _ => junction connective.word [u, t]

/-- The filter that predicates make in turn. -/
def filterOf (tree : Value → Tree) (ps : List (Connective × Value)) : Option Tree :=
  ps.foldl (fun current p => some (joined current p.1 (tree p.2))) none

theorem filterOf_snoc (tree : Value → Tree) (ps : List (Connective × Value))
    (p : Connective × Value) :
    filterOf tree (ps ++ [p]) = some (joined (filterOf tree ps) p.1 (tree p.2)) := by
  rw [filterOf, List.foldl_append]
  rfl

theorem eq_of_conjuncts? {u : Tree} {operands : List Tree} (eq : u.conjuncts? = some operands) :
    u = junction "AND" operands := by
  cases u with
  | junction operator operands' =>
    simp only [conjuncts?] at eq
    split at eq
    · cases eq
      rename_i isAnd
      rw [isAnd]
    · cases eq
  | _ => cases eq

/-- Joining sticks only where the filter or the predicate is stuck. -/
theorem isWhole_joined (u : Tree) (connective : Connective) (t : Tree) :
    (joined (some u) connective t).isWhole = (u.isWhole && t.isWhole) := by
  have pair : ∀ operator, (junction operator [u, t]).isWhole = (u.isWhole && t.isWhole) := by
    simp [isWhole, allWhole]
  cases connective with
  | or => exact pair "OR"
  | and =>
    cases conjuncts : u.conjuncts? with
    | none =>
      simp only [joined, conjuncts]
      exact pair "AND"
    | some operands =>
      simp only [joined, conjuncts]
      rw [eq_of_conjuncts? conjuncts, Bool.eq_iff_iff, Bool.and_eq_true]
      simp [isWhole, allWhole_iff, or_imp, forall_and]

/-- Filters that coincide do so with a predicate joined to them. -/
theorem Coincides.joined {u u' : Tree} (h : u.Coincides u') (connective : Connective) (t : Tree) :
    (joined (some u) connective t).Coincides (joined (some u') connective t) := by
  refine .of_eq (fun whole => ?_) fun whole => ?_
  · rw [isWhole_joined, Bool.and_eq_true] at whole
    rw [h.eq whole.1]
  · rw [isWhole_joined, Bool.and_eq_true] at whole
    rw [h.symm.eq whole.1]

theorem Coincides.pair {u u' : Tree} (h : u.Coincides u') (operator : String) (t : Tree) :
    (junction operator [u, t]).Coincides (junction operator [u', t]) := by
  refine .of_eq (fun whole => ?_) fun whole => ?_
  · rw [h.eq ((Bool.and_eq_true _ _).mp whole).1]
  · rw [h.symm.eq ((Bool.and_eq_true _ _).mp whole).1]

end Tree

namespace Store

variable {R : Value → Value → Prop} {s : Store}

/-- Nothing but a combination by `AND` is written as one. -/
theorem conjuncts?_treeOf {s' : Store} (unassigned : s.assignments = []) {inner : Value → Tree}
    {h : Nat} {o o' : Object} (alike : Object.Alike R s s' h o o')
    (other : ∀ operands, o ≠ .expression (.junction (.text "AND") (.made operands))) :
    (s.treeOf inner h o).conjuncts? = none := by
  cases alike with
  | reference _ | param _ | statement | union _ | chain _ =>
    simp only [treeOf, nodesOf, branchesOf, standIn?_eq_none unassigned, ofValues]
    rfl
  | expression exported =>
    cases exported with
    | @comparison operator left right _ given =>
      have given : right.given? = some right := by simp [Value.given?, given]
      simp only [treeOf, Expression.tree, given]
      rfl
    | @junction operator operands _ =>
      have notAnd : operator ≠ "AND" := by
        rintro rfl
        exact other operands rfl
      exact if_neg notAnd
    | _ => rfl
  | nodeElement alike =>
    cases alike with
    | made _ _ => rfl
  | relationshipElement _ =>
    simp only [treeOf, RelationshipElement.tree]
    split <;> (try split) <;> rfl
  | pattern _ => rfl
  | clause c =>
    simp only [treeOf, isReassigned_eq_false unassigned, Bool.false_eq_true, if_false, clauseTree]
    split <;> rfl
  | data isData isData' => cases o <;> cases isData <;> rfl

variable (like : s.Alike R s)
include like

/-- What a value stands for is what is made of the trees that its parts have on their own. -/
theorem valueTree_coincides {v : Value} {o : Object} (found : s.object? v = some o) :
    ∃ h, s.get? h = some o ∧ (s.valueTree v).Coincides (s.treeOf s.valueTree h o) := by
  cases v with
  | atom a mark => cases found
  | object h =>
    rw [valueTree_object]
    exact ⟨h, found, tree_coincides like found⟩

/-- A filter is written as its predicates joined in turn. -/
theorem Joins.coincides {ps : List (Connective × Value)} {v? : Option Value}
    (joins : s.Joins ps v?) :
    Option.Rel Tree.Coincides (v?.map s.valueTree) (Tree.filterOf s.valueTree ps) := by
  induction joins with
  | nil => exact .none
  | @snoc ps v? p v _ step ih =>
    rw [Tree.filterOf_snoc]
    refine .some ?_
    generalize Tree.filterOf s.valueTree ps = current? at ih
    cases step with
    | first =>
      cases ih
      exact .refl _
    | @extended w p v operands before after =>
      cases ih with
      | some same =>
        obtain ⟨_, -, filter⟩ := valueTree_coincides like before
        obtain ⟨_, -, extended⟩ := valueTree_coincides like after
        have joined := (same.symm.trans filter).joined .and (s.valueTree p)
        refine extended.trans (.trans ?_ joined.symm)
        change Tree.Coincides (.junction "AND" ((operands ++ [p]).map s.valueTree))
          (.junction "AND" (operands.map s.valueTree ++ [s.valueTree p]))
        rw [List.map_append]
        exact .refl _
    | @paired connective w p v o before other after =>
      cases ih with
      | some same =>
        obtain ⟨h, found, filter⟩ := valueTree_coincides like before
        obtain ⟨_, -, pair⟩ := valueTree_coincides like after
        have joined := (same.symm.trans filter).joined connective (s.valueTree p)
        have written : Tree.joined (some (s.treeOf s.valueTree h o)) connective (s.valueTree p) =
            .junction connective.word [s.treeOf s.valueTree h o, s.valueTree p] := by
          cases connective with
          | or => rfl
          | and =>
            have none : (s.treeOf s.valueTree h o).conjuncts? = none :=
              conjuncts?_treeOf like.unassigned (like.objects found found) (other rfl)
            simp only [Tree.joined, none]
        rw [written] at joined
        exact (pair.trans (filter.pair _ _)).trans joined.symm

end Store

end GraphQuery
