import GraphQuery.Proofs.Assembly.Conformance
import GraphQuery.Proofs.Store.Expansion
import GraphQuery.Proofs.Tree.Chain

/-!
Patterns that are drawn from a node on.

A pattern of a single node is the first of its kind. A relationship makes an open chain of a
pattern, and a further node closes it; that is another pattern, and the one it began with stays what
it was. So the elements of a pattern that is drawn in this way are nodes and relationships in turn.

* `Pattern.chain?`: the chain that the elements of a pattern are, if they alternate.
* `Store.Drawn`: what calls have drawn. `Store.Drawn.exists_chain`: a pattern among it has a chain.
* `Pattern.tree_of_chain?`: a pattern is written as its chain.
-/

namespace GraphQuery

/-! ### The chain that elements are -/

/-- The type that a value names. Nothing at all and the empty text name none. -/
def Value.typeName? (v : Value) : Option (Option Name) :=
  if v.isNull then some none
  else v.name?.map fun n => if n.word.isEmpty then none else some n

/-- A node of a chain, if nothing has been assigned to it. -/
def NodeElement.spot? : NodeElement → Option (Spot Reference Param)
  | ⟨.made r, .made labels, .made ps⟩ => some ⟨r, labels, ps⟩
  | _ => none

/-- A relationship of a chain that leads to a node, if nothing has been assigned to it. -/
def RelationshipElement.leg? (n : Spot Reference Param) :
    RelationshipElement → Option (Leg Reference Param)
  | ⟨.made r, type, .made ps, .made d⟩ => type.typeName?.map fun type => ⟨d, r, type, ps, n⟩
  | _ => none

/-- Relationships, each with a node behind it. -/
def legs? : List Element → Option (List (Leg Reference Param))
  | [] => some []
  | .relationship r :: .node n :: rest =>
    (n.spot?.bind r.leg?).bind fun l => (legs? rest).map (l :: ·)
  | _ => none

/-- The chain that the elements of a pattern are: a node, then relationships and nodes in turn. -/
def Pattern.chain? : Pattern → Option (Chain Reference Param)
  | ⟨.made (.node n :: rest)⟩ => n.spot?.bind fun node => (legs? rest).map (⟨node, ·⟩)
  | _ => none

/-- The chain that the pattern behind a handle is. -/
def Store.chain? (s : Store) (h : Nat) : Option (Chain Reference Param) :=
  match s.get? h with
  | some (.pattern p) => p.chain?
  | _ => none

/-! ### Chains that grow -/

theorem legs?_append {es : List Element} {legs : List (Leg Reference Param)}
    (h : legs? es = some legs) {r : RelationshipElement} {n : NodeElement}
    {l : Leg Reference Param} (leg : n.spot?.bind r.leg? = some l) :
    legs? (es ++ [.relationship r, .node n]) = some (legs ++ [l]) := by
  induction es using legs?.induct generalizing legs with
  | case1 =>
    cases h
    simp [legs?, leg]
  | case2 r' n' rest ih =>
    obtain ⟨l', first, others⟩ := Option.bind_eq_some_iff.mp h
    obtain ⟨legs', further, rfl⟩ := Option.map_eq_some_iff.mp others
    simp [legs?, first, ih further]
  | case3 es empty alternating => cases h.symm.trans (legs?.eq_3 es empty alternating)

/-- A pattern that is related and closed has a chain with one relationship more. -/
theorem Pattern.chain?_close {p p' : Pattern} {c : Chain Reference Param} (h : p.chain? = some c)
    {r : RelationshipElement} {n : NodeElement} {l : Leg Reference Param}
    (leg : n.spot?.bind r.leg? = some l) {view : ObjectView}
    (closed : (p.related r).close? view n = some p') :
    p'.chain? = some ⟨c.node, c.legs ++ [l]⟩ := by
  unfold chain? at h
  split at h
  · rename_i n' rest
    obtain rfl := Option.some_inj.mp closed
    obtain ⟨node, first, others⟩ := Option.bind_eq_some_iff.mp h
    obtain ⟨legs, further, rfl⟩ := Option.map_eq_some_iff.mp others
    have longer := legs?_append further leg
    simp only [Pattern.related, List.cons_append, chain?, first, longer]
    rfl
  · cases h

/-! ### Patterns that are drawn -/

/-- An exported call answers an object and leaves a store. -/
structure Construction.Makes (s : Store) (c : Construction) (t : Store) (h : Nat) : Prop where
  exported : c.Exported s
  outcome_eq : outcome c.perform.run s = (.ok (.object h), t)

namespace Construction.Makes

variable {s t : Store} {c : Construction} {h : Nat}

theorem assembled (makes : c.Makes s t h) (before : s.Assembled) : t.Assembled := by
  have after := before.call makes.exported
  rwa [makes.outcome_eq] at after

theorem of_answer (exported : c.Exported s)
    (answer : (outcome c.perform.run s).1.toOption = some (.object h)) :
    c.Makes s (outcome c.perform.run s).2 h := by
  refine ⟨exported, Prod.ext ?_ rfl⟩
  cases answered : (outcome c.perform.run s).1 with
  | ok v =>
    rw [answered] at answer
    cases answer
    rfl
  | error f =>
    rw [answered] at answer
    cases answer

/-- What a call yields is so for what it makes. -/
theorem result (makes : c.Makes s t h) {Q : Store → Value → Prop}
    (yields : Yields False Q s c.perform) : Q t (.object h) := by
  have result := yields.result (.object h)
  rw [makes.outcome_eq] at result
  exact result rfl

end Construction.Makes

/-- A chain is closed, or it waits for a node. -/
inductive Stage where
  | closed
  | waiting

/-- The pattern behind a handle is drawn from a single node on, or the open chain is. Types of
relationships are names, if they are given. Whatever else is called does not matter. -/
inductive Store.Drawn : Stage → Store → Nat → Prop where
  | pattern {s t : Store} {v labels table : Value} {h : Nat} : s.Assembled →
      (Construction.pattern v labels table).Makes s t h → Drawn .closed t h
  | related {s t : Store} {v type table way : Value} {h g : Nat} : Drawn .closed s h →
      (Construction.related (.object h) v type table way).Makes s t g →
      (type.isNull = true ∨ ∃ n, type.name? = some n) → Drawn .waiting t g
  | close {s t : Store} {v labels table : Value} {h g : Nat} : Drawn .waiting s g →
      (Construction.close (.object g) v labels table).Makes s t h → Drawn .closed t h
  | call {stage : Stage} {s : Store} {h : Nat} {c : Construction} : Drawn stage s h →
      c.Exported s → Drawn stage (outcome c.perform.run s).2 h
  | hold {stage : Stage} {s : Store} {h : Nat} {o : Object} : Drawn stage s h → o.isData = true →
      Drawn stage (s.push o) h

namespace Store

variable {s t : Store} {h : Nat} {stage : Stage}

/-- Calls leave everything there that has been there. -/
theorem Assembled.grows (assembled : s.Assembled) {c : Construction} (exported : c.Exported s) :
    s.Grows (outcome c.perform.run s).2 :=
  (yields_perform assembled.typed exported.isExported False.elim).grows

theorem Assembled.grows_called (assembled : s.Assembled) {calls : List Construction}
    (exported : s.ExportedInTurn calls) : s.Grows (s.called calls) := by
  induction exported with
  | nil => exact .refl _
  | cons first _ ih => exact (assembled.grows first).trans (ih (.call assembled first))

theorem Drawn.assembled (drawn : s.Drawn stage h) : s.Assembled := by
  induction drawn with
  | pattern assembled makes => exact makes.assembled assembled
  | related _ makes _ ih | close _ makes ih => exact makes.assembled ih
  | call _ exported ih => exact .call ih exported
  | hold _ isData ih => exact .hold ih isData

/-- A closed chain is a pattern with a chain. One that waits is such a pattern and a relationship
that can lead to any node. -/
def Draws (s : Store) (h : Nat) : Stage → Prop
  | .closed => ∃ p c, s.get? h = some (.pattern p) ∧ p.chain? = some c
  | .waiting => ∃ (p : Pattern) (c : _) (r : RelationshipElement),
      s.get? h = some (.chain (p.related r)) ∧ p.chain? = some c ∧ ∀ n, (r.leg? n).isSome

theorem Draws.mono (draws : s.Draws h stage) (grows : s.Grows t) : t.Draws h stage := by
  cases stage with
  | closed =>
    obtain ⟨p, c, found, chain⟩ := draws
    exact ⟨p, c, grows.get?_eq found, chain⟩
  | waiting =>
    obtain ⟨p, c, r, found, chain, leads⟩ := draws
    exact ⟨p, c, r, grows.get?_eq found, chain, leads⟩

/-- What calls have drawn are chains. -/
theorem Drawn.draws (drawn : s.Drawn stage h) : s.Draws h stage := by
  induction drawn with
  | pattern assembled makes =>
    obtain ⟨r, names, ps, found⟩ := makes.result (yields_pattern assembled.typed _ _ _)
    exact ⟨_, _, found, rfl⟩
  | related drawn makes named ih =>
    obtain ⟨p, c, found, chain⟩ := ih
    obtain ⟨q, is, own, ps, d, found', made⟩ :=
      makes.result (yields_related drawn.assembled.typed _ _ False.elim _ _)
    cases found.symm.trans found'
    refine ⟨p, c, _, made, chain, fun n => ?_⟩
    rcases typeIn_named own named with null | ⟨m, name⟩
    · simp [RelationshipElement.leg?, Value.typeName?, null]
    · simp only [RelationshipElement.leg?, Value.typeName?, name, Option.isSome_map]
      split <;> rfl
  | close drawn makes ih =>
    obtain ⟨p, c, r, found, chain, leads⟩ := ih
    obtain ⟨q, view, is, names, ps, p', found', closed, made⟩ :=
      makes.result (yields_close drawn.assembled.typed _ _ _ _)
    cases found.symm.trans found'
    obtain ⟨l, leg⟩ := Option.isSome_iff_exists.mp (leads ⟨is, names, ps⟩)
    exact ⟨p', _, made,
      Pattern.chain?_close chain (Option.bind_eq_some_iff.mpr ⟨_, rfl, leg⟩) closed⟩
  | call drawn exported ih => exact ih.mono (drawn.assembled.grows exported)
  | hold _ _ ih => exact ih.mono (.push _ _)

/-- A pattern that is drawn has a chain: nodes and relationships in turn. -/
theorem Drawn.exists_chain (drawn : s.Drawn .closed h) : ∃ c, s.chain? h = some c := by
  obtain ⟨p, c, found, chain⟩ := drawn.draws
  exact ⟨c, by rw [chain?, found]; exact chain⟩

end Store

/-! ### Trees of patterns -/

section Trees

variable (view : ObjectView) (bearer : Value → Except Fault Bearer) (inner : Value → Tree)

theorem NodeElement.tree_of_spot? {n : NodeElement} {s : Spot Reference Param}
    (h : n.spot? = some s) : n.tree view bearer inner = s.tree := by
  unfold spot? at h
  split at h
  · cases h
    rfl
  · cases h

theorem typeOf_of_typeName? {v : Value} {type : Option Name} (h : v.typeName? = some type) :
    typeOf view v = .ok type := by
  cases v with
  | object _ => cases h
  | atom a mark =>
    cases a with
    | null =>
      cases h
      rfl
    | text s =>
      have eq : (if s.isEmpty then none else some (.text s)) = type := Option.some_inj.mp h
      by_cases empty : s.isEmpty
      · rw [if_pos empty] at eq
        simp [typeOf, Value.truth, Atom.truth, empty, eq]
      · rw [if_neg empty] at eq
        simp [typeOf, Value.truth, Atom.truth, empty, Value.name?, Atom.name?, ← eq]
    | direction d => cases d <;> cases h <;> rfl
    | _ => cases h

theorem RelationshipElement.tree_of_leg? {r : RelationshipElement} {n : Spot Reference Param}
    {l : Leg Reference Param} (h : r.leg? n = some l) :
    [r.tree view bearer inner, n.tree] = l.trees := by
  unfold leg? at h
  split at h
  · obtain ⟨type, typed, rfl⟩ := Option.map_eq_some_iff.mp h
    simp only [tree, Attribute.resolve, typeOf_of_typeName? view typed, propertyTrees]
    rfl
  · cases h

/-- Elements that are relationships and nodes in turn are written as such. -/
theorem tree_of_legs? {es : List Element} {legs : List (Leg Reference Param)}
    (h : legs? es = some legs) :
    es.map (Element.tree view bearer inner) = legs.flatMap Leg.trees := by
  induction es using legs?.induct generalizing legs with
  | case1 =>
    cases h
    rfl
  | case2 r n rest ih =>
    obtain ⟨l, first, others⟩ := Option.bind_eq_some_iff.mp h
    obtain ⟨legs', further, rfl⟩ := Option.map_eq_some_iff.mp others
    obtain ⟨spot, node, leg⟩ := Option.bind_eq_some_iff.mp first
    have pair := r.tree_of_leg? view bearer inner leg
    rw [List.flatMap_cons, ← ih further, ← pair, ← n.tree_of_spot? view bearer inner node]
    rfl
  | case3 es empty alternating => cases h.symm.trans (legs?.eq_3 es empty alternating)

/-- A pattern is written as its chain. -/
theorem Pattern.tree_of_chain? {p : Pattern} {c : Chain Reference Param} (h : p.chain? = some c) :
    p.tree view bearer inner = c.tree := by
  unfold chain? at h
  split at h
  · rename_i n rest
    obtain ⟨node, first, others⟩ := Option.bind_eq_some_iff.mp h
    obtain ⟨legs, further, rfl⟩ := Option.map_eq_some_iff.mp others
    simp only [Pattern.tree, elementsOf?, List.map_cons, Chain.tree, Element.tree,
      n.tree_of_spot? view bearer inner first, tree_of_legs? view bearer inner further]
  · cases h

end Trees

namespace Store

/-- The tree of a pattern that has a chain. -/
theorem tree_of_chain? {s : Store} (assembled : s.Assembled) {h : Nat} {c : Chain Reference Param}
    (chain : s.chain? h = some c) : s.tree h = c.tree := by
  unfold chain? at chain
  split at chain
  · rename_i p found
    rw [tree_of_get? assembled.typed.unassigned found]
    exact p.tree_of_chain? _ _ _ chain
  · cases chain

end Store

end GraphQuery
