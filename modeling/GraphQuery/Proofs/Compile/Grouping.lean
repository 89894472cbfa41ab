import GraphQuery.Proofs.Compile.Predicates
import GraphQuery.Proofs.Text.Grouping

/-!
Operators as operands of comparisons and checks.

Combinations stand in parentheses where they are operands of others and under negations. Comparisons
and checks put nothing in parentheses, whatever their operands are. So what is compared is read as
one operand just in case it binds as tightly as its place asks: on the left of a relation, on its
right and in front of operators in words, only operators in words do, and behind them, only what is
no operator.

* `Store.Assembled.write_nested`: a predicate is written as what it is all through.
* `grouping_kept_iff`: when a predicate is read as it was built, operands of comparisons included.
* `combination_regrouped`: a combination on the left of a comparison, and what is read instead.
-/

namespace GraphQuery

/-- Where all names are words with numbers, a predicate is written as what it is all through, and
what it is made of are terms to readers for whom no name falls apart. -/
theorem Store.Assembled.write_nested {s : Store} (assembled : s.Assembled) {h : Nat}
    (whole : (s.tree h).isWhole = true)
    (operands : ∀ t ∈ (s.tree h).nested.atoms, t.isOperand = true)
    {e : Environment} (spells : e.Spells) (suffixed : e.bareFirst = false)
    {blank : Char → Bool} (spaces : Text.Spaces blank)
    (separators : (s.template h).any Segment.isSeparating = true →
      ∃ sep, e.separator = .text sep ∧ Text.IsLevel blank sep.toList) :
    let w := s.write h e
    w.fault? = none ∧
    w.text = String.ofList ((s.tree h).nestedPredicate w.pen.env).chars ∧
    ((blank '\n' = true → ∀ t ∈ (s.tree h).nested.atoms, t.hasFeed w.pen.env = false) →
      ∀ t ∈ (s.tree h).nested.atoms,
        Formula.IsTerm blank (t.template.shown w.pen.env).toList) := by
  intro w
  have separator {segment : Segment} (mem : segment ∈ s.template h)
      (separating : segment.isSeparating = true) :
      ∃ sep, e.separator = .text sep ∧ Text.IsLevel blank sep.toList :=
    separators (List.any_eq_true.mpr ⟨segment, mem, separating⟩)
  obtain ⟨ok, holds, env, text⟩ := s.write_spelt assembled whole spells fun segment mem sep => by
    obtain ⟨sep, eq, -⟩ := separator mem sep
    rw [eq]
    trivial
  have spells' : w.pen.env.Spells :=
    env ▸ spells.after fun a mem => (holds a mem).identifies assembled
  have ext : e.Extends w.pen.env := s.write_extends h e
  have spelt : s.grounds.Spelt w.pen.env :=
    assembled.spelt spells' (ext.bareFirst_eq.trans suffixed)
  have made : (s.tree h).Made True s.grounds :=
    assembled.sound.tree_made (fun _ => assembled.typed) h
  refine ⟨ok, ?_, fun feeds => ?_⟩
  · rw [← made.toList_nested spelt operands, String.ofList_toList]
    exact text _ (.refl _)
  · refine made.isTerm_of_mem spaces spelt operands feeds fun segment mem separating => ?_
    obtain ⟨sep, eq, level⟩ := separator mem separating
    exact Segment.isLevel_separating ⟨spells'.worded, ext.separator_eq.trans eq⟩ level separating

/-- Something that the library has assembled and that holds labels, keys, properties and calls under
comparisons, checks, combinations and negations, whichever of these are operands of others. Where
all name stems are identifiers and every name has a number, it is written without a fault, and a
reader who goes by the precedence of all operators, and for whom no name falls apart, reads it as it
was built just in case the operands of its comparisons and checks bind as tightly as their places
ask. Where clauses are among the arguments of a call, the parentheses in the separator have to
match. -/
theorem grouping_kept_iff {s : Store} (assembled : s.Assembled) {h : Nat}
    (whole : (s.tree h).isWhole = true)
    (operands : ∀ t ∈ (s.tree h).nested.atoms, t.isOperand = true)
    (n : Naming) (view : ObjectView) (mark : Nat) (asks : List Ask)
    (stems : ∀ kind, ∃ m, (n.stems kind).name? = some m ∧ Text.isIdentifier m.word)
    (suffixed : n.bareFirst.truth view = false) (identify : ∀ a ∈ asks, a.Identifies)
    {blank : Char → Bool} (spaces : Text.Spaces blank)
    (separators : (s.template h).any Segment.isSeparating = true →
      ∃ sep, n.separator.name? = some (.text sep) ∧ Text.IsLevel blank sep.toList) :
    let e := (n.environment view (.blank mark)).after asks
    let w := s.write h e
    w.fault? = none ∧
    ((blank '\n' = true → ∀ t ∈ (s.tree h).nested.atoms, t.hasFeed w.pen.env = false) →
      (Precedence.parse? blank w.text =
          some ((s.tree h).nested.map fun t => t.template.shown w.pen.env) ↔
        (s.tree h).nested.grouped = true)) := by
  intro e w
  have spells : e.Spells := (Environment.spells_blank stems view mark).after identify
  have ext : (n.environment view (.blank mark)).Extends e := Environment.after_extends _ asks
  obtain ⟨ok, text, terms⟩ := assembled.write_nested whole operands spells
    (ext.bareFirst_eq.trans suffixed) spaces fun separating => by
      obtain ⟨sep, name, level⟩ := separators separating
      refine ⟨sep, ext.separator_eq.trans ?_, level⟩
      simp [Naming.environment, Wording.ofValue, name]
  refine ⟨ok, fun feeds => ?_⟩
  have terms := terms feeds
  have made : (s.tree h).Made True s.grounds :=
    assembled.sound.tree_made (fun _ => assembled.typed) h
  have formed : ((s.tree h).nestedPredicate w.pen.env).Formed blank :=
    made.formed fun t mem => (terms t mem).atomic
  have named : ((s.tree h).nestedPredicate w.pen.env).Named := by
    intro a mem
    rw [Tree.nestedPredicate, Formula.atoms_map] at mem
    obtain ⟨t, t_mem, rfl⟩ := List.mem_map.mp mem
    exact (terms t t_mem).not_operator
  rw [show w.text = _ from text, ← Formula.grouped_map]
  exact formed.parse?_eq_some_iff spaces named

/-- A check on the right of a relation is kept, since it binds more tightly. A relation on the left
of another one is not. -/
theorem grouping_kept_iff_checked :
    let calls : List Construction := [.node .null none, .property (.object 0) [.text "a"],
      .property (.object 0) [.text "b"], .check "IS NULL" (.object 2),
      .comparison "=" (.object 1) (.object 3), .comparison "<>" (.object 4) (.object 3)]
    let s := Store.empty.called calls
    let w h := s.write h ((Settings.defaults.naming [] none none).environment s.view (.blank 0))
    (w 4).text = "this0.a = this0.b IS NULL" ∧
    (∃ f, Precedence.parse? Text.blanks.holds (w 4).text = some f ∧
      (f matches .comparison "=" (.atom "this0.a") (.check "IS NULL" (.atom "this0.b")))) ∧
    (w 5).text = "this0.a = this0.b IS NULL <> this0.b IS NULL" ∧
    Precedence.parse? Text.blanks.holds (w 5).text ≠
      some ((s.tree 5).nested.map fun t => t.template.shown (w 5).pen.env) := by
  intro calls s w
  have assembled : s.Assembled := by
    refine Store.Assembled.empty.called <| .plain trivial rfl <| .plain trivial rfl <|
      .plain trivial rfl <| .plain ?check rfl <| .plain ?equals rfl <| .plain ?other rfl .nil
    case check => exact (by decide : "IS NULL" ∈ checkOperators)
    case equals => exact (by decide : "=" ∈ comparisonOperators)
    case other => exact (by decide : "<>" ∈ comparisonOperators)
  have whole : (s.tree 4).isWhole = true ∧ (s.tree 5).isWhole = true := by decide +kernel
  have operands : ([4, 5].all fun h => (s.tree h).nested.atoms.all Tree.isOperand) = true := by
    decide +kernel
  have separators : ([4, 5].any fun h => (s.template h).any Segment.isSeparating) = false := by
    decide +kernel
  have feeds : ([4, 5].all fun h =>
      (s.tree h).nested.atoms.all fun t => !t.hasFeed (w h).pen.env) = true := by
    decide +kernel
  have texts : (w 4).text = "this0.a = this0.b IS NULL" ∧
      (w 5).text = "this0.a = this0.b IS NULL <> this0.b IS NULL" := by
    decide +kernel
  have shape : (((s.tree 4).nested.map fun t => t.template.shown (w 4).pen.env) matches
      .comparison "=" (.atom "this0.a") (.check "IS NULL" (.atom "this0.b"))) = true := by
    decide +kernel
  have grouped : (s.tree 4).nested.grouped = true ∧ (s.tree 5).nested.grouped = false := by
    decide +kernel
  have stems : ∀ kind, ∃ m, ((Settings.defaults.naming [] none none).stems kind).name? = some m ∧
      Text.isIdentifier m.word := Settings.defaults_stems
  have spaces : Text.Spaces Text.blanks.holds := ⟨by decide, fun _ white => white⟩
  -- From here on it does not matter what is in the store.
  clear_value s
  simp only [List.all_cons, List.all_nil, List.any_cons, List.any_nil, Bool.and_true,
    Bool.or_false, Bool.and_eq_true, Bool.or_eq_false_iff] at operands separators feeds
  obtain ⟨-, kept⟩ := grouping_kept_iff assembled whole.1 (List.all_eq_true.mp operands.1)
    (Settings.defaults.naming [] none none) s.view 0 [] stems rfl (List.forall_mem_nil _) spaces
    fun separating => by
      rw [separators.1] at separating
      cases separating
  obtain ⟨-, lost⟩ := grouping_kept_iff assembled whole.2 (List.all_eq_true.mp operands.2)
    (Settings.defaults.naming [] none none) s.view 0 [] stems rfl (List.forall_mem_nil _) spaces
    fun separating => by
      rw [separators.2] at separating
      cases separating
  have read := (kept fun _ t mem => by simpa using List.all_eq_true.mp feeds.1 t mem).mpr grouped.1
  refine ⟨texts.1, ⟨_, read, shape⟩, texts.2, fun read => ?_⟩
  have grouped' := (lost fun _ t mem => by simpa using List.all_eq_true.mp feeds.2 t mem).mp read
  rw [grouped.2] at grouped'
  cases grouped'

/-- What is equal to a third property is a combination of two, by how it was built. It is only the
second one, by how it is read. -/
theorem combination_regrouped :
    let calls : List Construction := [.node .null none, .property (.object 0) [.text "a"],
      .property (.object 0) [.text "b"], .junction "AND" [.object 1, .object 2],
      .property (.object 0) [.text "c"], .comparison "=" (.object 3) (.object 4)]
    let s := Store.empty.called calls
    let w := s.write 5 ((Settings.defaults.naming [] none none).environment s.view (.blank 0))
    (((s.tree 5).nested.map fun t => t.template.shown w.pen.env) matches
      .comparison "=" (.junction "AND" [.atom "this0.a", .atom "this0.b"]) (.atom "this0.c")) ∧
    w.text = "this0.a AND this0.b = this0.c" ∧
    (Precedence.parse? Text.blanks.holds w.text matches some (.junction "AND"
      [.atom "this0.a", .comparison "=" (.atom "this0.b") (.atom "this0.c")])) := by
  intro calls s w
  have shape : (((s.tree 5).nested.map fun t => t.template.shown w.pen.env) matches
      .comparison "=" (.junction "AND" [.atom "this0.a", .atom "this0.b"]) (.atom "this0.c")) =
        true := by
    decide +kernel
  have text : w.text = "this0.a AND this0.b = this0.c" := by decide +kernel
  have read : ((Precedence.parse? Text.blanks.holds "this0.a AND this0.b = this0.c") matches
      some (.junction "AND"
        [.atom "this0.a", .comparison "=" (.atom "this0.b") (.atom "this0.c")])) = true := by
    decide +kernel
  exact ⟨shape, text, text ▸ read⟩

end GraphQuery
