import GraphQuery.Proofs.Tree.Formula
import GraphQuery.Settings.Basic

/-!
Predicates are read as they were built.

Combinations stand in parentheses where they are operands of others, and nowhere else. So a reader
who goes by precedence, and to whom quoted names and calls are parts of words, reads the predicate
that was built from its text. How many operands there are and how deep they are nested makes no
difference.

Readers differ in what they take for a blank. An identifier may have a line feed behind it, which is
let pass: where that is a blank, a word with such a name in it falls apart.

* `Store.Assembled.spelt`: the labels and keys of what the library has assembled.
* `predicates_reparse`: a predicate is read from its text as it was built.
-/

namespace GraphQuery

/-- The separator may stand in a list of arguments, and then every place where it has a say may. -/
theorem Segment.isLevel_separating {e : Environment} {sep : String} (textual : e.IsTextual sep)
    {blank : Char → Bool} (level : Text.IsLevel blank sep.toList) {segment : Segment}
    (separating : segment.isSeparating = true) : Text.IsLevel blank (segment.shown e).toList := by
  cases segment with
  | separator =>
    rw [shown_separator textual]
    exact level
  | joint =>
    rw [shown_joint textual]
    exact level
  | formed | joining | joined | blank | blankItem =>
    rw [shown_silent textual rfl]
    exact Text.isLevel_nil
  | _ => cases separating

/-- Where stems are identifiers and no name is a stem alone, what the library has assembled is spelt
with words and numbers. -/
theorem Store.Assembled.spelt {s : Store} (assembled : s.Assembled) {e : Environment}
    (spells : e.Spells) (suffixed : e.bareFirst = false) : s.grounds.Spelt e where
  spells := spells
  suffixed := suffixed
  bearer b isBearer := by
    obtain ⟨r, rfl, found⟩ := isBearer
    exact ⟨r, rfl, Holds.identifies (a := .label r) found assembled⟩
  param p isParam := Holds.identifies (a := .key p) isParam assembled

/-- Something that the library has assembled and that holds labels, keys, properties and calls under
comparisons, checks, combinations and negations. Where all name stems are identifiers and every name
has a number, it is written without a fault, and a reader for whom no name falls apart reads it as
it was built: the same comparisons, checks, combinations and negations of the same texts. Where
clauses are among the arguments of a call, the parentheses in the separator have to match. -/
theorem predicates_reparse {s : Store} (assembled : s.Assembled) {h : Nat}
    (whole : (s.tree h).isWhole = true)
    (operands : ∀ t ∈ (s.tree h).formula.atoms, t.isOperand = true)
    (n : Naming) (view : ObjectView) (mark : Nat) (asks : List Ask)
    (stems : ∀ kind, ∃ m, (n.stems kind).name? = some m ∧ Text.isIdentifier m.word)
    (suffixed : n.bareFirst.truth view = false) (identify : ∀ a ∈ asks, a.Identifies)
    {blank : Char → Bool} (spaces : Text.Spaces blank)
    (separators : (s.template h).any Segment.isSeparating = true →
      ∃ sep, n.separator.name? = some (.text sep) ∧ Text.IsLevel blank sep.toList) :
    let e := (n.environment view (.blank mark)).after asks
    let w := s.write h e
    w.fault? = none ∧
    ((blank '\n' = true → ∀ t ∈ (s.tree h).formula.atoms, t.hasFeed w.pen.env = false) →
      Formula.parse? blank w.text =
        some ((s.tree h).formula.map fun t => t.template.shown w.pen.env)) := by
  intro e w
  have spells : e.Spells := (Environment.spells_blank stems view mark).after identify
  have ext : (n.environment view (.blank mark)).Extends e := Environment.after_extends _ asks
  -- What separators come to is only known where there are some.
  have separator : ∀ segment ∈ s.template h, segment.isSeparating = true →
      ∃ sep, e.separator = .text sep ∧ Text.IsLevel blank sep.toList := by
    intro segment mem separating
    obtain ⟨sep, name, level⟩ := separators (List.any_eq_true.mpr ⟨segment, mem, separating⟩)
    refine ⟨sep, ext.separator_eq.trans ?_, level⟩
    simp [Naming.environment, Wording.ofValue, name]
  obtain ⟨ok, holds, env, text⟩ := s.write_spelt assembled whole spells fun segment mem sep => by
    obtain ⟨sep, eq, -⟩ := separator segment mem sep
    rw [eq]
    trivial
  refine ⟨ok, fun feeds => ?_⟩
  have identified : ∀ a ∈ (s.template h).asks, a.Identifies := fun a mem =>
    (holds a mem).identifies assembled
  have spells' : w.pen.env.Spells := env ▸ spells.after identified
  have ext' : e.Extends w.pen.env := s.write_extends h e
  have spelt : s.grounds.Spelt w.pen.env := by
    refine assembled.spelt spells' ?_
    rw [ext'.bareFirst_eq, ext.bareFirst_eq]
    exact suffixed
  have made : (s.tree h).Made True s.grounds :=
    assembled.sound.tree_made (fun _ => assembled.typed) h
  have regular := made.regular spaces spelt operands feeds fun segment mem separating => by
    obtain ⟨sep, eq, level⟩ := separator segment mem separating
    exact Segment.isLevel_separating ⟨spells'.worded, ext'.separator_eq.trans eq⟩ level separating
  have written : w.text = String.ofList ((s.tree h).predicate w.pen.env).chars := by
    rw [← made.toList_template spelt operands, String.ofList_toList]
    exact text _ (.refl _)
  rw [written]
  exact regular.parse?_chars spaces

/-- A combination behind a negation, the name of a property that is a word of the library, and one
in quotes, with parentheses and such a word in it, among the arguments of a call. -/
theorem predicates_reparse_nested :
    let calls : List Construction := [.node .null none, .property (.object 0) [.text "AND"],
      .comparison ">" (.object 1) (.int 30), .property (.object 0) [.text "a) OR (b"],
      .call (.text "coalesce") [.object 4, .object 0], .check "IS NOT NULL" (.object 5),
      .junction "AND" [.object 3, .object 6], .negation (.object 7),
      .junction "OR" [.object 8, .object 3]]
    let s := Store.empty.called calls
    let w := s.write 9 ((Settings.defaults.naming [] none none).environment s.view (.blank 0))
    s.Assembled ∧ w.text =
      "NOT (this0.AND > $param1 AND coalesce(this0.`a) OR (b`, this0) IS NOT NULL)" ++
        " OR this0.AND > $param1" ∧
    ∃ f, Formula.parse? Text.blanks.holds w.text = some f ∧
      (f matches .junction "OR" [.negation (.junction "AND"
        [.comparison ">" (.atom "this0.AND") (.atom "$param1"),
          .check "IS NOT NULL" (.atom "coalesce(this0.`a) OR (b`, this0)")]),
        .comparison ">" (.atom "this0.AND") (.atom "$param1")]) := by
  intro calls s w
  have exported : Store.empty.ExportedInTurn calls := by
    refine .plain trivial rfl <| .plain trivial rfl <| .plain ?greater rfl <|
      .plain trivial rfl <| .plain ⟨"coalesce", by decide, rfl⟩ rfl <| .plain ?check rfl <|
      .plain ?both rfl <| .plain trivial rfl <| .plain ?either rfl .nil
    case greater => exact (by decide : ">" ∈ comparisonOperators)
    case check => exact (by decide : "IS NOT NULL" ∈ checkOperators)
    case both => exact (by decide : "AND" ∈ junctionOperators)
    case either => exact (by decide : "OR" ∈ junctionOperators)
  have assembled : s.Assembled := Store.Assembled.empty.called exported
  have whole : (s.tree 9).isWhole = true := by decide +kernel
  have operands : (s.tree 9).formula.atoms.all Tree.isOperand = true := by decide +kernel
  have separators : (s.template 9).any Segment.isSeparating = false := by decide +kernel
  have feeds : ((s.tree 9).formula.atoms.all fun t => !t.hasFeed w.pen.env) = true := by
    decide +kernel
  have text : w.text =
      "NOT (this0.AND > $param1 AND coalesce(this0.`a) OR (b`, this0) IS NOT NULL)" ++
        " OR this0.AND > $param1" := by
    decide +kernel
  have shape : (((s.tree 9).formula.map fun t => t.template.shown w.pen.env) matches
      .junction "OR" [.negation (.junction "AND"
        [.comparison ">" (.atom "this0.AND") (.atom "$param1"),
          .check "IS NOT NULL" (.atom "coalesce(this0.`a) OR (b`, this0)")]),
        .comparison ">" (.atom "this0.AND") (.atom "$param1")]) = true := by
    decide +kernel
  have stems : ∀ kind, ∃ m, ((Settings.defaults.naming [] none none).stems kind).name? = some m ∧
      Text.isIdentifier m.word := Settings.defaults_stems
  have spaces : Text.Spaces Text.blanks.holds := ⟨by decide, fun _ white => white⟩
  -- From here on it does not matter what is in the store.
  clear_value s
  obtain ⟨-, read⟩ := predicates_reparse assembled whole (List.all_eq_true.mp operands)
    (Settings.defaults.naming [] none none) s.view 0 [] stems rfl (List.forall_mem_nil _) spaces
    fun separating => by
      rw [separators] at separating
      cases separating
  refine ⟨assembled, text, _, read fun _ t mem => ?_, shape⟩
  simpa using List.all_eq_true.mp feeds t mem

end GraphQuery
