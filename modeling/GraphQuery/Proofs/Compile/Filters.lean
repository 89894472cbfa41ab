import GraphQuery.Proofs.Compile.Grammar
import GraphQuery.Proofs.Compile.Predicates
import GraphQuery.Proofs.History.Joined
import GraphQuery.Proofs.History.Tree

/-!
Filters that are given one after another combine from the left.

Each builder call that gives a predicate succeeds on a clause that can carry a filter. The clause
has one line for all of them. A reader who goes by precedence finds a predicate there whose value is
that of the first one, combined with that of the second, combined with that of the third, and so on,
whatever the values of the comparisons are. It makes no difference which of them are combinations
themselves, and into which of them others have been taken.

* `Naming.Numbered`: names are words with numbers behind them.
* `Store.whereLines_contentsTree`: the line of a clause for its filter.
* `filters_fold_left`: how the predicates on a clause are read together.
-/

namespace GraphQuery

open Assembly History

/-! ### The line of a filter -/

/-- The line begins like that of a filter. -/
def Line.isFilter (l : Line) : Bool := l.keyword == "WHERE"

/-- A line with another keyword is for something else. -/
theorem Line.isFilter_of_ne {keyword : String} (other : keyword ≠ "WHERE") (body : Template) :
    isFilter ⟨keyword, body⟩ = false := beq_false_of_ne other

namespace Tree

/-- What orders rows is written on other lines than a filter. -/
theorem isFilter_orderingLines (sortItems : List Template) (skip limit : Option Param) :
    ∀ l ∈ orderingLines sortItems skip limit, l.isFilter = false := by
  have count : ∀ {keyword : String} (count : Option Param), keyword ≠ "WHERE" →
      ∀ l ∈ (count.map fun p => (⟨keyword, [.key p]⟩ : Line)).toList, l.isFilter = false := by
    intro keyword count other
    cases count with
    | none => exact List.forall_mem_nil _
    | some p => exact List.forall_mem_singleton.mpr (Line.isFilter_of_ne other _)
  refine List.forall_mem_append.mpr ⟨List.forall_mem_append.mpr ⟨?_, count skip (by decide)⟩,
    count limit (by decide)⟩
  split
  · exact List.forall_mem_nil _
  · exact List.forall_mem_singleton.mpr (Line.isFilter_of_ne (by decide) _)

/-- What is no filter is written on other lines. -/
theorem isFilter_fragmentLines {t : Tree} (other : ∀ p, t ≠ .filter p) :
    ∀ l ∈ t.fragmentLines, l.isFilter = false := by
  cases t with
  | filter p => exact absurd rfl (other p)
  | assignments | removals =>
    exact List.forall_mem_singleton.mpr (Line.isFilter_of_ne (by decide) _)
  | deletions detach references =>
    refine List.forall_mem_singleton.mpr (Line.isFilter_of_ne ?_ _)
    cases detach <;> decide
  | projection kind distinct columns sortItems skip limit =>
    refine List.forall_mem_cons.mpr
      ⟨Line.isFilter_of_ne ?_ _, isFilter_orderingLines _ skip limit⟩
    cases kind <;> decide
  | _ => exact List.forall_mem_nil _

end Tree

namespace Store

variable {s : Store} {m : Contents} {t : Tree}

/-- What is in another slot is no filter. -/
theorem fragment?_ne_filter {slot : Slot} (other : slot ≠ .filter)
    (found : s.fragment? m slot = some t) (p : Tree) : t ≠ .filter p := by
  rintro rfl
  cases slot with
  | path => cases found
  | filter => exact other rfl
  | assignment | removal | deletion =>
    simp only [fragment?] at found
    split at found <;> cases found
  | passing | returning =>
    obtain ⟨_, -, eq⟩ := Option.map_eq_some_iff.mp found
    cases eq

/-- In other slots there is no line for a filter. -/
theorem filterLines_of_not_mem {slots : List Slot} (absent : .filter ∉ slots) :
    ((slots.filterMap (s.fragment? m)).flatMap Tree.fragmentLines).filter Line.isFilter = [] := by
  rw [List.filter_eq_nil_iff]
  intro l mem
  obtain ⟨t, t_mem, mem⟩ := List.mem_flatMap.mp mem
  obtain ⟨slot, slot_mem, found⟩ := List.mem_filterMap.mp t_mem
  have other : slot ≠ .filter := fun eq => absent (eq ▸ slot_mem)
  rw [Tree.isFilter_fragmentLines (fragment?_ne_filter other found) l mem]
  exact Bool.false_ne_true

/-- Among slots with a filter there is one line for it. -/
theorem filterLines_of_mem {slots : List Slot} (nodup : slots.Nodup) (supported : .filter ∈ slots)
    (filter : Tree.filterOf s.valueTree m.predicates = some t) :
    ((slots.filterMap (s.fragment? m)).flatMap Tree.fragmentLines).filter Line.isFilter =
      [⟨"WHERE", t.template⟩] := by
  obtain ⟨before, after, rfl⟩ := List.append_of_mem supported
  obtain ⟨-, others, apart⟩ := List.nodup_append.mp nodup
  have first := filterLines_of_not_mem (s := s) (m := m) fun mem : .filter ∈ before =>
    apart _ mem _ List.mem_cons_self rfl
  have last := filterLines_of_not_mem (s := s) (m := m) (List.nodup_cons.mp others).1
  have own : s.fragment? m .filter = some (.filter t) := congrArg (Option.map Tree.filter) filter
  have line : (Tree.filter t).fragmentLines.filter Line.isFilter = [⟨"WHERE", t.template⟩] := rfl
  rw [List.filterMap_append, List.filterMap_cons_some own, List.flatMap_append,
    List.flatMap_cons, List.filter_append, List.filter_append, first, last, line]
  rfl

/-- A clause with predicates has one line for them. -/
theorem filterLines_contentsTree (supported : .filter ∈ m.head.manifest)
    (filter : Tree.filterOf s.valueTree m.predicates = some t) :
    (s.contentsTree m).lines.filter Line.isFilter = [⟨"WHERE", t.template⟩] := by
  have fragments := filterLines_of_mem m.head.nodup_manifest supported filter
  unfold contentsTree
  generalize m.head.manifest.filterMap (s.fragment? m) = parts at fragments
  cases m.head with
  | read optionalClass isOptional patterns =>
    have keyword : (s.readKeyword isOptional == "WHERE") = false := by
      unfold readKeyword
      split <;> decide
    refine (List.filter_cons_of_neg ?_).trans fragments
    exact Bool.eq_false_iff.mp keyword
  | create patterns => exact fragments
  | project p =>
    have body : (s.projectionTree s.valueTree p).fragmentLines.filter Line.isFilter = [] := by
      refine List.filter_eq_nil_iff.mpr fun l mem => Bool.eq_false_iff.mp ?_
      exact Tree.isFilter_fragmentLines (by rintro _ ⟨⟩) l mem
    change ((s.projectionTree s.valueTree p).fragmentLines ++ _).filter Line.isFilter = _
    rw [List.filter_append, body, fragments]
    rfl

/-- A clause on which predicates have been joined has one line for them. -/
theorem filterLines_of_told {h : Nat} {head : Head} {calls : List Call}
    (told : Told h head s calls) (supported : .filter ∈ head.manifest)
    (whole : (s.tree h).isWhole = true)
    (filter : Tree.filterOf s.valueTree (predicates calls) = some t) :
    (s.tree h).lines.filter Line.isFilter = [⟨"WHERE", t.template⟩] := by
  rw [← told.tree_coincides.eq whole]
  refine filterLines_contentsTree ?_ filter
  change .filter ∈ (head.after calls).manifest
  rwa [head.manifest_after]

/-- What a value stands for is made of words of the library and of what is in the store. -/
theorem Assembled.valueTree_made (assembled : s.Assembled) (v : Value) :
    (s.valueTree v).Made True s.grounds := by
  cases v with
  | atom a mark =>
    rw [valueTree, treeFrom_atom]
    exact .stuck _
  | object h =>
    rw [valueTree_object]
    exact assembled.sound.tree_made (fun _ => assembled.typed) h

end Store

/-! ### Names -/

/-- All stems are identifiers, every name has a number behind its stem, and the separator is a
text. -/
structure Naming.Numbered (n : Naming) (view : ObjectView) (sep : String) : Prop where
  stems : ∀ kind, ∃ m, (n.stems kind).name? = some m ∧ Text.isIdentifier m.word
  suffixed : n.bareFirst.truth view = false
  separator : n.separator.name? = some (.text sep)

/-- Whatever has been asked for, names are spelt with numbers. -/
theorem Naming.Numbered.environment {n : Naming} {view : ObjectView} {sep : String}
    (h : n.Numbered view sep) (mark : Nat) {asks : List Ask}
    (identify : ∀ a ∈ asks, a.Identifies) :
    let e := (n.environment view (.blank mark)).after asks
    e.Spells ∧ e.bareFirst = false ∧ e.IsTextual sep := by
  intro e
  have spells : e.Spells := (Environment.spells_blank h.stems view mark).after identify
  have ext : (n.environment view (.blank mark)).Extends e := Environment.after_extends _ asks
  refine ⟨spells, ext.bareFirst_eq.trans h.suffixed, spells.worded, ext.separator_eq.trans ?_⟩
  simp [Naming.environment, Wording.ofValue, h.separator]

/-- Builders have been called on a clause that can carry a filter, with anything else called in
between. To join one predicate more, by `AND` or by `OR`, always succeeds and is one call more.

If the predicates compare labels, keys, properties and calls, then the clause is written on lines of
which one is for its filter. Where every name is an identifier with a number behind it, a reader for
whom no name falls apart reads a predicate on that line. Under all values of the comparisons and
checks it has the value of the predicates combined from the left, each by the call that has given
it. -/
theorem filters_fold_left {h : Nat} {head : Head} {s : Store} {calls : List Call}
    (told : Store.Told h head s calls) (supported : .filter ∈ head.manifest) :
    (∀ (connective : Connective) (v p : Value),
      (Construction.build h (connective.builder v)).Exported s →
      (outcome (expression v).run s).1 = .ok p →
      (outcome (buildOn h (connective.builder v)).run s).1 = .ok (.object h) ∧
        Store.Told h head (outcome (buildOn h (connective.builder v)).run s).2
          (calls ++ [.join connective p])) ∧
    ∀ (first : Connective × Value) (rest : List (Connective × Value)),
      predicates calls = first :: rest → (s.tree h).isWhole = true →
      (∀ p ∈ first :: rest, ∀ t ∈ (s.valueTree p.2).formula.atoms, t.isOperand = true) →
      ∀ (n : Naming) (view : ObjectView) (sep : String), n.Numbered view sep →
      ∀ (mark : Nat) (asks : List Ask), (∀ a ∈ asks, a.Identifies) →
      ∀ blank : Char → Bool, Text.Spaces blank →
      ((∃ p ∈ first :: rest, (s.valueTree p.2).template.any Segment.isSeparating = true) →
        Text.IsLevel blank sep.toList) →
      let w := s.write h ((n.environment view (.blank mark)).after asks)
      let e := w.pen.env
      w.answer = .ok (.text (sep.intercalate ((s.tree h).lines.map (Line.shown e)))) ∧
      ∃ body, (s.tree h).lines.filter Line.isFilter = [⟨"WHERE", body⟩] ∧
        ((blank '\n' = true → ∀ p ∈ first :: rest, ∀ t ∈ (s.valueTree p.2).formula.atoms,
            t.hasFeed e = false) →
          ∃ f, Formula.parse? blank (body.shown e) = some f ∧
            ∀ truth : Formula String → Truth, f.eval truth =
              rest.foldl (fun v p => p.1.combine v (((s.valueTree p.2).predicate e).eval truth))
                (((s.valueTree first.2).predicate e).eval truth)) := by
  refine ⟨fun connective v p => told.join supported connective, ?_⟩
  intro first rest given whole operands n view sep numbered mark asks identify blank spaces
    separators w e
  have assembled := told.assembled
  obtain ⟨c, found, -⟩ := told.follows
  obtain ⟨spells, suffixed, textual⟩ := numbered.environment mark identify
  -- The names under which the clause has been written are spelt with numbers as well.
  obtain ⟨ok, holds, env, -⟩ := s.write_spelt assembled whole spells fun _ _ _ => by
    rw [textual.separator_eq]
    trivial
  have ext : Environment.Extends _ e := s.write_extends h _
  have spells' : e.Spells := by
    rw [show e = _ from env]
    exact spells.after fun a mem => (holds a mem).identifies assembled
  have spelt : s.grounds.Spelt e := assembled.spelt spells' (ext.bareFirst_eq.trans suffixed)
  have textual' : e.IsTextual sep := textual.render (s.template h)
  have filter : Tree.filterOf s.valueTree (predicates calls) =
      some (Tree.joinedAll s.valueTree (s.valueTree first.2) rest) := by
    rw [given, Tree.filterOf_cons]
  refine ⟨?_, _, Store.filterLines_of_told told supported whole filter, fun feeds => ?_⟩
  · have value := Store.write_lines assembled.sound.unassigned found textual whole
    rw [Writing.answer, ok]
    exact congrArg Except.ok value
  · have readable : ∀ p ∈ first :: rest, (s.valueTree p.2).Readable s.grounds blank e :=
      fun p mem => {
        made := assembled.valueTree_made p.2
        operands := operands p mem
        feeds := fun isBlank => feeds isBlank p mem
        separators := fun some segment => Segment.isLevel_separating textual'
          (separators ⟨p, mem, some⟩) }
    obtain ⟨begins, others⟩ := List.forall_mem_cons.mp readable
    exact ⟨_, (begins.joinedAll s.valueTree others).parse?_shown spaces spelt,
      Tree.eval_joinedAll s.valueTree _ rest⟩

/-- A combination by `AND` is given first and takes the second predicate in, and the third makes a
pair with what they have become. -/
theorem filters_fold_left_flattened :
    let made : List Construction := [.node .null none, .property (.object 0) [.text "a"],
      .property (.object 0) [.text "b"], .comparison "=" (.object 1) (.object 2),
      .comparison ">" (.object 1) (.int 30), .junction "AND" [.object 3, .object 5],
      .check "IS NULL" (.object 2), .read false (.bool false) [.object 0]]
    let s := Store.empty.called
      (made ++ [.build 9 (.restrict (.object 6)), .build 9 (.restrict (.object 7)),
        .build 9 (.relax (.object 3))])
    let e := (s.write 9
      ((Settings.defaults.naming [] none none).environment s.view (.blank 0))).pen.env
    ∃ f, Formula.parse? Text.blanks.holds
        "(this0.a = this0.b AND this0.a > $param1 AND this0.b IS NULL) OR this0.a = this0.b" =
          some f ∧
      ∀ truth : Formula String → Truth, f.eval truth =
        ((((s.tree 6).predicate e).eval truth).and (((s.tree 7).predicate e).eval truth)).or
          (((s.tree 3).predicate e).eval truth) := by
  intro made s e
  have assembled : (Store.empty.called (made.take 7)).Assembled := by
    refine Store.Assembled.empty.called <| .plain trivial rfl <| .plain trivial rfl <|
      .plain trivial rfl <| .plain ?equals rfl <| .plain ?greater rfl <| .plain ?both rfl <|
      .plain ?check rfl .nil
    case equals => exact (by decide : "=" ∈ comparisonOperators)
    case greater => exact (by decide : ">" ∈ comparisonOperators)
    case both => exact (by decide : "AND" ∈ junctionOperators)
    case check => exact (by decide : "IS NULL" ∈ checkOperators)
  let head : Head := .read false (.bool false) [8]
  have built : Store.Told 9 head (Store.empty.called made) [] :=
    .made assembled ⟨trivial, Store.knowsWithin_of_isPlain rfl⟩ (.read rfl) rfl
  have exported {t : Store} {b : Builder} (plain : b.arguments.all t.isPlain = true) :
      (Construction.build 9 b).Exported t := ⟨trivial, Store.knowsWithin_of_isPlain plain⟩
  have first : Store.Told 9 head (Store.empty.called (made ++ [.build 9 (.restrict (.object 6))]))
      ([] ++ [.join .and (.object 6)]) := .built built (exported rfl) rfl rfl
  have second : Store.Told 9 head (Store.empty.called
      (made ++ [.build 9 (.restrict (.object 6)), .build 9 (.restrict (.object 7))]))
      ([.join .and (.object 6)] ++ [.join .and (.object 7)]) := .built first (exported rfl) rfl rfl
  have told : Store.Told 9 head s
      ([.join .and (.object 6), .join .and (.object 7)] ++ [.join .or (.object 3)]) :=
    .built second (exported rfl) rfl rfl
  have whole : (s.tree 9).isWhole = true := by decide +kernel
  have operands : ([6, 7, 3].all fun h =>
      (s.tree h).formula.atoms.all Tree.isOperand) = true := by decide +kernel
  have feeds : ([6, 7, 3].all fun h =>
      (s.tree h).formula.atoms.all fun t => !t.hasFeed e) = true := by decide +kernel
  have text : ((s.tree 9).lines.filter Line.isFilter).map (fun l => l.body.shown e) =
      ["(this0.a = this0.b AND this0.a > $param1 AND this0.b IS NULL) OR this0.a = this0.b"] := by
    decide +kernel
  have numbered : (Settings.defaults.naming [] none none).Numbered s.view "\n" :=
    ⟨Settings.defaults_stems, rfl, rfl⟩
  have spaces : Text.Spaces Text.blanks.holds := ⟨by decide, fun _ white => white⟩
  -- From here on it does not matter what is in the store.
  clear_value s
  obtain ⟨-, read⟩ := filters_fold_left told (by decide)
  obtain ⟨-, body, line, read⟩ := read (.and, .object 6) [(.and, .object 7), (.or, .object 3)] rfl
    whole (by simpa using operands) (Settings.defaults.naming [] none none) s.view "\n" numbered 0
    [] (List.forall_mem_nil _) _ spaces fun _ => Text.isLevel_of_isPlain (by decide)
  rw [line] at text
  obtain ⟨f, parsed, value⟩ := read fun _ => by simpa using feeds
  refine ⟨f, ?_, fun truth => ?_⟩
  · rw [← List.singleton_inj.mp text]
    exact parsed
  · simpa [Connective.combine] using value truth

end GraphQuery
