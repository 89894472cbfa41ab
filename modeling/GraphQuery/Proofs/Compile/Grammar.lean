import GraphQuery.Proofs.Compile.Keywords
import GraphQuery.Proofs.Compile.Placeholders
import GraphQuery.Proofs.Store.Expansion

/-!
Every clause is written as lines that follow the grammar of clauses.

What a clause that the library has assembled comes to does not depend on how it came about: its
lines begin with keywords that the grammar of its head allows, every projection in it has columns,
and a path stands in front of a single pattern.

* `Tree.Grammatical`: a tree of a clause is what the grammar asks for.
* `Store.clauseTree_grammatical`: the tree of a proper clause is.
* `keywords_follow_grammar`: what this comes to for the text of a clause that the library has
  assembled.
-/

namespace GraphQuery

/-! ### Grammatical clauses -/

namespace Tree

/-- The tree is written as the star, with or without a name. -/
def isStarred : Tree → Bool
  | star => true
  | column t | aliased t _ => t.isStarred
  | _ => false

/-- If the tree is a projection then it has columns, and the star comes first if at all. -/
def HasColumns : Tree → Prop
  | projection _ _ columns _ _ _ => columns ≠ [] ∧ ∀ t ∈ columns.tail, t.isStarred = false
  | _ => True

/-- If there is a path then it stands in front of a single pattern. -/
def HasLonePath : Tree → Prop
  | patternClause _ (some _) patterns _ => ∃ p, patterns = [p]
  | _ => True

/-- A clause is made of lines that the grammar allows. -/
structure Grammatical (P : RegularExpression String) (t : Tree) : Prop where
  keywords : Allowed P (keywords t.lines)
  columns : ∀ u ∈ t.parts, u.HasColumns
  path : t.HasLonePath

end Tree

namespace Store

variable {s : Store}

/-- Nothing that stands for itself is a star: that is only ever a column of a projection. -/
theorem isStarred_treeOf {R : Value → Value → Prop} {s' : Store} {inner : Value → Tree}
    {h : Nat} {o o' : Object} (unassigned : s.assignments = [])
    (alike : Object.Alike R s s' h o o') : (s.treeOf inner h o).isStarred = false := by
  cases alike with
  | reference _ | param _ | statement | union _ | chain _ =>
    simp only [treeOf, nodesOf, branchesOf, standIn?_eq_none unassigned, ofValues]
    rfl
  | expression _ =>
    simp only [treeOf, Expression.tree]
    split <;> (try split) <;> rfl
  | nodeElement _ =>
    simp only [treeOf, NodeElement.tree]
    split <;> (try split) <;> rfl
  | relationshipElement _ =>
    simp only [treeOf, RelationshipElement.tree]
    split <;> (try split) <;> rfl
  | pattern _ => rfl
  | clause c =>
    simp only [treeOf, isReassigned_eq_false unassigned, Bool.false_eq_true, if_false, clauseTree]
    split <;> rfl
  | data isData isData' => cases o <;> cases isData <;> rfl

theorem isStarred_treeWithin {R : Value → Value → Prop} (like : s.Alike R s) (depth : Nat)
    (unused : List Nat) (v : Value) : (s.treeWithin depth unused v).isStarred = false := by
  cases v with
  | atom a mark => cases depth <;> rfl
  | object h =>
    cases depth with
    | zero => rfl
    | succ depth =>
      simp only [treeWithin, hasAssigned_eq_false like.unassigned,
        isLacking_eq_false like.unassigned]
      split
      · cases found : s.get? h with
        | none => rfl
        | some o => exact isStarred_treeOf like.unassigned (like.objects found found)
      · rfl

section Clauses

variable {inner : Value → Tree} {c : Clause}

/-- A column is written as the star only if it is one. -/
theorem isStarred_column (starless : ∀ v, (inner v).isStarred = false) {column : Column}
    (noStar : column.isStar = false) : (column.tree inner s.variableOf?).isStarred = false := by
  have given : column.expression.given? = some column.expression := by
    exact if_neg (Bool.eq_false_iff.mp noStar)
  unfold Column.tree
  rw [given]
  cases column.name.given? with
  | none => exact starless _
  | some name =>
    dsimp only
    split
    · exact starless _
    · exact starless _
    · rfl

/-- A proper projection has columns. -/
theorem projectionTree_hasColumns (starless : ∀ v, (inner v).isStarred = false) {p : Projection}
    (proper : p.Proper) : (s.projectionTree inner p).HasColumns := by
  refine ⟨fun none => proper.nonempty (List.map_eq_nil_iff.mp none), ?_⟩
  rw [← List.map_tail]
  intro t mem
  obtain ⟨column, later, rfl⟩ := List.mem_map.mp mem
  exact isStarred_column starless (proper.stars column later)

/-- What is in a slot has columns if it ought to. -/
theorem slotTree_hasColumns (starless : ∀ v, (inner v).isStarred = false) (proper : c.Proper)
    {slot : Slot} {t : Tree} (found : s.slotTree? inner c slot = some t) : t.HasColumns := by
  cases slot with
  | path => cases found
  | filter =>
    obtain ⟨v, -, rfl⟩ := Option.map_eq_some_iff.mp found
    trivial
  | assignment | removal | deletion =>
    simp only [slotTree?] at found
    split at found <;> cases found
    trivial
  | passing =>
    obtain ⟨p, eq, rfl⟩ := Option.map_eq_some_iff.mp found
    exact projectionTree_hasColumns starless (proper.passing p eq).2
  | returning =>
    obtain ⟨p, eq, rfl⟩ := Option.map_eq_some_iff.mp found
    exact projectionTree_hasColumns starless (proper.returning p eq).2

theorem fragmentTrees_hasColumns (starless : ∀ v, (inner v).isStarred = false) (proper : c.Proper) :
    ∀ t ∈ s.fragmentTrees inner c, t.HasColumns := by
  intro t mem
  obtain ⟨slot, -, found⟩ := List.mem_filterMap.mp mem
  exact slotTree_hasColumns starless proper found

/-- A path stands in front of the only pattern. -/
theorem clauseTree_hasLonePath (proper : c.Proper) : (s.clauseTree inner c).HasLonePath := by
  have lone : ∀ keyword patterns fragments, c.head.patterns = patterns →
      (Tree.patternClause keyword (c.path.join.map .reference)
        (patterns.map fun h => inner (.object h)) fragments).HasLonePath := by
    intro keyword patterns fragments head
    cases path : c.path with
    | none => trivial
    | some r? =>
      cases r? with
      | none => trivial
      | some r =>
        have length := proper.path (by rw [path]; rfl)
        rw [head] at length
        obtain ⟨h, rfl⟩ := List.length_eq_one_iff.mp length
        exact ⟨_, rfl⟩
  unfold clauseTree
  cases head : c.head with
  | read optionalClass isOptional patterns => exact lone _ patterns _ (by rw [head]; rfl)
  | create patterns => exact lone _ patterns _ (by rw [head]; rfl)
  | project p => trivial

/-- The tree of a proper clause is grammatical. -/
theorem clauseTree_grammatical (starless : ∀ v, (inner v).isStarred = false) (proper : c.Proper) :
    (s.clauseTree inner c).Grammatical c.head.grammar where
  keywords := keywords_allowed proper
  columns := by
    have fragments := fragmentTrees_hasColumns (s := s) starless proper
    unfold clauseTree
    cases head : c.head with
    | read optionalClass isOptional patterns => exact fragments
    | create patterns => exact fragments
    | project p =>
      have body := projectionTree_hasColumns (s := s) starless (proper.body p head)
      exact List.forall_mem_cons.mpr ⟨body, fragments⟩
  path := clauseTree_hasLonePath proper

/-- What is in a slot has lines. -/
theorem slotTree_lines {slot : Slot} {t : Tree} (found : s.slotTree? inner c slot = some t) :
    t.fragmentLines ≠ [] := by
  cases slot with
  | path => cases found
  | filter | passing | returning =>
    obtain ⟨_, -, rfl⟩ := Option.map_eq_some_iff.mp found
    exact List.cons_ne_nil _ _
  | assignment | removal | deletion =>
    simp only [slotTree?] at found
    split at found <;> cases found
    exact List.cons_ne_nil _ _

/-- A clause has lines, and so does each of its parts. -/
theorem clauseTree_lines : (s.clauseTree inner c).lines ≠ [] ∧
    ∀ t ∈ (s.clauseTree inner c).parts, t.fragmentLines ≠ [] := by
  have fragments : ∀ t ∈ s.fragmentTrees inner c, t.fragmentLines ≠ [] := by
    intro t mem
    obtain ⟨slot, -, found⟩ := List.mem_filterMap.mp mem
    exact slotTree_lines found
  unfold clauseTree
  cases c.head with
  | read optionalClass isOptional patterns => exact ⟨List.cons_ne_nil _ _, fragments⟩
  | create patterns => exact ⟨List.cons_ne_nil _ _, fragments⟩
  | project p =>
    exact ⟨List.cons_ne_nil _ _, List.forall_mem_cons.mpr ⟨List.cons_ne_nil _ _, fragments⟩⟩

/-- A clause begins with a word of its own. -/
theorem exists_clauseTree_template :
    ∃ word rest, (s.clauseTree inner c).template = .text word :: rest := by
  unfold clauseTree
  cases c.head with
  | read _ _ _ => exact ⟨_, _, rfl⟩
  | create _ => exact ⟨_, _, rfl⟩
  | project p => exact ⟨_, _, rfl⟩

end Clauses

end Store

/-! ### Writing clauses -/

/-- A line is not empty. -/
theorem Line.shown_ne_empty (e : Environment) (l : Line) : l.shown e ≠ "" := by
  intro empty
  have length := congrArg String.length empty
  simp [Line.shown] at length

/-- What begins with a word of the query is answered as a text. -/
theorem Template.value_of_text (word : String) (rest : Template) (e : Environment) :
    (Template.render (.text word :: rest) e).value =
      .text (Template.render (.text word :: rest) e).text := rfl

/-- What is a text is accepted as a key. -/
theorem Environment.Worded.keyIssues_eq {e : Environment} (worded : e.Worded Wording.IsText)
    (view : ObjectView) : Store.keyIssues view e.params = [] := by
  refine List.filterMap_eq_nil_iff.mpr fun entry mem => ?_
  obtain ⟨a, allocated, made⟩ := List.mem_filterMap.mp mem
  obtain ⟨v, -, rfl⟩ := Option.map_eq_some_iff.mp made
  obtain ⟨name, word⟩ := (worded.names a allocated).exists_word
  have text : (a.name.handed e.mark).text? = some name := by rw [Wording.handed_text?, word]
  simp only [acceptText_of_text? text]

/-- An environment of texts remains one while a template is filled. -/
theorem Environment.IsTextual.render {e : Environment} {sep : String} (textual : e.IsTextual sep)
    (t : Template) : (t.render e).pen.env.IsTextual sep where
  worded := by
    change (Template.fill ⟨e, []⟩ t).pen.env.Worded Wording.IsText
    exact Template.fill_worded numbered_isText textual.worded fun segment _ =>
      segment.suggests_of_forall Wording.isText_ofName
  separator_eq := (Template.fill_extends ⟨e, []⟩ t).separator_eq.trans textual.separator_eq

namespace Store

/-- The environment of a build in which no field is given is one of texts. -/
theorem freshEnvironment_isTextual (s : Store) : (s.freshEnvironment .defaults).IsTextual "\n" :=
  ⟨Environment.worded_blank (fun kind => by cases kind <;> rfl) _ _, rfl⟩

variable {s : Store} {h : Nat} {sep : String}

/-- An object is written just in case nothing in it is stuck, and then its text is what its template
shows under the names that are known in the end. -/
theorem write_shown {e : Environment} (textual : e.IsTextual sep) :
    ((s.write h e).fault? = none ↔ (s.tree h).isWhole = true) ∧
      ((s.tree h).isWhole = true →
        (s.write h e).text = (s.template h).shown (s.write h e).pen.env) := by
  have sound : (s.template h).isSound = (s.tree h).isWhole := (s.tree h).isSound_template
  have shown : (s.tree h).isWhole = true → (s.write h e).fault? = none ∧
      ∀ e', (s.write h e).pen.env.Extends e' → (s.write h e).text = (s.template h).shown e' := by
    intro whole
    have noFault : ∀ f, .fault f ∉ s.template h := by
      rw [← Template.isSound_iff, sound, whole]
    change (Template.fill ⟨e, []⟩ (s.template h)).fault? = none ∧ _
    exact Template.fill_shown textual (fun _ mem => absurd mem List.not_mem_nil) noFault
  refine ⟨⟨fun ok => ?_, fun whole => (shown whole).1⟩, fun whole => (shown whole).2 _ (.refl _)⟩
  rw [← sound, Template.isSound_iff]
  change (Template.fill ⟨e, []⟩ (s.template h)).fault? = none at ok
  exact Template.not_mem_of_fill_ok ok

section Clauses

variable {c : Clause} (unassigned : s.assignments = []) (found : s.get? h = some (.clause c))
include unassigned found

/-- A clause of which nothing is stuck is answered the text of its lines. -/
theorem write_lines {e : Environment} (textual : e.IsTextual sep)
    (whole : (s.tree h).isWhole = true) :
    (s.write h e).value =
      .text (sep.intercalate ((s.tree h).lines.map (Line.shown (s.write h e).pen.env))) := by
  have text := (write_shown textual).2 whole
  have tree := tree_of_clause unassigned found
  obtain ⟨isClause, areFragments⟩ : (s.tree h).lines ≠ [] ∧
      ∀ u ∈ (s.tree h).parts, u.fragmentLines ≠ [] := by
    rw [tree]
    exact clauseTree_lines
  obtain ⟨word, rest, begins⟩ : ∃ word rest, (s.tree h).template = .text word :: rest := by
    rw [tree]
    exact exists_clauseTree_template
  have textual : (s.write h e).pen.env.IsTextual sep := textual.render (s.template h)
  rw [template, Tree.shown_lines textual isClause areFragments] at text
  rw [← text, write, template, begins]
  exact Template.value_of_text word rest e

/-- A clause compiles to the text of its lines, just in case nothing in it is stuck. -/
theorem compile_lines {settings : Settings}
    (textual : (s.freshEnvironment settings).IsTextual sep) :
    (s.compile settings h).result.toOption.map CompiledQuery.text =
      if (s.tree h).isWhole then some (sep.intercalate ((s.tree h).lines.map
        (Line.shown (s.write h (s.freshEnvironment settings)).pen.env))) else none := by
  have ok := (write_shown (s := s) (h := h) textual).1
  cases whole : (s.tree h).isWhole with
  | false =>
    rw [whole] at ok
    cases fault : (s.write h (s.freshEnvironment settings)).fault? with
    | none => cases ok.mp fault
    | some f =>
      simp only [compile, fault]
      rfl
  | true =>
    have value := write_lines unassigned found textual whole
    have keys := (textual.render (s.template h)).worded.keyIssues_eq s.view
    rw [← write] at keys
    simp only [compile, ok.mpr whole, query, value, keys]
    rfl

end Clauses

end Store

/-- Whatever has been called, a clause that the library has assembled is grammatical. Where all
names are texts it is written just in case nothing in it is stuck, and then its text is that of its
lines with the separator between them. The same text is compiled. -/
theorem keywords_follow_grammar {s : Store} (assembled : s.Assembled) {h : Nat} {c : Clause}
    (found : s.get? h = some (.clause c)) :
    let t := s.tree h
    t.Grammatical c.head.grammar ∧
    (∀ (e : Environment) (sep : String), e.IsTextual sep →
      let w := s.write h e
      (∀ l ∈ t.lines, l.shown w.pen.env ≠ "") ∧
      (w.fault? = none ↔ t.isWhole = true) ∧
      (t.isWhole = true →
        w.answer = .ok (.text (sep.intercalate (t.lines.map (Line.shown w.pen.env)))))) ∧
    ∀ (settings : Settings) (sep : String), (s.freshEnvironment settings).IsTextual sep →
      let w := s.write h (s.freshEnvironment settings)
      (s.compile settings h).result.toOption.map CompiledQuery.text =
        if t.isWhole then some (sep.intercalate (t.lines.map (Line.shown w.pen.env)))
        else none := by
  intro t
  have unassigned := assembled.sound.unassigned
  have tree := Store.tree_of_clause unassigned found
  refine ⟨?_, fun e sep textual => ?_, fun settings sep textual =>
    Store.compile_lines unassigned found textual⟩
  · rw [show t = _ from tree]
    exact Store.clauseTree_grammatical (Store.isStarred_treeWithin assembled.sound _ _)
      (assembled.proper found)
  · intro w
    have ok : w.fault? = none ↔ t.isWhole = true := (Store.write_shown textual).1
    refine ⟨fun l _ => l.shown_ne_empty _, ok, fun whole => ?_⟩
    rw [Writing.answer, ok.mpr whole]
    exact congrArg Except.ok (Store.write_lines unassigned found textual whole)

/-- The rows of a clause that returns nothing yet cannot be limited; once there is something to
return they can, and a filter that comes last is written first all the same. -/
theorem keywords_follow_grammar_limit :
    let calls : List Construction := [.node .null none, .read false (.bool false) [.object 0],
      .build 2 (.limit (.int 5)), .build 2 (.project .returning [.object 0] (.bool false)),
      .build 2 (.limit (.int 5)), .build 2 (.restrict (.object 0))]
    let s := Store.empty.called calls
    keywords (s.tree 2).lines = ["MATCH", "WHERE", "RETURN", "LIMIT"] ∧
    (∃ c, s.get? 2 = some (.clause c) ∧ Allowed c.head.grammar (keywords (s.tree 2).lines)) ∧
    (s.compile .defaults 2).result.toOption.map CompiledQuery.text =
      some "MATCH (this0)\nWHERE this0\nRETURN this0\nLIMIT $param1" ∧
    "MATCH (this0)\nWHERE this0\nRETURN this0\nLIMIT $param1" =
      String.intercalate "\n" ((s.tree 2).lines.map
        (Line.shown (s.write 2 (s.freshEnvironment .defaults)).pen.env)) := by
  intro calls s
  have exported : Store.empty.ExportedInTurn calls :=
    .plain trivial rfl <| .plain trivial rfl <| .plain trivial rfl <| .plain trivial rfl <|
    .plain trivial rfl <| .plain trivial rfl <| .nil
  have assembled : s.Assembled := Store.Assembled.empty.called exported
  have textual : (s.freshEnvironment .defaults).IsTextual "\n" := s.freshEnvironment_isTextual
  have lines : keywords (s.tree 2).lines = ["MATCH", "WHERE", "RETURN", "LIMIT"] := by
    decide +kernel
  have whole : (s.tree 2).isWhole = true := by decide +kernel
  have text : (s.compile .defaults 2).result.toOption.map CompiledQuery.text =
      some "MATCH (this0)\nWHERE this0\nRETURN this0\nLIMIT $param1" := by decide +kernel
  have isClause : (s.get? 2).any Object.isClause = true := by decide +kernel
  -- From here on it does not matter what is in the store.
  clear_value s
  cases found : s.get? 2 with
  | none =>
    rw [found] at isClause
    cases isClause
  | some o =>
    cases o with
    | clause c =>
      obtain ⟨grammatical, -, compiled⟩ := keywords_follow_grammar assembled found
      have compiled := compiled .defaults "\n" textual
      dsimp only at compiled
      rw [if_pos whole, text] at compiled
      exact ⟨lines, ⟨c, rfl, grammatical.keywords⟩, text, Option.some.inj compiled⟩
    | _ =>
      rw [found] at isClause
      cases isClause

end GraphQuery
