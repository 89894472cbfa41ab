import GraphQuery.Proofs.Compile.Unions
import GraphQuery.Proofs.Store.Nesting

/-!
What joins the branches of a union, and what it joins.

A union takes whatever a statement takes, so another union can be a branch of it or be nested in
one. The text then shows the keywords of both, one next to the other, and they need not be the same.
A branch can also be a statement without clauses, which a union does not leave out: its keyword then
joins nothing to the other branches.

* `outcome_union`, `fit_of_union`: what a union takes.
* `union_keywords_agree_iff`: which keywords a union shows, and when they are one.
* `union_joins_texts_iff`: which branches of a union have no text, and when all of its keywords and
  separators stand between clauses.
-/

namespace GraphQuery

open Assembly

/-! ### What a union takes -/

section Taking

variable {s : Store}

/-- Queries are taken one after another. -/
theorem outcome_compilables {gs : List Nat} (queries : ∀ g ∈ gs, s.IsQuery g) :
    outcome ((gs.map Value.object).mapM compilable).run s = (.ok gs, s) := by
  induction gs with
  | nil => rfl
  | cons g gs ih =>
    obtain ⟨first, queries⟩ := List.forall_mem_cons.mp queries
    rw [List.map_cons, List.mapM_cons, outcome_bind_of_ok (outcome_compilable first),
      outcome_bind_of_ok (ih queries)]
    rfl

/-- What is no query is not taken. -/
theorem fails_compilables {vs : List Value} {v : Value} (mem : v ∈ vs)
    (absent : ∀ g, v = .object g → ¬ s.IsQuery g) : Fails s (vs.mapM compilable) := by
  induction vs with
  | nil => cases mem
  | cons w vs ih =>
    rw [List.mapM_cons]
    by_cases isQuery : ∃ g, w = .object g ∧ s.IsQuery g
    · obtain ⟨g, rfl, query⟩ := isQuery
      have other : v ∈ vs := by
        refine (List.mem_cons.mp mem).resolve_left fun eq => ?_
        exact absent g eq query
      exact .after_ok (outcome_compilable query) ((ih other).bind _)
    · exact (fails_compilable fun g eq query => isQuery ⟨g, eq, query⟩).bind _

/-- A union is made of two or more queries. -/
theorem outcome_union {gs : List Nat} (several : 2 ≤ gs.length) (queries : ∀ g ∈ gs, s.IsQuery g) :
    outcome (union (gs.map .object)).run s =
      (.ok (.object s.next), s.push (.union gs (.bool false))) := by
  have enough : ¬ (gs.map Value.object).length < 2 := by
    rw [List.length_map]
    omega
  unfold union
  rw [if_neg enough]
  exact outcome_bind_of_ok (outcome_compilables queries)

/-- It is made of nothing else. -/
theorem fit_of_union {vs : List Value} {v : Value}
    (made : (outcome (union vs).run s).1 = .ok v) :
    2 ≤ vs.length ∧ ∀ v ∈ vs, ∃ g, v = .object g ∧ s.IsQuery g := by
  by_contra unfit
  have fails : Fails s (union vs) := by
    unfold union
    dsimp only
    split
    · exact .bind (.refuse s _) _
    · push Not at unfit
      obtain ⟨v, mem, absent⟩ := unfit (by omega)
      exact (fails_compilables mem absent).bind _
  obtain ⟨f, failed⟩ := fails
  rw [failed] at made
  cases made

end Taking

/-! ### What a union shows -/

section Showing

variable {s : Store} (assembled : s.Assembled) {h : Nat} {branches : List Nat} {all : Value}
  (found : s.get? h = some (.union branches all)) {e : Environment} {sep : String}
  (textual : e.IsTextual sep) (ok : (s.write h e).fault? = none)
include assembled found textual ok

/-- What is written of a union is the text of its strands under the names that are known in the
end. -/
theorem answer_union : (s.write h e).answer =
    .ok (.text (Strand.text (s.write h e).pen.env sep (s.tree h).strands)) := by
  have query : s.IsQuery h := ⟨_, found, rfl⟩
  have whole : (s.tree h).isWhole = true := (Store.write_shown textual).1.mp ok
  have later : (s.write h e).pen.env.IsTextual sep := textual.render (s.template h)
  rw [assembled.write_query textual query whole, assembled.shown_strands query whole later]

end Showing

/-- A union takes two or more of whatever is a query, and so it takes unions. What it shows are its
strands, and the keywords among them are those of all unions in it, however deep they are nested. So
it shows its own keyword alone just in case all unions that are nested in its branches have the same
one. -/
theorem union_keywords_agree_iff {s : Store} (assembled : s.Assembled) :
    (∀ gs : List Nat, 2 ≤ gs.length → (∀ g ∈ gs, s.IsQuery g) →
      outcome (Construction.union (gs.map .object)).perform.run s =
        (.ok (.object s.next), s.push (.union gs (.bool false)))) ∧
    (∀ vs v, (outcome (Construction.union vs).perform.run s).1 = .ok v →
      2 ≤ vs.length ∧ ∀ v ∈ vs, ∃ g, v = .object g ∧ s.IsQuery g) ∧
    ∀ h branches all, s.get? h = some (.union branches all) → ∀ e sep, e.IsTextual sep →
      (s.write h e).fault? = none →
      let strands := (s.tree h).strands
      (s.write h e).answer = .ok (.text (Strand.text (s.write h e).pen.env sep strands)) ∧
      (∀ word, .keyword word ∈ strands ↔ s.HasUnion h word) ∧
      ((∀ word, .keyword word ∈ strands → word = s.unionKeyword all) ↔
        ∀ g ∈ branches, ∀ word, s.HasUnion g word → word = s.unionKeyword all) := by
  refine ⟨fun gs several queries => outcome_union several queries, fun vs v made =>
    fit_of_union made, fun h branches all found e sep textual ok => ?_⟩
  have query : s.IsQuery h := ⟨_, found, rfl⟩
  have whole : (s.tree h).isWhole = true := (Store.write_shown textual).1.mp ok
  have keywords : ∀ word, .keyword word ∈ (s.tree h).strands ↔ s.HasUnion h word :=
    fun _ => assembled.keyword_mem_strands_iff query whole
  have own : ∀ word, s.HasUnion h word ↔
      word = s.unionKeyword all ∨ ∃ g ∈ branches, s.HasUnion g word := by
    intro word
    rw [Store.hasUnion_iff fun g => Store.nests_union_iff found]
    simp [found, eq_comm]
  refine ⟨answer_union assembled found textual ok, keywords, ?_⟩
  simp only [keywords, own]
  constructor
  · intro agree g mem word inside
    exact agree word (.inr ⟨g, mem, inside⟩)
  · rintro agree word (rfl | ⟨g, mem, inside⟩)
    · rfl
    · exact agree g mem word inside

/-- A union that keeps duplicates stands in a statement, and the statement in a union that does
not. -/
theorem union_keywords_agree_iff_nested :
    let calls : List Construction := [.node .null none, .read false (.bool false) [.object 0],
      .union [.object 2, .object 2], .keepDuplicates 3 (.bool true), .statement [.object 3],
      .union [.object 4, .object 2]]
    let s := Store.empty.called calls
    let e := s.freshEnvironment .defaults
    s.Assembled ∧ s.get? 5 = some (.union [4, 2] (.bool false)) ∧ e.IsTextual "\n" ∧
    (s.write 5 e).fault? = none ∧ .keyword "UNION" ∈ (s.tree 5).strands ∧
    .keyword "UNION ALL" ∈ (s.tree 5).strands ∧
    outcome (Construction.union ([5, 5].map .object)).perform.run s =
      (.ok (.object s.next), s.push (.union [5, 5] (.bool false))) := by
  intro calls s e
  have exported : Store.empty.ExportedInTurn calls :=
    .plain trivial rfl <| .plain trivial rfl <| .plain trivial rfl <| .plain trivial rfl <|
    .plain trivial rfl <| .plain trivial rfl <| .nil
  have assembled : s.Assembled := Store.Assembled.empty.called exported
  have textual : e.IsTextual "\n" := s.freshEnvironment_isTextual
  have outer : s.get? 5 = some (.union [4, 2] (.bool false)) := rfl
  have statement : s.get? 4 = some (.statement [3]) := rfl
  have inner : s.get? 3 = some (.union [2, 2] (.bool true)) := rfl
  have words : s.unionKeyword (.bool false) = "UNION" ∧ s.unionKeyword (.bool true) = "UNION ALL" :=
    ⟨rfl, rfl⟩
  have ok : (s.write 5 e).fault? = none := Option.isNone_iff_eq_none.mp (by decide +kernel)
  -- From here on it does not matter what is in the store.
  clear_value s
  have inside : Relation.ReflTransGen s.Nests 5 3 :=
    .tail (.single (.branch outer List.mem_cons_self)) (.node statement List.mem_cons_self)
  obtain ⟨takes, -, shows⟩ := union_keywords_agree_iff assembled
  obtain ⟨-, keywords, -⟩ := shows 5 _ _ outer e "\n" textual ok
  refine ⟨assembled, outer, textual, ok, ?_, ?_, ?_⟩
  · exact (keywords _).mpr ⟨5, .refl, _, _, outer, words.1⟩
  · exact (keywords _).mpr ⟨3, inside, _, _, inner, words.2⟩
  · exact takes [5, 5] (by decide) (by simp [Store.IsQuery, outer, Object.isQuery])

/-- A union that keeps duplicates is a branch of one that does not. The text shows both keywords. -/
theorem keywords_mixed :
    let calls : List Construction := [.node .null none, .read false (.bool false) [.object 0],
      .union [.object 2, .object 2], .keepDuplicates 3 (.bool true), .union [.object 3, .object 2]]
    let s := Store.empty.called calls
    s.get? 4 = some (.union [3, 2] (.bool false)) ∧
    s.get? 3 = some (.union [2, 2] (.bool true)) ∧
    (s.compile .defaults 4).result.toOption.map CompiledQuery.text =
      some "MATCH (this0)\nUNION ALL\nMATCH (this0)\nUNION\nMATCH (this0)" :=
  ⟨rfl, rfl, by decide +kernel⟩

/-! ### What the joints of a union stand between -/

/-- A branch of a union has no text just in case there is nothing but statements in it, and the
union writes its keyword all the same. What the union shows are its strands. Clauses always have a
text. So there are clauses at both ends of the text, and one of them on either side of whatever
joins them, just in case no union in it, however deep it is nested, has a branch that is nothing but
statements. -/
theorem union_joins_texts_iff {s : Store} (assembled : s.Assembled) {h : Nat} {branches : List Nat}
    {all : Value} (found : s.get? h = some (.union branches all)) {e : Environment} {sep : String}
    (textual : e.IsTextual sep) (ok : (s.write h e).fault? = none) :
    let e' := (s.write h e).pen.env
    let strands := (s.tree h).strands
    (∃ texts : List String,
      List.Forall₂ (fun g text => (s.write g e').answer = .ok (.text text) ∧
        (text = "" ↔ s.IsHollow g)) branches texts ∧
      (s.write h e).answer =
        .ok (.text ((sep ++ s.unionKeyword all ++ sep).intercalate texts))) ∧
    (s.write h e).answer = .ok (.text (Strand.text e' sep strands)) ∧
    (∀ t, .clause t ∈ strands → t.template.shown e' ≠ "") ∧
    (Strand.alternate strands = true ↔ s.IsFilled h) := by
  intro e' strands
  have query : s.IsQuery h := ⟨_, found, rfl⟩
  have whole : (s.tree h).isWhole = true := (Store.write_shown textual).1.mp ok
  have later : e'.IsTextual sep := textual.render (s.template h)
  obtain ⟨-, alone, answer⟩ := assembled.write_union textual found whole
  refine ⟨⟨branches.map fun g => (s.template g).shown e', ?_, answer⟩,
    answer_union assembled found textual ok, fun t mem => ?_, ?_⟩
  · rw [List.forall₂_map_right_iff, List.forall₂_same]
    intro g mem
    have branch : s.IsQuery g := assembled.isQuery_branch found g mem
    have wholeBranch := (Store.isWhole_union_iff assembled.sound found).mp whole g mem
    have tree := Store.isQuery_tree assembled.typed branch wholeBranch
    refine ⟨(alone g mem).1, ?_⟩
    rw [← assembled.strands_eq_nil_iff branch wholeBranch, Tree.strands_eq_nil_iff tree]
    exact Tree.shown_eq_empty_iff later tree
  · have leaf := assembled.isLeaf_of_mem_strands query whole mem
    exact (Tree.hasWord_of_isLeaf leaf).shown_ne_empty e'
  · have some : strands ≠ [] := by
      intro empty
      obtain ⟨nodes, other⟩ := (assembled.strands_eq_nil_iff query whole).mp empty h .refl
      cases found.symm.trans other
    rw [← assembled.isNeat_iff query whole]
    exact (or_iff_right some).symm

/-- An empty statement stands in a statement, which is the first branch of a union. Another union
is of clauses only. -/
theorem union_joins_texts_iff_hollow :
    let calls : List Construction := [.node .null none, .read false (.bool false) [.object 0],
      .statement [], .statement [.object 3], .union [.object 4, .object 2],
      .union [.object 2, .object 2]]
    let s := Store.empty.called calls
    let e := s.freshEnvironment .defaults
    s.Assembled ∧ e.IsTextual "\n" ∧
    s.get? 5 = some (.union [4, 2] (.bool false)) ∧ (s.write 5 e).fault? = none ∧
    ¬ s.IsFilled 5 ∧
    s.get? 6 = some (.union [2, 2] (.bool false)) ∧ (s.write 6 e).fault? = none ∧
    s.IsFilled 6 := by
  intro calls s e
  have exported : Store.empty.ExportedInTurn calls :=
    .plain trivial rfl <| .plain trivial rfl <| .plain trivial rfl <| .plain trivial rfl <|
    .plain trivial rfl <| .plain trivial rfl <| .nil
  have assembled : s.Assembled := Store.Assembled.empty.called exported
  have textual : e.IsTextual "\n" := s.freshEnvironment_isTextual
  have uneven : s.get? 5 = some (.union [4, 2] (.bool false)) := rfl
  have even : s.get? 6 = some (.union [2, 2] (.bool false)) := rfl
  have ok : (s.write 5 e).fault? = none := Option.isNone_iff_eq_none.mp (by decide +kernel)
  have ok' : (s.write 6 e).fault? = none := Option.isNone_iff_eq_none.mp (by decide +kernel)
  have spoilt : ¬ Strand.alternate (s.tree 5).strands = true := by decide +kernel
  have alternates : Strand.alternate (s.tree 6).strands = true := by decide +kernel
  -- From here on it does not matter what is in the store.
  clear_value s
  refine ⟨assembled, textual, uneven, ok, ?_, even, ok', ?_⟩
  · exact (union_joins_texts_iff assembled uneven textual ok).2.2.2.not.mp spoilt
  · exact (union_joins_texts_iff assembled even textual ok').2.2.2.mp alternates

/-- A statement without clauses is a branch of a union: the text begins with the keyword. -/
theorem keyword_first :
    let calls : List Construction := [.node .null none, .read false (.bool false) [.object 0],
      .statement [], .union [.object 3, .object 2]]
    let s := Store.empty.called calls
    s.get? 4 = some (.union [3, 2] (.bool false)) ∧
    (s.compile .defaults 3).result.toOption.map CompiledQuery.text = some "" ∧
    (s.compile .defaults 4).result.toOption.map CompiledQuery.text =
      some "\nUNION\nMATCH (this0)" :=
  ⟨rfl, by decide +kernel, by decide +kernel⟩

end GraphQuery
