import GraphQuery.Proofs.Assembly.Sources
import GraphQuery.Proofs.Compile.Query

/-!
Unions are statements with another word between their parts.

The branches of a union are written one after another, like the parts of a statement, and they ask
for the same names in the same order. So a union leaves the environment that a statement of its
branches leaves, and once all names are known, each branch has the text that it has on its own.
Whether duplicate rows are kept shows in nothing but the keyword between the branches.

* `Store.called_keepDuplicates`: what becomes of a union that is told to keep duplicates.
* `Store.Assembled.write_union`: what is written of a union.
* `unions_join_branches`: a union next to the statement of its branches, and next to itself with the
  other keyword.
-/

namespace GraphQuery

open GraphQuery.Assembly

namespace Store

variable {R : Value → Value → Prop} {s : Store} {h : Nat} {branches : List Nat} {all : Value}

/-! ### Keeping duplicates -/

/-- A union that is told whether to keep duplicates has the same branches as before. -/
theorem called_keepDuplicates (found : s.get? h = some (.union branches all)) (all' : Value) :
    s.called [.keepDuplicates h all'] = s.replace h (.union branches all') :=
  congrArg Prod.snd (outcome_keepDuplicates found all')

/-- Another keyword does not change the trees of the branches. -/
theorem tree_of_keepDuplicates (like : s.Alike R s) (typed : s.Typed False) {all' : Value}
    (like' : (s.replace h (.union branches all')).Alike R (s.replace h (.union branches all')))
    (found : s.get? h = some (.union branches all)) (whole : (s.tree h).isWhole = true) :
    ∀ g ∈ branches, (s.replace h (.union branches all')).tree g = s.tree g := by
  intro g mem
  have inside := isWhole_inside_union like found whole g mem
  have others : ∀ i, i ≠ h → (s.replace h (.union branches all')).get? i = s.get? i :=
    fun i ne => get?_replace_of_ne s (Ne.symm ne) _
  exact (tree_of_replaced (.replace found .union) (next_replace s h _) like typed like' others
    inside).1

/-! ### Writing unions -/

namespace Assembled

variable {e : Environment} {sep : String} (assembled : s.Assembled) (textual : e.IsTextual sep)
include assembled

/-- The branches of a union are queries. -/
theorem isQuery_branch (found : s.get? h = some (.union branches all)) :
    ∀ g ∈ branches, s.IsQuery g := by
  have typed : 2 ≤ branches.length ∧ ∀ g ∈ branches, s.IsQuery g := assembled.typed.objects found
  exact typed.2

include textual

/-- A union asks for the names of its branches, one branch after another. Once they are known, each
branch is written as it is on its own, and the union is written as its branches with its keyword
between them. -/
theorem write_union (found : s.get? h = some (.union branches all))
    (whole : (s.tree h).isWhole = true) :
    let e' := (s.write h e).pen.env
    e' = e.after (branches.flatMap fun g => (s.template g).asks) ∧
    (∀ g ∈ branches, (s.write g e').answer = .ok (.text ((s.template g).shown e')) ∧
      (s.write g e').pen.env = e') ∧
    (s.write h e).answer = .ok (.text ((sep ++ s.unionKeyword all ++ sep).intercalate
      (branches.map fun g => (s.template g).shown e'))) := by
  intro e'
  have queries := isQuery_trees assembled.typed (assembled.isQuery_branch found)
    ((isWhole_union_iff assembled.sound found).mp whole)
  have tree := (union_coincides assembled.sound found).eq whole
  have asks : (s.template h).asks = branches.flatMap fun g => (s.template g).asks := by
    rw [template, ← tree, Tree.asks_union _ queries, List.flatMap_map]
    rfl
  have env : e' = e.after (branches.flatMap fun g => (s.template g).asks) := by
    rw [← asks]
    exact assembled.write_after textual whole
  have later : e'.IsTextual sep := textual.render (s.template h)
  refine ⟨env, fun g mem => ?_, ?_⟩
  · have known : e'.Answers (s.template g).asks := by
      intro a asked
      rw [env]
      exact textual.worded.answers_after _ a (List.mem_flatMap.mpr ⟨g, mem, asked⟩)
    exact assembled.write_known later (assembled.isQuery_branch found g mem)
      ((isWhole_union_iff assembled.sound found).mp whole g mem) known
  · have shown : (s.template h).shown e' = (sep ++ s.unionKeyword all ++ sep).intercalate
        (branches.map fun g => (s.template g).shown e') := by
      rw [template, ← tree, Tree.shown_union later _ queries, List.map_map]
      rfl
    rw [← shown]
    exact assembled.write_query textual ⟨_, found, rfl⟩ whole

end Assembled

end Store

/-- A union is compiled like the statement of its branches, and differs in what stands between them
only.

Rendering a union of documented calls that does not contain itself never fails. Whenever it
succeeds, it leaves the environment that rendering the statement of the same branches leaves; its
text is that of its branches in their order, with the keyword between two separators between them,
where each branch has the text that it has when it is rendered alone in the environment of the end,
which it leaves as it is. A union that is told whether to keep duplicates leaves the same
environment, and so the same labels, keys and parameters, and has the same texts of branches with
the other keyword between them. -/
theorem unions_join_branches {s : Store} (assembled : s.Assembled) {h h' : Nat}
    {branches : List Nat} {all : Value} (union : s.get? h = some (.union branches all))
    (statement : s.get? h' = some (.statement branches)) {e : Environment} {sep : String}
    (textual : e.IsTextual sep) :
    (s.Conforming → s.IsAcyclic h → (s.write h e).fault? = none) ∧
    ((s.write h e).fault? = none →
      let e' := (s.write h e).pen.env
      (s.write h' e).fault? = none ∧ (s.write h' e).pen.env = e' ∧
      ∃ texts : List String,
        List.Forall₂ (fun g text => (s.write g e').answer = .ok (.text text) ∧
          (s.write g e').pen.env = e') branches texts ∧
        (s.write h e).answer =
          .ok (.text ((sep ++ s.unionKeyword all ++ sep).intercalate texts)) ∧
        ∀ all', (Construction.keepDuplicates h all').Exported s →
          let s' := s.called [.keepDuplicates h all']
          (s'.write h e).pen.env = e' ∧
          List.Forall₂ (fun g text => (s'.write g e').answer = .ok (.text text)) branches texts ∧
          (s'.write h e).answer =
            .ok (.text ((sep ++ s'.unionKeyword all' ++ sep).intercalate texts))) := by
  constructor
  · intro conforming acyclic
    exact (Store.write_shown textual).1.mpr (conforming.isWhole ⟨_, union, rfl⟩ acyclic)
  intro ok e'
  have whole : (s.tree h).isWhole = true := (Store.write_shown textual).1.mp ok
  have whole' : (s.tree h').isWhole = true := by
    rw [Store.isWhole_statement_iff assembled.sound statement]
    exact (Store.isWhole_union_iff assembled.sound union).mp whole
  obtain ⟨env, alone, answer⟩ := assembled.write_union textual union whole
  refine ⟨(Store.write_shown textual).1.mpr whole', ?_,
    branches.map fun g => (s.template g).shown e', ?_, answer, fun all' exported => ?_⟩
  · rw [assembled.write_statement textual statement whole']
    exact env.symm
  · rw [List.forall₂_map_right_iff, List.forall₂_same]
    exact alone
  -- The other keyword leaves the branches alone, so all that was found of them is found again.
  intro s'
  have called : s' = s.replace h (.union branches all') := Store.called_keepDuplicates union all'
  have assembled' : s'.Assembled := assembled.called (.cons exported .nil)
  have union' : s'.get? h = some (.union branches all') := by
    rw [called]
    exact Store.get?_replace_self (Store.lt_of_get? union) _
  have trees : ∀ g ∈ branches, s'.tree g = s.tree g := by
    have like' := assembled'.sound
    rw [called] at like' ⊢
    exact Store.tree_of_keepDuplicates assembled.sound assembled.typed like' union whole
  have whole' : (s'.tree h).isWhole = true := by
    rw [Store.isWhole_union_iff assembled'.sound union']
    intro g mem
    rw [trees g mem]
    exact (Store.isWhole_union_iff assembled.sound union).mp whole g mem
  obtain ⟨env', alone', answer'⟩ := assembled'.write_union textual union' whole'
  have templates : ∀ g ∈ branches, s'.template g = s.template g :=
    fun g mem => congrArg Tree.template (trees g mem)
  have same : (s'.write h e).pen.env = e' := by
    refine env'.trans (Eq.trans ?_ env.symm)
    exact congrArg e.after (List.flatMap_congr fun g mem => congrArg _ (templates g mem))
  have texts : (branches.map fun g => (s'.template g).shown e') =
      branches.map fun g => (s.template g).shown e' :=
    List.map_congr_left fun g mem => by rw [templates g mem]
  refine ⟨same, ?_, ?_⟩
  · rw [← texts, List.forall₂_map_right_iff, List.forall₂_same]
    intro g mem
    rw [same] at alone'
    exact (alone' g mem).1
  · rw [same] at answer'
    rw [← texts]
    exact answer'

/-- A clause with a parameter is united with itself: both branches show the one key. -/
theorem unions_join_branches_repeated :
    let calls : List Construction := [.node .null none, .read false (.bool false) [.object 0],
      .build 2 (.project .returning [.object 0] (.bool false)), .build 2 (.limit (.int 3)),
      .union [.object 2, .object 2], .statement [.object 2, .object 2]]
    let s := Store.empty.called calls
    let e := s.freshEnvironment .defaults
    let e' := (s.write 4 e).pen.env
    (s.write 4 e).text = "MATCH (this0)\nRETURN this0\nLIMIT $param1\nUNION\n" ++
      "MATCH (this0)\nRETURN this0\nLIMIT $param1" ∧
    (s.write 5 e).pen.env = e' ∧
    ∃ texts : List String,
      List.Forall₂ (fun g text => (s.write g e').answer = .ok (.text text) ∧
        (s.write g e').pen.env = e') [2, 2] texts ∧
      (s.write 4 e).answer =
        .ok (.text (("\n" ++ s.unionKeyword (.bool false) ++ "\n").intercalate texts)) := by
  intro calls s e
  have exported : Store.empty.ExportedInTurn calls :=
    .plain trivial rfl <| .plain trivial rfl <| .plain trivial rfl <| .plain trivial rfl <|
    .plain trivial rfl <| .plain trivial rfl <| .nil
  have assembled : s.Assembled := Store.Assembled.empty.called exported
  have textual : e.IsTextual "\n" := s.freshEnvironment_isTextual
  have union : s.get? 4 = some (.union [2, 2] (.bool false)) := rfl
  have statement : s.get? 5 = some (.statement [2, 2]) := rfl
  have ok : (s.write 4 e).fault? = none := Option.isNone_iff_eq_none.mp (by decide +kernel)
  have text : (s.write 4 e).text = "MATCH (this0)\nRETURN this0\nLIMIT $param1\nUNION\n" ++
      "MATCH (this0)\nRETURN this0\nLIMIT $param1" := by
    decide +kernel
  -- From here on it does not matter what is in the store.
  clear_value s
  obtain ⟨-, same, texts, alone, answer, -⟩ :=
    (unions_join_branches assembled union statement textual).2 ok
  exact ⟨text, same, texts, alone, answer⟩

end GraphQuery
