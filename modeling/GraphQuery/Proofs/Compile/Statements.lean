import GraphQuery.Proofs.Assembly.Sources
import GraphQuery.Proofs.Compile.Query
import GraphQuery.Proofs.Store.Flattening

/-!
Statements are a monoid of queries.

What a query is compiled to depends on nothing but the clauses and unions that it flattens to. So it
makes no difference how statements are nested, and an empty statement is as good as none. A
statement that gets a further node is compiled to what it was compiled to before, with the text of
the node behind it, and to further parameters behind those that were there.

* `Store.Flattens.write_eq`: queries with one flattening are written alike.
* `Store.called_append`: what becomes of a statement that gets a further node.
* `Store.freshEnvironment_of_grows`: builds begin in the same way afterwards.
* `statements_form_monoid`: what queries with one flattening are compiled to, and what a further
  node adds to it.
-/

namespace GraphQuery

open GraphQuery.Assembly

/-- A text is worded in the same way whatever objects look like. -/
theorem Wording.ofValue_eq_of_isText {view : ObjectView} (view' : ObjectView) {v : Value}
    (isText : (ofValue view v).IsText) : ofValue view' v = ofValue view v := by
  cases v with
  | atom a mark => rfl
  | object i => cases isText.1

namespace Store

variable {s : Store} {h g : Nat} {e : Environment} {sep : String}

/-! ### Queries with one flattening -/

/-- A query is written without the marks that check the separator. -/
theorem write_unchecked (textual : e.IsTextual sep) :
    (s.template h).unchecked.render e = s.write h e := by
  have separator : (Pen.mk e []).env.separator.IsText := by
    change e.separator.IsText
    rw [textual.separator_eq]
    trivial
  exact Template.fill_unchecked separator (s.template h)

/-- Queries that flatten to the same clauses and unions are written alike. -/
theorem Flattens.write_eq (assembled : s.Assembled) (textual : e.IsTextual sep)
    {h' : Nat} {leaves : List Nat} (flat : s.Flattens [h] leaves) (flat' : s.Flattens [h'] leaves)
    (ok : (s.write h e).fault? = none) : s.write h' e = s.write h e := by
  have template : ∀ {i : Nat}, s.Flattens [i] leaves → (s.tree i).isWhole = true →
      (s.template i).unchecked =
        Template.join [.joint] ((leaves.map s.tree).map fun l => l.template.unchecked) := by
    intro i flat whole
    have query := flat.isQuery i (List.mem_singleton_self i)
    have leaves_eq := flat.leaves_eq assembled.sound (List.forall_mem_singleton.mpr whole)
    rw [← leaves_eq, List.map_singleton, List.flatMap_singleton]
    exact Tree.unchecked_template (isQuery_tree assembled.typed query whole)
  have whole : (s.tree h).isWhole = true := (write_shown textual).1.mp ok
  have whole' : (s.tree h').isWhole = true := by
    have all := (flat.isWhole_iff assembled.sound).mp (List.forall_mem_singleton.mpr whole)
    exact (flat'.isWhole_iff assembled.sound).mpr all h' (List.mem_singleton_self h')
  rw [← write_unchecked textual, ← write_unchecked textual, template flat whole,
    template flat' whole']

/-! ### A further node -/

/-- A statement gets a further node. -/
theorem called_append (unassigned : s.assignments = []) {nodes : List Nat}
    (found : s.get? h = some (.statement nodes)) (query : s.IsQuery g) :
    s.called [.append h (.object g)] = s.replace h (.statement (nodes ++ [g])) := by
  have run : outcome (Assembly.append h (.object g)).run s =
      (.ok (.object h), s.replace h (.statement (nodes ++ [g]))) :=
    (outcome_append unassigned found _).trans (outcome_bind_of_ok (outcome_compilable query))
  exact congrArg Prod.snd run

/-- Builds begin in the same way in a store that has grown and has not got more objects. -/
theorem freshEnvironment_of_grows {s' : Store} (grows : s.Grows s') (next_eq : s'.next = s.next)
    {settings : Settings} (textual : (s.freshEnvironment settings).IsTextual sep) :
    s'.freshEnvironment settings = s.freshEnvironment settings := by
  have separator : (s.freshEnvironment settings).separator.IsText := by
    rw [textual.separator_eq]
    trivial
  unfold freshEnvironment Naming.environment at textual separator ⊢
  simp only [Environment.mk.injEq]
  refine ⟨rfl, funext fun kind => ?_, truth_eq_of_next_eq grows next_eq _, ?_⟩
  · exact Wording.ofValue_eq_of_isText s'.view (textual.worded.stems kind)
  · exact Wording.ofValue_eq_of_isText s'.view separator

/-- What is appended to a statement, and what was in it before, keeps its tree if nothing is stuck
in the longer statement. -/
theorem tree_of_append {R : Value → Value → Prop} (like : s.Alike R s) (typed : s.Typed False)
    {nodes : List Nat} (found : s.get? h = some (.statement nodes))
    (like' : (s.replace h (.statement (nodes ++ [g]))).Alike R
      (s.replace h (.statement (nodes ++ [g]))))
    (whole : ((s.replace h (.statement (nodes ++ [g]))).tree h).isWhole = true) :
    ∀ i ∈ nodes ++ [g], (s.replace h (.statement (nodes ++ [g]))).tree i = s.tree i ∧
      (s.tree i).isWhole = true := by
  intro i mem
  have grows : s.Grows (s.replace h (.statement (nodes ++ [g]))) := .replace found .statement
  have next_eq := next_replace s h (.statement (nodes ++ [g]))
  have others : ∀ i, i ≠ h → (s.replace h (.statement (nodes ++ [g]))).get? i = s.get? i :=
    fun i ne => get?_replace_of_ne s (Ne.symm ne) _
  have found' := get?_replace_self (lt_of_get? found) (.statement (nodes ++ [g]))
  have inside := isWhole_inside_statement like' found' whole i mem
  rw [next_eq, treeFrom_of_replaced grows like typed like'.unassigned others] at inside
  exact tree_of_replaced grows next_eq like typed like' others inside

/-- A statement with a further node asks for the names that it has asked for and then for those of
the node, and the text of the node comes behind what was shown before. -/
theorem Assembled.write_append (assembled : s.Assembled) (textual : e.IsTextual sep)
    {nodes : List Nat} (found : s.get? h = some (.statement nodes)) (query : s.IsQuery g)
    (assembled' : (s.replace h (.statement (nodes ++ [g]))).Assembled)
    (whole : ((s.replace h (.statement (nodes ++ [g]))).tree h).isWhole = true) :
    let s' := s.replace h (.statement (nodes ++ [g]))
    let e' := (s'.write h e).pen.env
    (s.tree h).isWhole = true ∧ (s.tree g).isWhole = true ∧
    (s.write g (s.write h e).pen.env).pen.env = e' ∧
    (s'.template h).shown e' =
      Text.separated sep ((s.template h).shown (s.write h e).pen.env)
        ((s.template g).shown e') := by
  intro s' e'
  have trees := tree_of_append assembled.sound assembled.typed found assembled'.sound whole
  have found' : s'.get? h = some (.statement (nodes ++ [g])) :=
    get?_replace_self (lt_of_get? found) _
  obtain ⟨nodes_trees, g_tree⟩ := List.forall_mem_append.mp trees
  obtain ⟨g_eq, g_whole⟩ := List.forall_mem_singleton.mp g_tree
  have h_whole : (s.tree h).isWhole = true :=
    (isWhole_statement_iff assembled.sound found).mpr fun i mem => (nodes_trees i mem).2
  have areQueries : ∀ i ∈ nodes, s.IsQuery i := assembled.typed.objects found
  have queries := isQuery_trees assembled.typed areQueries fun i mem => (nodes_trees i mem).2
  have g_query : (s.tree g).isQuery = true := isQuery_tree assembled.typed query g_whole
  have before : (s.write h e).pen.env.IsTextual sep := textual.render (s.template h)
  have env : (s.write g (s.write h e).pen.env).pen.env = e' := by
    have templates : ∀ i ∈ nodes ++ [g], (s'.template i).asks = (s.template i).asks :=
      fun i mem => congrArg (fun t => t.template.asks) (trees i mem).1
    have longer : e' = e.after ((nodes ++ [g]).flatMap fun i => (s'.template i).asks) :=
      assembled'.write_statement textual found' whole
    rw [assembled.write_after before g_whole, assembled.write_statement textual found h_whole,
      longer, List.flatMap_congr templates, List.flatMap_append, List.flatMap_singleton,
      Environment.after_append]
  have ext : (s.write h e).pen.env.Extends e' := by
    rw [← env]
    exact s.write_extends g _
  refine ⟨h_whole, g_whole, env, ?_⟩
  have later : e'.IsTextual sep := textual.render (s'.template h)
  have tree : s.tree h = .statement (nodes.map s.tree) :=
    ((statement_coincides assembled.sound found).eq h_whole).symm
  have tree' : s'.tree h = .statement (nodes.map s.tree ++ [s.tree g]) := by
    rw [← (statement_coincides assembled'.sound found').eq whole, List.map_append]
    congr 2
    · exact List.map_congr_left fun i mem => (nodes_trees i mem).1
    · exact congrArg (fun t => [t]) g_eq
  -- What was shown before is shown in the same way once the names of the node are known.
  rw [← shown_later textual ((write_shown textual).1.mpr h_whole) ext, template, template, template,
    tree, tree']
  exact Tree.shown_statement_append later queries g_query

end Store

/-! ### The monoid of queries -/

/-- Statements are a monoid of queries.

Every query that does not contain itself flattens to one sequence of clauses and unions, and
compiles if it comes of documented calls. Queries that flatten to the same sequence are compiled to
the same text and parameters, and use up as many numbers, however their statements are nested and
whatever empty statements are among them. A statement that gets a further node compiles under the
same conditions, and to nothing but what the shorter one compiles to with something behind it: the
text of the node as it is written next, with the separator in between if there is a text on either
side, and further parameters. -/
theorem statements_form_monoid {s : Store} (assembled : s.Assembled) {settings : Settings}
    {sep : String} (textual : (s.freshEnvironment settings).IsTextual sep) :
    (∀ h, s.IsQuery h → s.IsAcyclic h → (∃! leaves, s.Flattens [h] leaves) ∧
      (s.Conforming → ∃ q, (s.compile settings h).result = .ok q)) ∧
    (∀ h h' leaves, s.Flattens [h] leaves → s.Flattens [h'] leaves →
      ∀ q, (s.compile settings h).result = .ok q → (s.compile settings h').result = .ok q ∧
        (s.write h' (s.freshEnvironment settings)).pen.env.size =
          (s.write h (s.freshEnvironment settings)).pen.env.size) ∧
    ∀ h nodes g, s.get? h = some (.statement nodes) → s.IsQuery g →
      let s' := s.called [.append h (.object g)]
      (s.Conforming → s'.IsAcyclic h → ∃ q', (s'.compile settings h).result = .ok q') ∧
      ∀ q', (s'.compile settings h).result = .ok q' → ∃ q text,
        (s.compile settings h).result = .ok q ∧
        (s.write g (s.write h (s.freshEnvironment settings)).pen.env).answer = .ok (.text text) ∧
        q'.text = Text.separated sep q.text text ∧ q.params <+: q'.params := by
  refine ⟨fun h query acyclic => ⟨?_, fun conforming => ?_⟩, ?_, ?_⟩
  · obtain ⟨leaves, flat⟩ := Store.exists_flattens assembled.typed query acyclic
    exact ⟨leaves, flat, fun leaves' flat' => flat.unique flat'⟩
  · exact ⟨_, assembled.compile_query textual query (conforming.isWhole query acyclic)⟩
  · intro h h' leaves flat flat' q compiled
    obtain ⟨ok, made⟩ := Store.compile_ok compiled
    have same := flat.write_eq assembled textual flat' ok
    refine ⟨?_, by rw [same]⟩
    rw [← compiled]
    simp only [Store.compile, same, ok]
  -- The store with the longer statement is assembled as well, and builds begin there as before.
  intro h nodes g found query s'
  have called : s' = s.replace h (.statement (nodes ++ [g])) :=
    Store.called_append assembled.typed.unassigned found query
  have exported : (Construction.append h (.object g)).Exported s :=
    ⟨trivial, List.forall_mem_singleton.mpr query.stands.knowsWithin⟩
  have assembled' : s'.Assembled := assembled.called (.cons exported .nil)
  have grows : s.Grows s' := by
    rw [called]
    exact .replace found .statement
  have fresh : s'.freshEnvironment settings = s.freshEnvironment settings := by
    refine Store.freshEnvironment_of_grows grows ?_ textual
    rw [called]
    exact Store.next_replace s h _
  have textual' : (s'.freshEnvironment settings).IsTextual sep := by rwa [fresh]
  have query' : s'.IsQuery h := Store.IsQuery.mono grows ⟨_, found, rfl⟩
  constructor
  · intro conforming acyclic
    have conforming' : s'.Conforming := conforming.call exported trivial
    exact ⟨_, assembled'.compile_query textual' query' (conforming'.isWhole query' acyclic)⟩
  intro q' compiled
  -- Nothing is stuck in the longer statement, so it does not contain itself, and neither does the
  -- node: their parts are what they were before.
  have whole' : (s'.tree h).isWhole = true :=
    (Store.write_shown textual').1.mp (Store.compile_ok compiled).1
  have appended :=
    assembled.write_append textual found query (called ▸ assembled') (called ▸ whole')
  rw [← called] at appended
  obtain ⟨whole, g_whole, env, text⟩ := appended
  have longer := assembled'.compile_query textual' query' whole'
  rw [compiled, fresh] at longer
  obtain rfl := Except.ok.inj longer
  have before : (s.write h (s.freshEnvironment settings)).pen.env.IsTextual sep :=
    textual.render (s.template h)
  have answer := assembled.write_query before query g_whole
  have ext := s.write_extends g (s.write h (s.freshEnvironment settings)).pen.env
  rw [env] at answer ext
  exact ⟨_, _, assembled.compile_query textual ⟨_, found, rfl⟩ whole, answer, text,
    ext.params_grow.map _⟩

/-- A nested statement with an empty one in it is compiled like a flat one, and a statement of its
first clause can be appended to. -/
theorem statements_form_monoid_nested :
    let calls : List Construction := [.node .null none, .read false (.bool false) [.object 0],
      .projection .returning [.object 0] (.bool false), .build 3 (.limit (.int 3)),
      .statement [], .statement [.object 3, .object 5], .statement [.object 2, .object 6],
      .statement [.object 2, .object 3], .statement [.object 2]]
    let s := Store.empty.called calls
    s.Flattens [7] [2, 3] ∧ s.Flattens [8] [2, 3] ∧
    ∃ q, (s.compile .defaults 7).result = .ok q ∧ (s.compile .defaults 8).result = .ok q ∧
      q.text = "MATCH (this0)\nRETURN this0\nLIMIT $param1" ∧
      ∃ q' q₀ text, ((s.called [.append 9 (.object 3)]).compile .defaults 9).result = .ok q' ∧
        (s.compile .defaults 9).result = .ok q₀ ∧ q'.text = Text.separated "\n" q₀.text text ∧
        q₀.params <+: q'.params := by
  intro calls s
  have exported : Store.empty.ExportedInTurn calls :=
    .plain trivial rfl <| .plain trivial rfl <| .plain trivial rfl <| .plain trivial rfl <|
    .plain trivial rfl <| .plain trivial rfl <| .plain trivial rfl <| .plain trivial rfl <|
    .plain trivial rfl <| .nil
  have assembled : s.Assembled := Store.Assembled.empty.called exported
  have textual : (s.freshEnvironment .defaults).IsTextual "\n" := s.freshEnvironment_isTextual
  obtain ⟨c, first⟩ : ∃ c, s.get? 2 = some (.clause c) := ⟨_, rfl⟩
  obtain ⟨c', second⟩ : ∃ c, s.get? 3 = some (.clause c) := ⟨_, rfl⟩
  have empty : s.get? 5 = some (.statement []) := rfl
  have inside : s.get? 6 = some (.statement [3, 5]) := rfl
  have nested : s.get? 7 = some (.statement [2, 6]) := rfl
  have flat : s.get? 8 = some (.statement [2, 3]) := rfl
  have short : s.get? 9 = some (.statement [2]) := rfl
  have text : (s.compile .defaults 7).result.toOption.map CompiledQuery.text =
      some "MATCH (this0)\nRETURN this0\nLIMIT $param1" := by
    decide +kernel
  have appended : ((s.called [.append 9 (.object 3)]).compile .defaults 9).result.toOption.map
      CompiledQuery.text = some "MATCH (this0)\nRETURN this0\nLIMIT $param1" := by
    decide +kernel
  -- From here on it does not matter what is in the store.
  clear_value s
  obtain ⟨-, same, append⟩ := statements_form_monoid assembled textual
  have flattens : s.Flattens [7] [2, 3] :=
    .wrap nested (.clause first (.statement inside (.clause second (.statement empty .nil))))
  have flattens' : s.Flattens [8] [2, 3] := .wrap flat (.clause first (.clause second .nil))
  obtain ⟨q, ok, q_text⟩ := Store.exists_of_compiled_text text
  obtain ⟨q', ok', -⟩ := Store.exists_of_compiled_text appended
  obtain ⟨q₀, text, shorter, -, longer, params⟩ :=
    (append 9 [2] 3 short ⟨_, second, rfl⟩).2 q' ok'
  exact ⟨flattens, flattens', q, ok, (same 7 8 [2, 3] flattens flattens' q ok).1, q_text, q', q₀,
    text, ok', shorter, longer, params⟩

end GraphQuery
