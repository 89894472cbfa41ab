import GraphQuery.Proofs.Assembly.Checked
import GraphQuery.Proofs.Compile.Literals
import GraphQuery.Proofs.Compile.Query

/-!
Open chains in queries.

A chain that ends on a relationship can stand in no query. Calls that check what they are given
refuse it. But where a literal can stand, whatever cannot stand in a query is a literal, and so is
an open chain: it is put into a parameter of its own, and the query has it among the values of its
parameters.

* `Store.not_mem_params`: a query has no value that is in no parameter.
* `Store.Assembled.exists_mem_params_iff`: the values that the parameters of a query have.
* `openChain_refused_or_wrapped`: what becomes of an open chain in each place.
-/

namespace GraphQuery

open Assembly

/-! ### Values of parameters -/

/-- What is stored is an entry of before or the value itself. -/
theorem Value.of_mem_store {view : ObjectView} {entries : List (Value × Value)} {key v : Value}
    {entry : Value × Value} (mem : entry ∈ store view entries key v) :
    entry.2 = v ∨ ∃ old ∈ entries, old.2 = entry.2 := by
  unfold store at mem
  split at mem
  · obtain ⟨old, old_mem, rfl⟩ := List.mem_map.mp mem
    split
    · exact .inl rfl
    · exact .inr ⟨old, old_mem, rfl⟩
  · rcases List.mem_append.mp mem with mem | mem
    · exact .inr ⟨entry, mem, rfl⟩
    · rw [List.mem_singleton.mp mem]
      exact .inl rfl

namespace Store

/-- A query has no values but those of the entries that it is put together from. -/
theorem of_mem_textKeyed {view : ObjectView} {params : List (Value × Value)} {entry : Value × Value}
    (mem : entry ∈ textKeyed view params) : ∃ old ∈ params, old.2 = entry.2 := by
  induction params using List.reverseRecOn generalizing entry with
  | nil => cases mem
  | append_singleton params last ih =>
    rw [textKeyed, List.foldl_append] at mem
    rcases Value.of_mem_store mem with eq | ⟨old, before, eq⟩
    · exact ⟨last, by simp, eq.symm⟩
    · obtain ⟨older, older_mem, eq'⟩ := ih before
      exact ⟨older, List.mem_append_left _ older_mem, eq'.trans eq⟩

variable {s : Store} {v : Value}

/-- A query has no value that is in no parameter, whatever the settings are. -/
theorem not_mem_params (assembled : s.Assembled) (absent : ¬ s.HasParam v) {settings : Settings}
    {h : Nat} {q : CompiledQuery} (compiled : (s.compile settings h).result = .ok q) :
    ∀ entry ∈ q.params, entry.2 ≠ v := by
  have without : s.Alike (fun a _ => a ≠ v) s :=
    assembled.sound.of_params fun _ has eq => absent (eq ▸ has)
  have written := write_alike (without.tree h) (e := s.freshEnvironment settings)
    ⟨rfl, .nil, rfl, rfl, rfl, rfl⟩
  have values := List.forall₂_same.mp written.env.params
  intro entry mem
  rw [(query_ok (compile_ok compiled).2).2] at mem
  obtain ⟨old, old_mem, eq⟩ := of_mem_textKeyed mem
  exact eq ▸ (values old old_mem).2

/-- The parameters that are written are those of the store. -/
theorem Assembled.get?_of_key (assembled : s.Assembled) {e : Environment} {h : Nat}
    (ok : (s.write h e).fault? = none) {p : Param} (mem : .key p ∈ s.template h) :
    s.get? p.id = some (.param p) :=
  (assembled.sound.tree_clean h).template.tidy.of_mem ok _ mem

/-- Under names that are texts a query has a value just in case a parameter with the value is
written in it. -/
theorem Assembled.exists_mem_params_iff (assembled : s.Assembled) {settings : Settings}
    {sep : String} (textual : (s.freshEnvironment settings).IsTextual sep) {h : Nat}
    {q : CompiledQuery} (compiled : (s.compile settings h).result = .ok q) (v : Value) :
    (∃ entry ∈ q.params, entry.2 = v) ↔ ∃ p, .key p ∈ s.template h ∧ p.value = v := by
  obtain ⟨ok, made⟩ := compile_ok compiled
  have whole : (s.tree h).isWhole = true := (write_shown textual).1.mp ok
  have accounts : (s.write h (s.freshEnvironment settings)).pen.env.Accounts
      (Ask.firsts (s.template h).asks) := by
    rw [assembled.write_after textual whole]
    exact (textual.worded.accounts rfl).after _
  have texts := fun entry (mem : entry ∈ _) => accounts.exists_text mem
  have values : q.params.map (·.2) = (Ask.params (s.template h).asks).map Param.value := by
    have keyed := textKeyed_texts s.view texts accounts.params_nodup
    rw [accounts.params_eq, ← (query_ok made).2] at keyed
    simpa [Function.comp_def, Ask.params] using congrArg (List.map Prod.snd) keyed
  have same : (∃ entry ∈ q.params, entry.2 = v) ↔ v ∈ q.params.map (·.2) := List.mem_map.symm
  rw [same, values, List.mem_map]
  constructor
  · rintro ⟨p, mem, eq⟩
    obtain ⟨ask, first, sought⟩ := List.mem_filterMap.mp mem
    cases ask with
    | label r => cases sought
    | key p' =>
      cases sought
      exact ⟨p, Template.mem_asks_key.mp (Ask.mem_of_mem_firsts first), eq⟩
  · rintro ⟨p, written, eq⟩
    obtain ⟨ask, first, role_eq, id_eq⟩ :=
      Ask.exists_same_firsts (Template.mem_asks_key.mpr written)
    cases ask with
    | label r => cases role_eq
    | key p' =>
      -- One handle is that of one parameter.
      have held := assembled.get?_of_key ok written
      have held' := assembled.get?_of_key ok
        (Template.mem_asks_key.mp (Ask.mem_of_mem_firsts first))
      change p'.id = p.id at id_eq
      rw [id_eq, held] at held'
      cases held'
      exact ⟨p, List.mem_filterMap.mpr ⟨.key p, first, rfl⟩, eq⟩

end Store

/-! ### What becomes of an open chain -/

/-- What cannot stand in a query is wrapped where an expression is wanted. -/
theorem outcome_expression_literal {s : Store} (unassigned : s.assignments = []) {v : Value}
    (literal : s.IsLiteral v) :
    outcome (expression v).run s =
      (.ok (.object s.next), s.push (.param ⟨s.next, v, none⟩)) := by
  obtain ⟨b, eq, stands⟩ := outcome_isExpression unassigned v
  cases b with
  | true => exact absurd (stands.mp rfl) literal.absent
  | false => exact outcome_bind_of_ok eq

/-- Calls that differ in that one of them is given a value where the other one is given itself or
another literal both succeed, with the same answer, or both fail. -/
theorem answers_of_alike {s : Store} (assembled : s.Assembled) {R : Value → Value → Prop}
    (refl : ∀ v, R v v) {call call' : Construction} (alike : call.Alike R s s call') :
    Answers Eq (outcome call.perform.run s).1 (outcome call'.perform.run s).1 :=
  (agree_perform (assembled.sound.of_params fun v _ => refl v) alike).results.imp
    fun _ _ same => same.symm

/-- An open chain is refused by all checks, those of row counts among them, and calls that check it
do not succeed. Where nothing but the place tells what is wanted, it is a literal: it is wrapped
into a parameter, and a call that is given it succeeds if it would with another literal in its
place. So after a call that succeeds there is a parameter that has it as its value just in case
there was one before, or the call was given it in a place for literals. A query has it among the
values of its parameters just in case such a parameter is written in the query, and that takes a
call that was given it in a place for literals. -/
theorem openChain_refused_or_wrapped {s : Store} (assembled : s.Assembled) {v : Value}
    {c : OpenChain} (found : s.object? v = some (.chain c)) :
    s.Rejects v (Object.chain c).placed ∧
    (∀ call : Construction, call.Exported s → v ∈ call.checked s →
      ∃ f, (outcome call.perform.run s).1 = .error f) ∧
    outcome (expression v).run s =
      (.ok (.object s.next), s.push (.param ⟨s.next, v, none⟩)) ∧
    (∀ call call' : Construction, call.Alike (fun a b => a = b ∨ a = v) s s call' →
      Answers Eq (outcome call.perform.run s).1 (outcome call'.perform.run s).1) ∧
    (∀ call : Construction, call.Exported s → ∀ w, (outcome call.perform.run s).1 = .ok w →
      ((outcome call.perform.run s).2.HasParam v ↔ s.HasParam v ∨ v ∈ call.literals s)) ∧
    (∀ settings sep h q, (s.freshEnvironment settings).IsTextual sep →
      (s.compile settings h).result = .ok q →
      ((∃ entry ∈ q.params, entry.2 = v) ↔ ∃ p, .key p ∈ s.template h ∧ p.value = v)) ∧
    (s.AssembledWithout v → ∀ settings h q, (s.compile settings h).result = .ok q →
      ∀ entry ∈ q.params, entry.2 ≠ v) := by
  have literal : s.IsLiteral v := isLiteral_chain found
  refine ⟨rejects_chain found assembled.typed.unassigned, fun call exported mem => ?_,
    outcome_expression_literal assembled.typed.unassigned literal,
    fun call call' alike => answers_of_alike assembled (fun _ => .inl rfl) alike,
    fun call exported w answer => exported.hasParam_iff assembled literal answer,
    fun settings sep h q textual compiled => assembled.exists_mem_params_iff textual compiled v,
    fun without settings h q compiled => ?_⟩
  · have vain := ensures_of_checked assembled.typed found exported.isExported mem
    cases answer : (outcome call.perform.run s).1 with
    | ok w => exact (vain.result w answer).elim
    | error f => exact ⟨f, rfl⟩
  · exact Store.not_mem_params assembled without.not_hasParam compiled

/-- A clause is restricted by an open chain, which is refused as a pattern. -/
theorem openChain_refused_or_wrapped_predicate :
    let calls : List Construction := [.node .null none, .pattern (.object 0) .null .null,
      .related (.object 1) .null .null .null (.direction .right),
      .read false (.bool false) [.object 0], .build 5 (.restrict (.object 3))]
    let s := Store.empty.called calls
    let v := Value.object 3
    s.Assembled ∧ (∃ c, s.object? v = some (.chain c)) ∧
    (∃ f, (outcome (Construction.create [v]).perform.run s).1 = .error f) ∧
    ∃ q, (s.compile .defaults 5).result = .ok q ∧ ∃ entry ∈ q.params, entry.2 = v := by
  intro calls s v
  have exported : Store.empty.ExportedInTurn calls :=
    .plain trivial rfl <| .plain trivial rfl <| .plain trivial rfl <| .plain trivial rfl <|
    .cons ⟨trivial, List.forall_mem_singleton.mpr (Store.knowsWithin_of_any rfl)⟩ .nil
  have assembled : s.Assembled := Store.Assembled.empty.called exported
  have textual : (s.freshEnvironment .defaults).IsTextual "\n" := s.freshEnvironment_isTextual
  obtain ⟨c, found⟩ : ∃ c, s.object? v = some (.chain c) := ⟨_, rfl⟩
  have known : s.KnowsWithin v := Store.knowsWithin_of_any rfl
  have written : .key ⟨6, v, none⟩ ∈ s.template 5 :=
    List.mem_of_getElem? (show (s.template 5)[11]? = _ from rfl)
  have text : (s.compile .defaults 5).result.toOption.map CompiledQuery.text =
      some "MATCH (this0)\nWHERE $param1" := by decide +kernel
  -- From here on it does not matter what is in the store.
  clear_value s
  obtain ⟨q, compiled, -⟩ := Store.exists_of_compiled_text text
  obtain ⟨-, refused, -, -, -, values, -⟩ := openChain_refused_or_wrapped assembled found
  refine ⟨assembled, ⟨c, found⟩, ?_, q, compiled, ?_⟩
  · exact refused (.create [v]) ⟨trivial, List.forall_mem_singleton.mpr known⟩ List.mem_cons_self
  · exact (values _ "\n" 5 q textual compiled).mpr ⟨_, written, rfl⟩

/-- A clause takes an open chain as a predicate, and the query has it as a value. -/
theorem openChain_in_params :
    let calls : List Construction := [.node .null none, .pattern (.object 0) .null .null,
      .related (.object 1) .null .null .null (.direction .right),
      .read false (.bool false) [.object 0]]
    let s := Store.empty.called calls
    let restricted := outcome (Construction.build 5 (.restrict (.object 3))).perform.run s
    (s.get? 3).map Object.className = some "PartialPattern" ∧
    restricted.1.toOption = some (.object 5) ∧
    (restricted.2.compile .defaults 5).result.toOption.map
      (fun q => (q.text, q.params)) =
        some ("MATCH (this0)\nWHERE $param1", [(.text "param1", .object 3)]) :=
  ⟨rfl, rfl, by decide +kernel⟩

end GraphQuery
