import GraphQuery.Proofs.Compile.Query
import GraphQuery.Proofs.Compile.Totality
import GraphQuery.Proofs.Rendering.Accounting

/-!
The events of a build.

A build tells of the unions that it meets and of the names that it passes over, and in the end of
the query. What it tells of the query is how many numbers have been used up, and that is accounted
for: each reference that has a label and each parameter that has a key has used up one number, and
each of the others was told of when it was passed over.

* `Store.Assembled.named`: what is given names in a query are references and parameters.
* `events_account_for_counter`: which events there are, and what they say.
* `compiled_told_in_vain`: where a stem is no text, a query may be told of that is not put together.
-/

namespace GraphQuery

/-- In what the library has assembled, labels are given to references, and keys to parameters. -/
theorem Store.Assembled.named {s : Store} (assembled : s.Assembled) {h : Nat} {e : Environment}
    (written : ((s.template h).render e).fault? = none) :
    (∀ i ∈ (s.template h).named .label, ∃ r, s.get? i = some (.reference r)) ∧
    ∀ i ∈ (s.template h).named .key, ∃ p, s.get? i = some (.param p) := by
  have tidy : ∀ segment ∈ s.template h, segment.Tidy s.grounds :=
    (assembled.sound.tree_clean h).template.tidy.of_mem written
  constructor
  · intro i mem
    obtain ⟨segment, mem, named⟩ := List.mem_filterMap.mp mem
    obtain ⟨b, isBearer, rfl⟩ := Option.map_eq_some_iff.mp named
    have grounded : s.grounds.bearer b := by
      cases segment <;> cases isBearer <;> exact tidy _ mem
    obtain ⟨r, rfl, found⟩ := grounded
    exact ⟨r, found⟩
  · intro i mem
    obtain ⟨segment, mem, named⟩ := List.mem_filterMap.mp mem
    obtain ⟨p, isParam, rfl⟩ := Option.map_eq_some_iff.mp named
    cases segment <;> cases isParam
    exact ⟨p, tidy _ mem⟩

/-- Where all stems are texts, the parameters of a query are as many as the keys that were given. -/
theorem Store.length_params {s : Store} {settings : Settings} {h : Nat} {q : CompiledQuery}
    {met : Role → List Nat} {skipped : List Nat}
    (tally : (s.write h (s.freshEnvironment settings)).pen.env.Tally met skipped)
    (compiled : (s.compile settings h).result = .ok q) :
    q.params.length = (s.write h (s.freshEnvironment settings)).pen.env.params.length := by
  obtain ⟨-, made⟩ := compile_ok compiled
  rw [(query_ok made).2, textKeyed_eq s.view
    (fun _ => Environment.exists_text_of_mem_params tally.worded.names)
    (Environment.nodup_params tally.texts), List.length_map]

/-- What is told of in a build is what happened while the query was written, and if that went well
then the query in the end. -/
theorem Store.compile_events (s : Store) (settings : Settings) (h : Nat) :
    let w := s.write h (s.freshEnvironment settings)
    (s.compile settings h).events =
      w.events ++ if w.fault?.isSome then [] else [s.compiledEvent settings h w] := by
  intro w
  unfold compile
  cases fault : w.fault? with
  | some f =>
    simp only [show (s.write h (s.freshEnvironment settings)).fault? = some f from fault]
    exact (List.append_nil _).symm
  | none =>
    simp only [show (s.write h (s.freshEnvironment settings)).fault? = none from fault]
    rfl

/-- A build under settings whose stems are texts, of anything. While it is written, nothing is told
of but names that are passed over and unions. If the build fails then there are no other events. If
it succeeds then the query is told of in the end, with the number of its parameters and the number
of identifiers: one for each reference that has a label, one for each parameter that has a key, and
one for each number that was passed over. The numbers that were passed over ascend. The unions are
those of the tree, each in front of those in its branches, and each is told of with the counter as
what stands in front of it has left it; and the counter is accounted for in the same way wherever
one stops. -/
theorem events_account_for_counter (s : Store) {settings : Settings}
    (stems : ∀ kind, (settings.value (.ofKind kind)).text?.isSome) (h : Nat) :
    let e := s.freshEnvironment settings
    let t := s.template h
    let w := t.render e
    let built := s.compile settings h
    (∀ event ∈ w.events, (∃ identifier index, event = .collision identifier index) ∨
      ∃ branches keyword startIndex, event = .union branches keyword startIndex) ∧
    (∀ f, built.result = .error f → built.events = w.events) ∧
    ∀ q, built.result = .ok q →
      built.events = w.events ++ [.compiled (s.className h)
        ((t.named .label).dedup.length + (t.named .key).dedup.length + w.skipped.length)
        q.params.length (if (settings.value .logText).truth s.view then some w.value else none)] ∧
      (∃ numbers : List Nat, w.skipped = numbers.map (fun i : Nat => .int i) ∧
        numbers.Pairwise (· < ·)) ∧
      w.unions.map (fun u => (u.1, u.2.1)) = (s.tree h).unions ∧
      (∀ (front : Template) branches keyword behind,
        t = front ++ .union branches keyword :: behind → w.unions[front.unions.length]? =
          some (branches, keyword, .int (front.render e).pen.env.size)) ∧
      (∀ front behind : Template, t = front ++ behind →
        (front.render e).events <+: w.events ∧
        (front.render e).pen.env.size = (front.named .label).dedup.length +
          (front.named .key).dedup.length + (front.render e).skipped.length) ∧
      (s.Assembled → (∀ i ∈ t.named .label, ∃ r, s.get? i = some (.reference r)) ∧
        ∀ i ∈ t.named .key, ∃ p, s.get? i = some (.param p)) := by
  intro e t w built
  have blank : ({ env := e, lists := [] } : Pen Environment).env.Tally (fun _ => []) [] :=
    Environment.tally_blank stems s.view 0
  -- What is counted up to some place is counted from nothing.
  have counts : ∀ front : Template, (front.render e).fault? = none → ∃ numbers : List Nat,
      (front.render e).skipped = numbers.map (fun i : Nat => .int i) ∧
        (front.render e).pen.env.Tally front.named numbers := by
    intro front ok
    exact Template.fill_tally blank ok fun r i => by simp
  have accounts : ∀ front : Template, (front.render e).fault? = none →
      (front.render e).pen.env.size = (front.named .label).dedup.length +
        (front.named .key).dedup.length + (front.render e).skipped.length := by
    intro front ok
    obtain ⟨numbers, told, tally⟩ := counts front ok
    rw [told, List.length_map]
    exact tally.counter_eq_dedup
  have told_of : built.events = w.events ++
      if w.fault?.isSome then [] else [s.compiledEvent settings h w] :=
    s.compile_events settings h
  refine ⟨Template.fill_events ⟨e, []⟩ t, ?_, ?_⟩
  · intro f failed
    cases fault : w.fault? with
    | some f =>
      rw [told_of, fault]
      exact List.append_nil _
    | none =>
      obtain ⟨q, compiled⟩ := Store.exists_compiled stems fault
      cases compiled.symm.trans failed
  · intro q compiled
    obtain ⟨written, -⟩ := Store.compile_ok compiled
    have ok : (t.fill ⟨e, []⟩).fault? = none := written
    obtain ⟨numbers, told, tally⟩ := counts t ok
    refine ⟨?_, ⟨numbers, told, tally.ascending⟩, ?_, ?_, ?_, ?_⟩
    · rw [told_of, ← accounts t ok, Store.length_params tally compiled,
        show w.fault? = none from written]
      rfl
    · rw [← Tree.unions_template]
      exact Template.fill_unions ok
    · intro front branches keyword behind eq
      change (t.render e).unions[front.unions.length]? = _
      rw [eq] at ok ⊢
      exact Template.fill_announces ok
    · intro front behind eq
      change _ <+: (t.render e).events ∧ _
      rw [eq] at ok ⊢
      obtain ⟨front_ok, -, events⟩ := Template.fill_front ok
      exact ⟨⟨_, events.symm⟩, accounts front front_ok⟩
    · intro assembled
      exact assembled.named ok

/-- Two nodes in the branches of a union, of which the first is named as the second would be. -/
theorem events_account_for_counter_clash :
    let calls : List Construction := [.node (.text "this1") none, .node .null none,
      .property (.object 1) [.text "age"], .comparison ">" (.object 2) (.int 30),
      .read false (.bool false) [.object 0], .read false (.bool false) [.object 1],
      .build 8 (.restrict (.object 4)), .union [.object 6, .object 8]]
    let s := Store.empty.called calls
    let settings := Settings.defaults.set .bareFirst (.bool true)
    let w := s.write 9 (s.freshEnvironment settings)
    s.Assembled ∧ (∀ kind, (settings.value (.ofKind kind)).text?.isSome) ∧
    w.unions = [(2, "UNION", .int 0)] ∧ w.skipped = [.int 1] ∧
    ∃ q, (s.compile settings 9).result = .ok q ∧
      q.text = "MATCH (this1)\nUNION\nMATCH (this2)\nWHERE this2.age > $param3" ∧
      (s.compile settings 9).events = w.events ++ [.compiled "Union" 4 q.params.length none] ∧
      (∃ r, s.get? 0 = some (.reference r)) ∧ ∃ p, s.get? 3 = some (.param p) := by
  intro calls s settings w
  have exported : Store.empty.ExportedInTurn calls :=
    .plain trivial rfl <| .plain trivial rfl <| .plain trivial rfl <|
    .plain (show ">" ∈ comparisonOperators by decide) rfl <| .plain trivial rfl <|
    .plain trivial rfl <| .plain trivial rfl <| .plain trivial rfl <| .nil
  have assembled : s.Assembled := Store.Assembled.empty.called exported
  have stems : ∀ kind, (settings.value (.ofKind kind)).text?.isSome := fun kind => by
    cases kind <;> rfl
  have text : (s.compile settings 9).result.toOption.map CompiledQuery.text =
      some "MATCH (this1)\nUNION\nMATCH (this2)\nWHERE this2.age > $param3" := by decide +kernel
  have className : s.className 9 = "Union" := rfl
  have labelled : (s.template 9).named .label = [0, 1, 1] := by decide +kernel
  have keyed : (s.template 9).named .key = [3] := by decide +kernel
  have unions : w.unions = [(2, "UNION", .int 0)] := by decide +kernel
  have skipped : w.skipped = [.int 1] := by decide +kernel
  have quiet : (settings.value .logText).truth s.view = false := rfl
  -- From here on it does not matter what is in the store.
  clear_value s
  obtain ⟨q, compiled, text_eq⟩ := Store.exists_of_compiled_text text
  obtain ⟨-, -, succeeds⟩ := events_account_for_counter s stems 9
  obtain ⟨events, -, -, -, -, owners⟩ := succeeds q compiled
  obtain ⟨references, params⟩ := owners assembled
  refine ⟨assembled, stems, unions, skipped, q, compiled, text_eq, ?_, references 0 ?_, params 3 ?_⟩
  · change Writing.skipped ((s.template 9).render (s.freshEnvironment settings)) = _ at skipped
    rw [events, skipped, labelled, keyed, className, quiet]
    rfl
  · rw [labelled]
    exact List.mem_cons_self
  · rw [keyed]
    exact List.mem_cons_self

/-- A number in the place of the stem of parameters, which stands alone as the first name. It is no
key of a query, but the query has been told of by the time that this is found out. -/
theorem compiled_told_in_vain :
    let calls : List Construction :=
      [.param (.int 1) .null, .projection .returning [.object 0] (.bool false)]
    let s := Store.empty.called calls
    let settings := (Settings.defaults.set .paramStem (.int 5)).set .bareFirst (.bool true)
    (s.compile settings 1).result = .error (.invalid
      [⟨"params.5.[key]", "string_type", "Input should be a valid string"⟩]) ∧
    (s.compile settings 1).events = [.compiled "Return" 1 1 none] :=
  ⟨rfl, rfl⟩

end GraphQuery
