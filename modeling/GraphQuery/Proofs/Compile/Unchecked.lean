import GraphQuery.Proofs.Compile.History
import GraphQuery.Proofs.Compile.Totality
import GraphQuery.Proofs.Store.Wholeness

/-!
Parts that are not checked before a query is built.

The type that a relationship is given in a pattern and what a property is accessed of are taken as
they are. The calls that take them answer the same whatever they are given, so nothing of no use is
ever refused there. It is met when a query that contains it is built, and then the build fails: a
query builds just in case it is not in itself and everything in it is usable.

* `relationshipElement_eq`: the type of a relationship is put in after all checks.
* `Store.compiles_iff_isWhole`: what can be compiled.
* `builds_iff_usable`: what the two calls take, and which queries can be built.
* `wrong_parts_taken`: a type and a base that are of no use are taken, and the build fails.
-/

namespace GraphQuery

open Assembly

/-! ### Calls that take a value as it is -/

section Taking

variable {α β : Type}

/-- Two steps answer alike after the same step if they do after all that it can give. -/
theorem answer_bind_congr {m : Assembly α} {f g : α → Assembly β}
    (same : ∀ a t, (outcome (f a).run t).1 = (outcome (g a).run t).1) (s : Store) :
    (outcome (m >>= f).run s).1 = (outcome (m >>= g).run s).1 := by
  change (outcome (ExceptT.bindCont f (outcome m.run s).1) (outcome m.run s).2).1 =
    (outcome (ExceptT.bindCont g (outcome m.run s).1) (outcome m.run s).2).1
  cases (outcome m.run s).1 with
  | ok a => exact same a _
  | error f => rfl

/-- Whatever object is made after a step, the answer is the same. -/
theorem answer_made (m : Assembly α) (o o' : α → Object) (s : Store) :
    (outcome (m >>= fun a => made (o a)).run s).1 =
      (outcome (m >>= fun a => made (o' a)).run s).1 := by
  refine answer_bind_congr (fun a t => ?_) s
  rfl

/-- The type that a relationship is given is put in when everything else has passed. -/
theorem relationshipElement_eq (v type table way : Value) :
    relationshipElement v type table way = do
      let r ← relationshipElement v .null table way
      return { r with type := type.given?.getD r.type } := by
  unfold relationshipElement
  simp only [bind_assoc]
  refine bind_congr fun r? => ?_
  split
  · simp only [bind_assoc, pure_bind, typeIn]
    rfl
  · rename_i other
    simp only [refuse]
    rfl

/-- What a relationship answers does not depend on the type that it is given. -/
theorem answer_related (receiver v type type' table way : Value) (s : Store) :
    (outcome (related receiver v type table way).run s).1 =
      (outcome (related receiver v type' table way).run s).1 := by
  unfold related
  refine answer_bind_congr (fun o? t => ?_) s
  split
  · rename_i p
    -- Either relationship is the same one, with another type put in.
    have chained : ∀ v t, (outcome (do
        made (.chain (p.related (← relationshipElement v type table way)))).run t).1 =
      (outcome (do
        made (.chain (p.related (← relationshipElement v type' table way)))).run t).1 := by
      intro v t
      rw [relationshipElement_eq v type, relationshipElement_eq v type']
      simp only [bind_assoc, pure_bind]
      exact answer_made _ _ _ t
    split
    · exact answer_bind_congr chained t
    · exact chained _ t
  · rfl

/-- What an access to a property answers does not depend on what it is an access of. -/
theorem answer_property (base base' : Value) (path : List Value) (s : Store) :
    (outcome (property base path).run s).1 = (outcome (property base' path).run s).1 := by
  unfold property
  split
  · rfl
  · exact answer_made (path.mapM pathStep) _ _ s

/-- A type that is given is of use to a relationship if it counts as false or if it is a name. -/
theorem typeIn_usable_iff {a : Attribute Reference} {own : Option Name} {type : Value}
    {ps : Attribute (List (Name × Param))} {d : Attribute Direction} (s : Store) :
    (⟨a, typeIn own type, ps, d⟩ : RelationshipElement).Usable s ↔
      (type.truth s.view = true → ∃ n, type.name? = some n) := by
  cases isNull : type.isNull with
  | true =>
    refine iff_of_true ?_ fun truth => ?_
    · have given : type.given? = none := by simp [Value.given?, isNull]
      simp only [RelationshipElement.Usable, typeIn, given, Option.getD_none]
      cases own with
      | none => exact fun truth => by cases truth
      | some n => exact fun _ => ⟨n, by cases n <;> rfl⟩
    · rw [Value.truth_of_isNull isNull] at truth
      cases truth
  | false =>
    have given : type.given? = some type := by simp [Value.given?, isNull]
    simp only [RelationshipElement.Usable, typeIn, given, Option.getD_some]

/-- What waits in an open chain is in the pattern that it is closed to. -/
theorem OpenChain.mem_of_close? {c : OpenChain} {view : ObjectView} {n : NodeElement} {p : Pattern}
    (closed : c.close? view n = some p) : ∃ es, p = ⟨.made es⟩ ∧ c.pending ∈ es := by
  obtain ⟨es, -, rfl⟩ := Option.map_eq_some_iff.mp closed
  exact ⟨_, rfl, List.mem_append_right es List.mem_cons_self⟩

end Taking

/-- A value is an access to a property of a base. -/
def Store.IsAccessTo (s : Store) (v base : Value) : Prop :=
  ∃ names, s.object? v = some (.expression (.property base (.made names)))

section Access

variable {s : Store} (typed : s.Typed False)
include typed

/-- An access to a property has the base that it was given. -/
theorem yields_accesses (base : Value) (path : List Value) :
    Yields False (fun t p => t.IsAccessTo p base) s (property base path) :=
  yields_property typed False.elim path

/-- An access further along another one has the same base. -/
theorem yields_accesses_further {receiver base : Value} (accesses : s.IsAccessTo receiver base)
    (path : List Value) :
    Yields False (fun t p => t.IsAccessTo p base) s (propertyOf receiver path) := by
  obtain ⟨names, found⟩ := accesses
  refine Yields.object? ?_
  rw [found]
  exact yields_accesses typed base _

end Access

/-! ### What can be compiled -/

/-- Under settings whose stems and separator are texts, what can be compiled is just that in which
nothing is stuck. -/
theorem Store.compiles_iff_isWhole {s : Store} {h : Nat} {settings : Settings}
    (textual : settings.IsTextual) :
    (∃ q, (s.compile settings h).result = .ok q) ↔ (s.tree h).isWhole = true := by
  constructor
  · rintro ⟨q, compiled⟩
    rw [compile_result] at compiled
    exact isWhole_of_compileTree compiled
  · intro whole
    have worded : ({ env := s.freshEnvironment settings, lists := [] } : Pen Environment).env.Worded
        Wording.IsText :=
      Environment.worded_blank textual.stems s.view 0
    have separator : (s.freshEnvironment settings).separator.IsText :=
      Wording.isText_ofValue s.view textual.separator
    have noFault : ∀ f, .fault f ∉ (s.tree h).template := by
      rw [← Template.isSound_iff, Tree.isSound_template, whole]
    exact exists_compiled textual.stems
      (Template.fill_ok worded separator (fun _ mem => absurd mem List.not_mem_nil) noFault)

/-! ### What is taken and what is built -/

/-- The type that a relationship is given and the base of an access to a property are taken
unchecked. A call that relates a pattern, or one that accesses a property, answers the same whatever
it is given: it is only refused for its other arguments. What it makes holds what it was given, and
so do the pattern that the chain is closed to and every access further along. A query builds just in case nothing in it contains itself, what
is accessed in it can be written, and each type in it counts as false or is a name. -/
theorem builds_iff_usable {s : Store} (assembled : s.Assembled) :
    (∀ receiver v type table way,
      let made := outcome (Construction.related receiver v type table way).perform.run s
      made.1 = (outcome (Construction.related receiver v .null table way).perform.run s).1 ∧
      ∀ g, made.1 = .ok g → ∃ (p : Pattern) (r : RelationshipElement),
        made.2.object? g = some (.chain (p.related r)) ∧
        (r.Usable made.2 ↔ (type.truth made.2.view = true → ∃ n, type.name? = some n))) ∧
    (∀ receiver (p : Pattern) r v labels table, s.object? receiver = some (.chain (p.related r)) →
      let made := outcome (Construction.close receiver v labels table).perform.run s
      ∀ g, made.1 = .ok g → ∃ es, made.2.object? g = some (.pattern ⟨.made es⟩) ∧
        .relationship r ∈ es) ∧
    (∀ base path,
      let made := outcome (Construction.property base path).perform.run s
      made.1 = (outcome (Construction.property .null path).perform.run s).1 ∧
      ∀ g, made.1 = .ok g → made.2.IsAccessTo g base) ∧
    (∀ receiver base path, s.IsAccessTo receiver base →
      let made := outcome (Construction.propertyOf receiver path).perform.run s
      ∀ g, made.1 = .ok g → made.2.IsAccessTo g base) ∧
    ∀ h, s.IsQuery h → ∀ settings : Settings, settings.IsTextual →
      ((∃ q, (s.compile settings h).result = .ok q) ↔ s.IsAcyclic h ∧ s.IsUsable h) := by
  have typed := assembled.typed
  refine ⟨fun receiver v type table way => ⟨?_, fun g answer => ?_⟩,
    fun receiver p r v labels table chain g answer => ?_,
    fun base path => ⟨?_, fun g answer => ?_⟩, fun receiver base path accesses g answer => ?_,
    fun h query settings textual => ?_⟩
  · exact answer_related receiver v type .null table way s
  · obtain ⟨p, is, own, ps, d, -, found⟩ :=
      Leaves.result (yields_related typed receiver v False.elim table way) g answer
    exact ⟨p, _, found, typeIn_usable_iff _⟩
  · obtain ⟨c, view, _, _, _, p', found, closed, made⟩ :=
      Leaves.result (yields_close typed receiver v labels table) g answer
    cases chain.symm.trans found
    obtain ⟨es, rfl, mem⟩ := OpenChain.mem_of_close? closed
    exact ⟨es, made, mem⟩
  · exact answer_property base .null path s
  · exact (yields_accesses typed base path).result g answer
  · exact (yields_accesses_further typed accesses path).result g answer
  · have fitted : ∀ ⦃h c⦄, s.get? h = some (.clause c) → c.Fitted :=
      fun _ _ found => (assembled.proper found).slots
    rw [Store.compiles_iff_isWhole textual, Store.isWhole_iff assembled.sound fitted typed]
    exact and_iff_right query.stands

/-- A relationship is given the number nought as its type, which counts as false, and a property is
accessed of the number five. The chain can be closed once more and the access can be gone on with.
Only the clause with the former builds. -/
theorem builds_iff_usable_nought :
    let calls : List Construction := [.node .null none, .pattern (.object 0) .null .null,
      .related (.object 1) .null (.int 0) .null (.direction .right),
      .close (.object 3) (.object 0) .null .null, .read false (.bool false) [.object 4],
      .property (.int 5) [.text "a"], .read false (.bool false) [.object 4],
      .build 7 (.project .returning [.object 6] (.bool false))]
    let s := Store.empty.called calls
    let closed := outcome (Construction.close (.object 3) (.object 0) .null .null).perform.run s
    let further := outcome (Construction.propertyOf (.object 6) [.text "b"]).perform.run s
    s.Assembled ∧ Settings.defaults.IsTextual ∧ s.IsQuery 5 ∧ s.IsQuery 7 ∧
    (∃ (p : Pattern) (r : RelationshipElement), s.object? (.object 3) = some (.chain (p.related r)) ∧
      ∃ es, closed.2.object? (.object 8) = some (.pattern ⟨.made es⟩) ∧ .relationship r ∈ es) ∧
    s.IsAccessTo (.object 6) (.int 5) ∧ further.2.IsAccessTo (.object 8) (.int 5) ∧
    (s.compile .defaults 5).result.toOption.map CompiledQuery.text =
      some "MATCH (this0)-[this1]->(this0)" ∧
    (s.IsAcyclic 5 ∧ s.IsUsable 5) ∧
    (s.compile .defaults 7).result.toOption = none ∧ ¬ (s.IsAcyclic 7 ∧ s.IsUsable 7) := by
  intro calls s closed further
  -- An open chain cannot stand in a query, but it is no collection either.
  have chain : ∀ v ∈ [Value.object 3, .object 0, .null, .null],
      (Store.empty.called (calls.take 3)).KnowsWithin v :=
    List.forall_mem_cons.mpr ⟨Store.knowsWithin_of_any (by decide +kernel),
      Store.knowsWithin_of_isPlain (by decide +kernel)⟩
  have inTurn : Store.empty.ExportedInTurn calls :=
    .plain trivial rfl (.plain trivial rfl (.plain trivial rfl (.cons ⟨trivial, chain⟩
      (.plain trivial rfl (.plain trivial rfl (.plain trivial rfl (.plain trivial rfl .nil)))))))
  have assembled : s.Assembled := Store.Assembled.empty.called inTurn
  have isQuery : (s.get? 5).any Object.isQuery = true := by decide +kernel
  have isQuery' : (s.get? 7).any Object.isQuery = true := by decide +kernel
  have text : (s.compile .defaults 5).result.toOption.map CompiledQuery.text =
      some "MATCH (this0)-[this1]->(this0)" := by decide +kernel
  have failed : (s.compile .defaults 7).result.toOption = none := by decide +kernel
  have textual : Settings.defaults.IsTextual := Settings.defaults_isTextual
  have waiting : ∃ (p : Pattern) (r : RelationshipElement),
      s.object? (.object 3) = some (.chain (p.related r)) := ⟨⟨.made [.node _]⟩, _, rfl⟩
  have accesses : s.IsAccessTo (.object 6) (.int 5) := ⟨_, rfl⟩
  have closes : closed.1 = .ok (.object 8) := by decide +kernel
  have goesOn : further.1 = .ok (.object 8) := by decide +kernel
  -- From here on it does not matter what is in the store.
  clear_value s
  obtain ⟨o, found, isQuery⟩ := (Option.any_eq_true _ _).mp isQuery
  obtain ⟨o', found', isQuery'⟩ := (Option.any_eq_true _ _).mp isQuery'
  have query : s.IsQuery 5 := ⟨o, found, isQuery⟩
  have query' : s.IsQuery 7 := ⟨o', found', isQuery'⟩
  obtain ⟨-, close, -, goOn, builds⟩ := builds_iff_usable assembled
  obtain ⟨p, r, waiting⟩ := waiting
  have usable : s.IsAcyclic 5 ∧ s.IsUsable 5 := by
    refine (builds 5 query _ textual).mp ?_
    cases result : (s.compile .defaults 5).result with
    | ok q => exact ⟨q, rfl⟩
    | error f =>
      rw [result] at text
      cases text
  have unusable : ¬ (s.IsAcyclic 7 ∧ s.IsUsable 7) := by
    intro usable
    obtain ⟨q, ok⟩ := (builds 7 query' _ textual).mpr usable
    rw [ok] at failed
    cases failed
  exact ⟨assembled, textual, query, query', ⟨p, r, waiting, close _ p r _ _ _ waiting _ closes⟩,
    accesses, goOn _ _ _ accesses _ goesOn, text, usable, failed, unusable⟩

/-- A relationship takes the number five as its type, and a property is accessed of the number five.
No call is refused, and neither clause can be built. -/
theorem wrong_parts_taken :
    let s := Store.empty.called [.node .null none, .pattern (.object 0) .null .null]
    let related : Construction :=
      .related (.object 1) .null (.int 5) .null (.direction .right)
    let accessed : Construction := .property (.int 5) [.text "a"]
    (outcome related.perform.run s).1 = .ok (.object 3) ∧
    (s.replies [.call related, .call (.close (.object 3) (.object 0) .null .null),
      .call (.read false (.bool false) [.object 4])]).all (·.toOption.isSome) = true ∧
    ((s.called [related, .close (.object 3) (.object 0) .null .null,
      .read false (.bool false) [.object 4]]).compile .defaults 5).result =
        .error .wrongType ∧
    (outcome accessed.perform.run s).1 = .ok (.object 2) ∧
    (s.replies [.call accessed, .call (.read false (.bool false) [.object 1]),
      .call (.build 3 (.project .returning [.object 2] (.bool false)))]).all
        (·.toOption.isSome) = true ∧
    ((s.called [accessed, .read false (.bool false) [.object 1],
      .build 3 (.project .returning [.object 2] (.bool false))]).compile .defaults 3).result =
        .error .missing := by
  refine ⟨rfl, by decide +kernel, by rfl, rfl, by decide +kernel, by rfl⟩

end GraphQuery
