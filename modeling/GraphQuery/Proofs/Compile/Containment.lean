import GraphQuery.Proofs.Assembly.Acyclicity
import GraphQuery.Proofs.Compile.Likeness
import GraphQuery.Proofs.Rendering.Faults
import GraphQuery.Proofs.Store.Parts

/-!
Writing comes to an end where no object has been handed to itself.

A statement takes itself as a node, and then it cannot be written: it is met again inside of itself.
Calls that hand no object to itself, nor to anything that is in it, keep all objects apart. After
such calls nothing contains itself, and no object is met inside of itself while it is written or
compiled.

* `statement_contains_itself`: a statement that has been handed to itself.
* `nothing_contains_itself`: all that is assembled of objects that were kept apart can be written to
  its end.
-/

namespace GraphQuery

open Relation

/-- A statement that is handed to itself contains itself, and building it does not end. -/
theorem statement_contains_itself :
    let calls : List Construction := [.statement [], .append 0 (.object 0)]
    let before := Store.empty.called [.statement []]
    let s := Store.empty.called calls
    Store.empty.ExportedInTurn calls ∧ s.Assembled ∧
    (outcome (Assembly.append 0 (.object 0)).run before).1 = .ok (.object 0) ∧
    s.Contains 0 0 ∧ .fault .endless ∈ s.template 0 ∧
    (s.compile .defaults 0).result = .error .endless := by
  intro calls before s
  have exported : Store.empty.ExportedInTurn calls :=
    .plain trivial (by decide +kernel) (.plain trivial (by decide +kernel) .nil)
  have assembled : s.Assembled := Store.Assembled.empty.called exported
  have taken : (outcome (Assembly.append 0 (.object 0)).run before).1 = .ok (.object 0) := by rfl
  have contains : s.Contains 0 0 := ⟨.statement [0], rfl, List.mem_cons_self⟩
  have endless : .fault .endless ∈ s.template 0 := by
    have template : s.template 0 = [.joining, .fault .endless, .joined] := by rfl
    rw [template]
    exact List.mem_cons_of_mem _ List.mem_cons_self
  have failed : (s.compile .defaults 0).result = .error .endless := by rfl
  exact ⟨exported, assembled, taken, contains, endless, failed⟩

/-- Objects have been assembled by calls that hand no object to itself or to anything that is in it.
Then nothing contains itself, directly or through others. An object is never met inside of itself
when it is written, whatever the names are, and compiling it ends in a query or in another fault. -/
theorem nothing_contains_itself {s : Store} (assembled : s.AssembledApart) :
    (∀ g, ¬ TransGen s.Contains g g) ∧
    ∀ h o, s.get? h = some o →
      .fault .endless ∉ s.template h ∧
      ∀ settings : Settings, settings.IsPlain →
        (s.compile settings h).result ≠ .error .endless := by
  have noCircle := assembled.acyclic
  refine ⟨noCircle, fun h o found => ?_⟩
  have whole := assembled.assembled
  have ends : (s.tree h).Ends := Store.ends_tree whole.sound whole.isComplete
    (fun g _ => noCircle g) (Store.lt_of_get? found)
  have noFault : .fault .endless ∉ s.template h := by
    rwa [Store.template, ← Template.mem_faults, Tree.faults_template]
  refine ⟨noFault, fun settings plain failed => ?_⟩
  have isWritten : ∀ field, (Wording.ofValue s.view (settings.value field)).IsWritten := by
    intro field
    obtain ⟨a, mark, eq⟩ := plain field
    rw [eq]
    exact Wording.isWritten_atom s.view a mark
  have worded : (s.freshEnvironment settings).Worded Wording.IsWritten :=
    ⟨fun kind => isWritten (.ofKind kind), fun _ mem => absurd mem List.not_mem_nil⟩
  unfold Store.compile at failed
  dsimp only at failed
  cases fault : (s.write h (s.freshEnvironment settings)).fault? with
  | none =>
    -- What has been written is put together, and that fails for other reasons only.
    rw [fault] at failed
    change Store.query _ _ _ = _ at failed
    unfold Store.query at failed
    split at failed <;> cases failed
  | some f =>
    rw [fault] at failed
    cases failed
    rcases Template.fill_faults worded (isWritten .separator) fault with inside | isOfClass
    · exact noFault inside
    · cases isOfClass

/-- A clause is taken twice by a statement that is made later. -/
theorem nothing_contains_itself_twice :
    let calls : List Construction := [.node .null none, .read false (.bool false) [.object 0],
      .build 2 (.project .returning [.object 0] (.bool false)), .statement [],
      .append 3 (.object 2), .append 3 (.object 2)]
    let s := Store.empty.called calls
    s.AssembledApart ∧ (∀ g, ¬ TransGen s.Contains g g) ∧ (s.get? 3).isSome = true ∧
    .fault .endless ∉ s.template 3 ∧ (s.compile .defaults 3).result ≠ .error .endless ∧
    (s.compile .defaults 3).result.toOption.map CompiledQuery.text =
      some "MATCH (this0)\nRETURN this0\nMATCH (this0)\nRETURN this0" := by
  intro calls s
  have step {t : Store} {c : Construction} (before : t.AssembledApart) (exported : c.IsExported t)
      (plain : c.arguments.all t.isPlain = true) (layered : t.isLayered = true)
      (older : ∀ h, c.receiver? = some h → (c.handed t).all (Value.isBefore h) = true) :
      Store.AssembledApart (outcome c.perform.run t).2 :=
    .call before ⟨exported, Store.knowsWithin_of_isPlain plain⟩
      (Construction.keepsApart_of_isLayered layered older)
  have assembled : s.AssembledApart := by
    refine step (step (step (step (step (step .empty trivial rfl rfl ?_) trivial rfl rfl ?_)
      trivial rfl rfl ?_) trivial rfl rfl ?_) trivial rfl rfl ?_) trivial rfl rfl ?_
    all_goals rintro _ ⟨⟩
    all_goals rfl
  have there : (s.get? 3).isSome = true := by decide +kernel
  have text : (s.compile .defaults 3).result.toOption.map CompiledQuery.text =
      some "MATCH (this0)\nRETURN this0\nMATCH (this0)\nRETURN this0" := by decide +kernel
  have plain : Settings.defaults.IsPlain := Settings.defaults_isPlain
  -- From here on it does not matter what is in the store.
  clear_value s
  obtain ⟨o, found⟩ := Option.isSome_iff_exists.mp there
  obtain ⟨noCircle, written⟩ := nothing_contains_itself assembled
  obtain ⟨noFault, compiled⟩ := written 3 o found
  exact ⟨assembled, noCircle, there, noFault, compiled _ plain, text⟩

end GraphQuery
