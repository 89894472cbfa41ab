import GraphQuery.Proofs.Assembly.Sources
import GraphQuery.Proofs.Compile.Likeness
import GraphQuery.Proofs.Store.Locality

/-!
Builder calls leave everything alone but their own object and what it is in.

Clauses share patterns, predicates and parameters, and statements share clauses. A builder call, a
further node and a change of the keyword of a union put another object in the place of one. All
other objects stay, so whatever does not contain that one is written and compiled as before, whether
or not the call succeeds.

* `Store.Changes.tree_eq`: an object that is apart from the changed one has the tree that it had.
* `Store.query_eq`: what is put together of a text and parameters does not depend on the objects.
* `builders_act_locally`: what this comes to for the calls of the library.
-/

namespace GraphQuery

/-! ### Trees that stay -/

namespace Store

variable {s t : Store} {h g : Nat} {given : Nat → Prop}

/-- An object that is apart from the one that may have changed has the tree that it had. -/
theorem Changes.tree_eq {R : Value → Value → Prop} {strict : Prop} (changes : s.Changes given h t)
    (like : s.Alike R s) (typed : s.Typed strict) (unassigned : t.assignments = [])
    (complete : s.IsComplete) (apart : s.Apart h g) : t.tree g = s.tree g := by
  rw [← valueTree_object, ← valueTree_object]
  refine treeFrom_of_kept changes.grows like typed unassigned List.nodup_range List.nodup_range
    (fun i (apart : s.Apart h i) => ?_) (fun i apart _ => ⟨?_, ?_⟩) apart
  · rw [List.mem_range, List.mem_range]
    exact iff_of_true (Nat.lt_of_lt_of_le apart.lt changes.grows.next_le) apart.lt
  · exact changes.get?_eq apart.lt apart.ne
  · exact fun g contains => apart.of_contains complete contains

/-- Where all keys are literals, the query that is put together does not depend on the objects. -/
theorem query_eq (view view' : ObjectView) (text : Value) {params : List (Value × Value)}
    (atoms : ∀ entry ∈ params, ∃ a mark, entry.1 = .atom a mark) :
    query view' text params = query view text params := by
  have alike : List.Forall₂ (EntryAlike Eq) params params :=
    List.forall₂_same.mpr fun entry mem => ⟨rfl, atoms entry mem, rfl⟩
  have keyed : textKeyed view' params = textKeyed view params := by
    refine (List.forall₂_eq_eq_eq ▸ (textKeyed_alike view view' alike).imp ?_).symm
    exact fun _ _ same => Prod.ext same.key_eq.symm same.value
  simp only [query, keyIssues_eq view view' alike, keyed]

/-- What a plain build makes of an object depends on its tree alone. -/
theorem compile_eq_of_tree_eq {settings : Settings} (plain : settings.IsPlain)
    (tree_eq : t.tree g = s.tree g) (class_eq : t.className g = s.className g) :
    t.compile settings g = s.compile settings g := by
  have written : t.write g (t.freshEnvironment settings) =
      s.write g (s.freshEnvironment settings) := by
    rw [write, write, template, template, tree_eq, freshEnvironment_eq plain s t]
  have keys := s.params_isAtom plain g
  have logs : (settings.value .logText).truth t.view = (settings.value .logText).truth s.view := by
    obtain ⟨a, mark, eq⟩ := plain .logText
    rw [eq]
    rfl
  unfold compile
  simp only [written, compiledEvent, class_eq, logs, query_eq s.view t.view _ keys]

end Store

/-! ### Calls of the library -/

/-- A builder is called on a clause, a node is appended to a statement, or a union is told whether
to keep duplicates. Whether or not that succeeds, all other objects stay. Whatever the object of the
call is not in is written with the same names to the same text and parameters as before, and a build
of it, in a fresh environment, comes to the same. -/
theorem builders_act_locally {s : Store} (assembled : s.Assembled) {c : Construction}
    (exported : c.Exported s) {h : Nat} (receiver : c.receiver? = some h) :
    let t := (outcome c.perform.run s).2
    (∀ i, i < s.next → i ≠ h → t.get? i = s.get? i) ∧
    ∀ g, s.Apart h g →
      (∀ {σ : Type} [Registry σ] (e : σ), t.write g e = s.write g e) ∧
      ∀ settings : Settings, settings.IsPlain →
        t.write g (t.freshEnvironment settings) = s.write g (s.freshEnvironment settings) ∧
        t.compile settings g = s.compile settings g := by
  intro t
  have changes := Store.changes_perform assembled.typed exported receiver
  have later : t.Assembled := .call assembled exported
  refine ⟨fun i lt other => changes.get?_eq lt other, fun g apart => ?_⟩
  have tree_eq : t.tree g = s.tree g := changes.tree_eq assembled.sound assembled.typed
    later.typed.unassigned assembled.isComplete apart
  have write_eq {σ : Type} [Registry σ] (e : σ) : t.write g e = s.write g e := by
    rw [Store.write, Store.write, Store.template, Store.template, tree_eq]
  refine ⟨write_eq, fun settings plain => ⟨?_, ?_⟩⟩
  · rw [Store.freshEnvironment_eq plain s t, write_eq]
  · refine Store.compile_eq_of_tree_eq plain tree_eq ?_
    rw [Store.className, Store.className, changes.get?_eq apart.lt apart.ne]

/-- Two clauses share a node and a predicate, and one of them is filtered once more. -/
theorem builders_act_locally_shared :
    let calls : List Construction := [.node .null none, .property (.object 0) [.text "age"],
      .comparison ">" (.object 1) (.int 30), .read false (.bool false) [.object 0],
      .build 5 (.restrict (.object 3)), .read false (.bool false) [.object 0],
      .build 7 (.restrict (.object 3))]
    let s := Store.empty.called calls
    let c : Construction := .build 7 (.restrict (.object 3))
    let t := (outcome c.perform.run s).2
    s.Assembled ∧ c.Exported s ∧ c.receiver? = some 7 ∧ s.Apart 7 5 ∧
    t.compile .defaults 5 = s.compile .defaults 5 ∧
    (t.compile .defaults 5).result.toOption.map CompiledQuery.text =
      some "MATCH (this0)\nWHERE this0.age > $param1" ∧
    (t.compile .defaults 7).result.toOption.map CompiledQuery.text =
      some "MATCH (this0)\nWHERE this0.age > $param1 AND this0.age > $param1" := by
  intro calls s c t
  have inTurn : Store.empty.ExportedInTurn calls := by
    refine .plain trivial rfl (.plain trivial rfl (.plain ?operator rfl (.plain trivial rfl
      (.plain trivial rfl (.plain trivial rfl (.plain trivial rfl .nil))))))
    exact (by decide : ">" ∈ comparisonOperators)
  have assembled : s.Assembled := Store.Assembled.empty.called inTurn
  have exported : c.Exported s := ⟨trivial, Store.knowsWithin_of_isPlain rfl⟩
  have layered : s.isLayered = true := by decide +kernel
  have there : 5 < s.next := by decide +kernel
  have before : (s.compile .defaults 5).result.toOption.map CompiledQuery.text =
      some "MATCH (this0)\nWHERE this0.age > $param1" := by decide +kernel
  have after : (t.compile .defaults 7).result.toOption.map CompiledQuery.text =
      some "MATCH (this0)\nWHERE this0.age > $param1 AND this0.age > $param1" := by decide +kernel
  have plain : Settings.defaults.IsPlain := Settings.defaults_isPlain
  -- From here on it does not matter what is in the store.
  clear_value s
  have apart : s.Apart 7 5 := ⟨there, Store.not_reaches_of_isLayered layered (by decide)⟩
  obtain ⟨-, others⟩ := builders_act_locally assembled exported rfl
  have same : t.compile .defaults 5 = s.compile .defaults 5 := ((others 5 apart).2 _ plain).2
  exact ⟨assembled, exported, rfl, apart, same, same ▸ before, after⟩

end GraphQuery
