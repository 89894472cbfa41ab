import GraphQuery.Proofs.Assembly.Run
import GraphQuery.Proofs.Compile.Likeness
import GraphQuery.Proofs.Store.Tree

/-!
Literals never get into the text of a query.

Two runs that make the same calls with different literals leave stores that are alike, so their
objects have like trees and are compiled alike.

* `Store.Alike.compile`: compiling in like stores.
* `text_free_of_literals`: what this comes to for two runs from the start.
-/

namespace GraphQuery

/-! ### Like stores -/

namespace Store.Alike

variable {R : Value → Value → Prop} {s s' : Store}

/-- In like stores, what can stand in a query is of one class. -/
theorem className_eq (like : s.Alike R s') {h : Nat}
    (stands : ∀ o, s.get? h = some o → o.isData = false) : s'.className h = s.className h := by
  unfold Store.className
  rcases like.get?_cases h with ⟨absent, absent'⟩ | ⟨o, o', found, found', alike⟩
  · rw [absent, absent']
  · rw [found, found']
    cases alike with
    | clause c => exact c.head.className_eq
    | data isData _ =>
      rw [stands o found] at isData
      cases isData
    | _ => rfl

/-- What is no part of a query is not written. -/
theorem isData_eq_false (like : s.Alike R s') {h : Nat} {e : Environment}
    (ok : (s.write h e).fault? = none) {o : Object} (found : s.get? h = some o) :
    o.isData = false := by
  by_contra data
  have lt : h < s.next := lt_of_get? found
  have tree : s.tree h = .stuck [] .missing := by
    obtain ⟨depth, eq⟩ := Nat.exists_eq_add_one.mpr (Nat.zero_lt_of_lt lt)
    unfold Store.tree
    rw [eq]
    unfold Store.treeWithin
    rw [← eq, if_pos (by simpa using lt), hasAssigned_eq_false like.unassigned,
      isLacking_eq_false like.unassigned, found]
    cases o <;> first | rfl | simp [Object.isData] at data
  have template : s.template h = [.fault .missing] := by
    unfold Store.template
    rw [tree]
    rfl
  simp [Store.write, template, Template.render, Template.fill, Segment.write, Pen.fail] at ok

/-- Objects are compiled alike in like stores, with the same events. -/
theorem compile (like : s.Alike R s') {settings : Settings} (plain : settings.IsPlain) (h : Nat) :
    (s'.compile settings h).events = (s.compile settings h).events ∧
      CompiledQuery.Alike R (s.compile settings h).result (s'.compile settings h).result := by
  have trees := like.tree h
  refine ⟨compile_events_eq trees plain fun ok => ?_, compile_alike trees plain⟩
  exact like.className_eq fun _ => like.isData_eq_false ok

end Store.Alike

/-- Two runs make the same calls with different literals; `R` tells which literals stand in the
places of each other. Then the same calls succeed. Under plain settings, compiling any object that
they have made tells of the same events, the number of names among them. It gives queries of one
text with the same keys in the same order, whose values are literals in the places of each other; or
it fails with one fault. -/
theorem text_free_of_literals {R : Value → Value → Prop} {acts acts' : List Act}
    (alike : Act.RunsAlike R .empty .empty acts acts') {settings : Settings}
    (plain : settings.IsPlain) (h : Nat) :
    List.Forall₂ (Answers Eq) (Store.empty.replies acts) (Store.empty.replies acts') ∧
    ((Store.empty.after acts').compile settings h).events =
      ((Store.empty.after acts).compile settings h).events ∧
    CompiledQuery.Alike R ((Store.empty.after acts).compile settings h).result
      ((Store.empty.after acts').compile settings h).result := by
  have together := together_run (Store.alike_empty R) alike
  exact ⟨together.results, together.alike.compile plain h⟩

/-- A clause that matches a node by its title, for one title and for another that would end a
literal in the text. -/
theorem text_free_of_literals_title :
    let acts (title : Value) : List Act := [.call (.node .null none),
      .call (.propertyOf (.object 0) [.text "title"]),
      .call (.comparison "=" (.object 1) title),
      .call (.read false (.bool false) [.object 0]),
      .call (.build 5 (.restrict (.object 3)))]
    let R (v v' : Value) : Prop := v = .text "Heat" ∧ v' = .text "' OR true //"
    CompiledQuery.Alike R
      ((Store.empty.after (acts (.text "Heat"))).compile .defaults 5).result
      ((Store.empty.after (acts (.text "' OR true //"))).compile .defaults 5).result := by
  intro acts R
  have noObject : ∀ (s : Store) (a : Atom) (mark : Nat), ¬ s.Stands (.atom a mark) := by
    rintro s a mark ⟨o, found, -⟩
    cases found
  have literal : ∀ s s' : Store, Operand R s s' (.text "Heat") (.text "' OR true //") := fun s s' =>
    .literal (s.knows_atom _ _) (s'.knows_atom _ _) (noObject s _ _) (noObject s' _ _) ⟨rfl, rfl⟩
  have alike : Act.RunsAlike R .empty .empty (acts (.text "Heat"))
      (acts (.text "' OR true //")) := by
    refine .cons (.call (.node fun v eq => by cases eq)) ?_
    refine .cons (.call .propertyOf) ?_
    refine .cons (.call (.comparison (by decide) (.standing ⟨_, rfl, rfl⟩) (literal _ _))) ?_
    refine .cons (.call (.read (.atom _ _ _ _))) ?_
    exact .cons (.call (.build (.restrict (.standing ⟨_, rfl, rfl⟩)))) .nil
  exact (text_free_of_literals alike Settings.defaults_isPlain 5).2.2

end GraphQuery
