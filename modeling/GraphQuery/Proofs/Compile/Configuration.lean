import GraphQuery.Proofs.Compile.Query
import GraphQuery.Proofs.Rendering.Outline
import GraphQuery.Proofs.Rendering.Spelling

/-!
What is configured shows in nothing but the names and the separator.

How names are formed and how clauses are put apart is up to whoever makes an environment. None of it
has a say in what is written and in which order names are given: that is an outline which the query
has by itself, and the configuration fills its holes.

* `Naming.IsTextual`: names are made of texts, and clauses are put apart by a given one.
* `configuration_fills_outline`: what is written of a query is its outline, filled in.
-/

namespace GraphQuery

/-- All stems are texts, and clauses are put apart by a given text. -/
structure Naming.IsTextual (n : Naming) (sep : String) : Prop where
  stems : ∀ kind, (n.stems kind).text?.isSome
  separator : ∃ mark, n.separator = .atom (.text sep) mark

/-- In a new environment all names are texts. -/
theorem Naming.IsTextual.environment {n : Naming} {sep : String} (textual : n.IsTextual sep)
    (view : ObjectView) (mark : Nat) : (n.environment view (.blank mark)).IsTextual sep where
  worded := Environment.worded_blank textual.stems view mark
  separator_eq := by
    obtain ⟨_, eq⟩ := textual.separator
    change Wording.ofValue view n.separator = _
    rw [eq]
    rfl

/-- Every query of documented calls that does not contain itself has one outline, and what an
environment is configured with does nothing but fill it in. Whatever texts the stems and the
separator of a new environment are, and whether or not the first name is the bare stem, the query is
answered as the outline, filled in with these stems and this separator, as long as no name has been
passed over. Then as many numbers are used up as the outline has names, and the values of the
parameters are those of the outline, in their order, under the keys that their holes are filled
with. -/
theorem configuration_fills_outline {s : Store} (conforming : s.Conforming) {h : Nat}
    (query : s.IsQuery h) (acyclic : s.IsAcyclic h) :
    ∃ o : Outline, ∀ (n : Naming) (sep : String) (view : ObjectView) (mark : Nat),
      n.IsTextual sep →
      let e := n.environment view (.blank mark)
      let w := s.write h e
      (∀ identifier index, .collision identifier index ∉ w.events) →
      w.answer = .ok (.text (o.filled e)) ∧ w.pen.env.size = o.size ∧
      w.pen.env.params = o.filledParams e := by
  have assembled := conforming.assembled
  have whole : (s.tree h).isWhole = true := conforming.isWhole query acyclic
  refine ⟨(s.template h).outline, ?_⟩
  intro n sep view mark isTextual e w smooth
  have textual : (Pen.mk e []).env.IsTextual sep := isTextual.environment view mark
  have ok : (Template.fill ⟨e, []⟩ (s.template h)).fault? = none :=
    (Store.write_shown textual).1.mpr whole
  have tidy : Template.Tidy s.grounds (s.template h) :=
    (assembled.sound.tree_clean h).template.tidy
  have segments := tidy.of_mem ok
  have holds := Store.holds_of_mem_asks segments
  obtain ⟨text, size, params⟩ := Template.fill_outline textual rfl rfl
    (fun segment mem => (segments segment mem).references)
    (fun a mem b mem' same => (holds a mem).eq_of_same (holds b mem') same) ok smooth
  refine ⟨?_, size, params⟩
  rw [← text]
  exact assembled.write_query textual query whole

/-- A filtered clause under the defaults, and with other stems, another separator and a first name
without a number. -/
theorem configuration_fills_outline_filter :
    let calls : List Construction := [.node .null none, .propertyOf (.object 0) [.text "age"],
      .comparison ">" (.object 1) (.int 30), .read false (.bool false) [.object 0],
      .build 5 (.restrict (.object 3))]
    let s := Store.empty.called calls
    let n : Naming := Settings.defaults.naming [] none none
    let n' : Naming := ⟨fun _ => .text "x", .bool true, .text " "⟩
    let e := n.environment s.view (.blank 0)
    let e' := n'.environment s.view (.blank 0)
    ∃ o : Outline, o.filled e = "MATCH (this0)\nWHERE this0.age > $param1" ∧
      o.filled e' = "MATCH (x) WHERE x.age > $x1" ∧ o.size = 2 ∧
      (s.write 5 e).pen.env.params = o.filledParams e ∧
      (s.write 5 e').pen.env.params = o.filledParams e' := by
  intro calls s n n' e e'
  have plain {t : Store} {vs : List Value} (h : vs.all t.isPlain = true) :
      ∀ v ∈ vs, t.KnowsWithin v := Store.knowsWithin_of_isPlain h
  have conforming : s.Conforming := by
    refine .call (.call (.call (.call (.call .empty ⟨trivial, plain rfl⟩ trivial)
      ⟨trivial, plain rfl⟩ trivial) ⟨(by decide : ">" ∈ comparisonOperators), plain rfl⟩ trivial)
      ⟨trivial, plain rfl⟩ trivial) ⟨trivial, plain rfl⟩ trivial
  have isQuery : (s.get? 5).any Object.isQuery = true := by decide +kernel
  have layered : s.isLayered = true := by decide +kernel
  have text : (s.write 5 e).answer.toOption.bind Value.text? =
      some "MATCH (this0)\nWHERE this0.age > $param1" := by decide +kernel
  have text' : (s.write 5 e').answer.toOption.bind Value.text? =
      some "MATCH (x) WHERE x.age > $x1" := by decide +kernel
  have quiet : (s.write 5 e).events = [] := List.isEmpty_iff.mp (by decide +kernel)
  have quiet' : (s.write 5 e').events = [] := List.isEmpty_iff.mp (by decide +kernel)
  have size : (s.write 5 e).pen.env.size = 2 := by decide +kernel
  have textual : n.IsTextual "\n" := ⟨fun kind => by cases kind <;> rfl, _, rfl⟩
  have textual' : n'.IsTextual " " := ⟨fun _ => rfl, _, rfl⟩
  -- From here on it does not matter what is in the store.
  clear_value s
  obtain ⟨o, found, isQuery⟩ := (Option.any_eq_true _ _).mp isQuery
  have acyclic : s.IsAcyclic 5 := Store.isAcyclic_of_isLayered layered 5
  obtain ⟨o, fills⟩ := configuration_fills_outline conforming ⟨_, found, isQuery⟩ acyclic
  obtain ⟨answer, size_eq, params⟩ :=
    fills n "\n" s.view 0 textual fun _ _ told => by simp [e, quiet] at told
  obtain ⟨answer', -, params'⟩ :=
    fills n' " " s.view 0 textual' fun _ _ told => by simp [e', quiet'] at told
  refine ⟨o, ?_, ?_, ?_, params, params'⟩
  · exact Option.some_inj.mp (text ▸ answer ▸ rfl)
  · exact Option.some_inj.mp (text' ▸ answer' ▸ rfl)
  · exact size_eq.symm.trans size

end GraphQuery
