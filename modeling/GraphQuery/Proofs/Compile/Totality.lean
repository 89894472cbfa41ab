import GraphQuery.Proofs.Assembly.Conformance
import GraphQuery.Proofs.Compile.Grammar
import GraphQuery.Proofs.Store.Containment

/-!
Compiling what the library has assembled for strict callers never fails.

Nothing is stuck in a query that does not contain itself, so its template holds no fault. Where the
separator and all stems are texts, such a template is written to its end, what was written is
accepted as a text, and so are the keys of the parameters.

* `Settings.IsTextual`: the configured stems and the separator are texts.
* `Template.acceptText_value`: what was written with names that are texts is accepted as a text.
* `Store.exists_compiled`: what was written without a fault is put together to a query.
* `conforming_compiles`: a clause, a statement or a union compiles.
-/

namespace GraphQuery

/-- The configured stems and the separator are texts. -/
structure Settings.IsTextual (settings : Settings) : Prop where
  stems : ∀ kind, (settings.value (.ofKind kind)).text?.isSome
  separator : (settings.value .separator).text?.isSome

/-- The settings in which no field is given are texts. -/
theorem Settings.defaults_isTextual : defaults.IsTextual :=
  ⟨fun kind => by cases kind <;> rfl, rfl⟩

/-! ### What is written is accepted -/

section Filling

variable {pen : Pen Environment}

/-- A label that is written as a value of its own is a text. -/
theorem Segment.write_labels (worded : pen.env.Worded Wording.IsText) (segment : Segment) :
    ∀ b given s, .label b given s ∈ (segment.write pen).pieces → given.IsText := by
  have stemmed : ∀ (suggested : Option Name) kind, (pen.env.stemFor suggested kind).IsText :=
    fun _ => worded.stemFor fun n _ => Wording.isText_ofName n
  intro b' given s' mem
  cases segment with
  | label b =>
    obtain ⟨name, answered, isText⟩ := worded.exists_answer .label b.id (stemmed b.stem b.kind) none
    obtain ⟨s, written⟩ := isText.exists_written
    change (Registry.labelFor pen.env b).answer = .ok name at answered
    rw [write, Pen.take_of_answer answered] at mem
    simp only [Pen.run, written] at mem
    cases List.mem_singleton.mp mem
    exact isText
  | item b =>
    obtain ⟨name, answered, isText⟩ := worded.exists_answer .label b.id (stemmed b.stem b.kind) none
    obtain ⟨s, word⟩ := isText.exists_word
    change (Registry.labelFor pen.env b).answer = .ok name at answered
    rw [write, Pen.take_of_answer answered] at mem
    simp only [word] at mem
    cases List.mem_singleton.mp mem
    exact isText
  | key p =>
    obtain ⟨name, answered, isText⟩ :=
      worded.exists_answer .key p.id (stemmed p.stem .param) (some p.value)
    obtain ⟨s, written⟩ := isText.exists_written
    change (Registry.keyFor pen.env p).answer = .ok name at answered
    rw [write, Pen.take_of_answer answered] at mem
    simp only [Pen.run, written] at mem
    cases List.mem_singleton.mp mem
  | formed | joining | joined | blank | blankItem | closeList =>
    simp only [write] at mem
    split at mem <;> simp [Pen.rest, Pen.put, Pen.fail] at mem
  | text _ | separator | joint | openList | union _ _ | fault _ =>
    simp [write, Pen.rest, Pen.put, Pen.fail] at mem

theorem Template.fill_labels (worded : pen.env.Worded Wording.IsText) (t : Template) :
    ∀ b given s, .label b given s ∈ (t.fill pen).pieces → given.IsText := by
  induction t generalizing pen with
  | nil => exact fun _ _ _ mem => absurd mem List.not_mem_nil
  | cons segment rest ih =>
    have first := Segment.write_labels worded segment
    have worded : (segment.write pen).pen.env.Worded Wording.IsText :=
      Segment.write_worded Environment.numbered_isText worded
        (segment.suggests_of_forall Wording.isText_ofName)
    simp only [fill]
    split
    · exact first
    · intro b given s mem
      rcases List.mem_append.mp mem with mem | mem
      · exact first b given s mem
      · exact ih worded b given s mem

/-- What was written with names that are texts is accepted as a text. -/
theorem Template.acceptText_value (worded : pen.env.Worded Wording.IsText) (t : Template) :
    ∃ s, acceptText (t.fill pen).value = .ok s := by
  have labels := fill_labels worded t
  unfold Writing.value
  split
  · rename_i b given s pieces
    have isText : given.IsText := labels b given s (by simp [pieces])
    split
    · obtain ⟨word, eq⟩ := isText.exists_word
      exact ⟨word, acceptText_of_text? (by rw [Wording.handed_text?, eq])⟩
    · exact ⟨s, rfl⟩
  · exact ⟨"", by decide +kernel⟩
  · exact ⟨_, rfl⟩

end Filling

/-- Where all stems are texts, what is written without a fault is put together to a query. -/
theorem Store.exists_compiled {s : Store} {h : Nat} {settings : Settings}
    (stems : ∀ kind, (settings.value (.ofKind kind)).text?.isSome)
    (written : (s.write h (s.freshEnvironment settings)).fault? = none) :
    ∃ q, (s.compile settings h).result = .ok q := by
  have worded : (s.freshEnvironment settings).Worded Wording.IsText :=
    Environment.worded_blank stems s.view 0
  generalize fresh : s.freshEnvironment settings = e at worded written
  have blank : ({ env := e, lists := [] } : Pen Environment).env.Worded Wording.IsText := worded
  obtain ⟨text, accepted⟩ := Template.acceptText_value blank (s.template h)
  change acceptText (s.write h e).value = .ok text at accepted
  have keys : keyIssues s.view (s.write h e).pen.env.params = [] := by
    refine Environment.Worded.keyIssues_eq ?_ s.view
    exact Template.fill_worded Environment.numbered_isText worded fun segment _ =>
      segment.suggests_of_forall Wording.isText_ofName
  refine ⟨⟨text, textKeyed s.view (s.write h e).pen.env.params⟩, ?_⟩
  simp only [compile, fresh, written, query, accepted, keys]

/-! ### Conforming queries compile -/

/-- A clause, a statement or a union that the library has assembled for strict callers, and that
does not contain itself, is written without a fault and compiles to a query under all settings whose
stems and separator are texts. -/
theorem conforming_compiles {s : Store} (conforming : s.Conforming) {h : Nat}
    (query : s.IsQuery h) (acyclic : s.IsAcyclic h) {settings : Settings}
    (textual : settings.IsTextual) :
    (s.write h (s.freshEnvironment settings)).fault? = none ∧
      ∃ q, (s.compile settings h).result = .ok q := by
  have worded : (s.freshEnvironment settings).Worded Wording.IsText :=
    Environment.worded_blank textual.stems s.view 0
  have separator : (s.freshEnvironment settings).separator.IsText :=
    Wording.isText_ofValue s.view textual.separator
  generalize fresh : s.freshEnvironment settings = e at worded separator
  have whole : (s.tree h).isWhole = true :=
    Store.isWhole_tree conforming.assembled.sound conforming.typed query.stands acyclic
  have noFault : ∀ f, .fault f ∉ s.template h := by
    rw [← Template.isSound_iff, Store.template, Tree.isSound_template, whole]
  have blank : ({ env := e, lists := [] } : Pen Environment).env.Worded Wording.IsText := worded
  have written : (s.write h e).fault? = none :=
    Template.fill_ok blank separator (fun _ mem => absurd mem List.not_mem_nil) noFault
  obtain ⟨text, accepted⟩ := Template.acceptText_value blank (s.template h)
  have keys : Store.keyIssues s.view (s.write h e).pen.env.params = [] := by
    refine Environment.Worded.keyIssues_eq ?_ s.view
    exact Template.fill_worded Environment.numbered_isText worded fun segment _ =>
      segment.suggests_of_forall Wording.isText_ofName
  refine ⟨written, ⟨text, Store.textKeyed s.view (s.write h e).pen.env.params⟩, ?_⟩
  change acceptText (s.write h e).value = .ok text at accepted
  simp only [Store.compile, fresh, written, Store.query, accepted, keys]

/-- A pattern whose relationship is given another type, a filter, and a column with a name of its
own, in a statement. -/
theorem conforming_compiles_statement :
    let calls : List Construction := [.node .null none, .relationship .null .null,
      .pattern (.object 0) .null .null,
      .related (.object 2) (.object 1) (.text "KNOWS") .null (.direction .left),
      .close (.object 3) (.object 0) .null .null, .property (.object 0) [.text "age"],
      .comparison ">" (.object 5) (.int 30), .read false (.bool false) [.object 4],
      .build 8 (.restrict (.object 7)), .build 8 (.project .returning [.object 0] (.bool false)),
      .statement [.object 8]]
    let s := Store.empty.called calls
    s.Conforming ∧ s.IsQuery 9 ∧ s.IsAcyclic 9 ∧ Settings.defaults.IsTextual ∧
    (∃ q, (s.compile .defaults 9).result = .ok q) ∧
    (s.compile .defaults 9).result.toOption.map CompiledQuery.text =
      some "MATCH (this0)<-[this1:KNOWS]-(this0)\nWHERE this0.age > $param2\nRETURN this0" := by
  intro calls s
  have plain {t : Store} {vs : List Value} (h : vs.all t.isPlain = true) :
      ∀ v ∈ vs, t.KnowsWithin v := Store.knowsWithin_of_isPlain h
  have conforming : s.Conforming := by
    refine .call (.call (.call (.call (.call (.call (.call (.call (.call (.call (.call .empty
      ⟨trivial, plain rfl⟩ trivial) ⟨trivial, plain rfl⟩ trivial) ⟨trivial, plain rfl⟩ trivial)
      ⟨trivial, plain rfl⟩ (.inr ⟨_, rfl⟩)) ⟨trivial, ?chain⟩ trivial)
      ⟨trivial, plain rfl⟩ ⟨_, rfl⟩) ⟨(by decide : ">" ∈ comparisonOperators), plain rfl⟩ trivial)
      ⟨trivial, plain rfl⟩ trivial) ⟨trivial, plain rfl⟩ trivial) ⟨trivial, plain rfl⟩ trivial)
      ⟨trivial, plain rfl⟩ trivial
    -- An open chain cannot stand in a query, but it is no collection either.
    exact List.forall_mem_cons.mpr ⟨Store.knowsWithin_of_any rfl, plain rfl⟩
  have isQuery : (s.get? 9).any Object.isQuery = true := by decide +kernel
  have layered : s.isLayered = true := by decide +kernel
  have text : (s.compile .defaults 9).result.toOption.map CompiledQuery.text =
      some "MATCH (this0)<-[this1:KNOWS]-(this0)\nWHERE this0.age > $param2\nRETURN this0" := by
    decide +kernel
  have textual : Settings.defaults.IsTextual := Settings.defaults_isTextual
  -- From here on it does not matter what is in the store.
  clear_value s
  obtain ⟨o, found, isQuery⟩ := (Option.any_eq_true _ _).mp isQuery
  have query : s.IsQuery 9 := ⟨o, found, isQuery⟩
  have acyclic : s.IsAcyclic 9 := Store.isAcyclic_of_isLayered layered 9
  exact ⟨conforming, query, acyclic, textual,
    (conforming_compiles conforming query acyclic textual).2, text⟩

end GraphQuery
