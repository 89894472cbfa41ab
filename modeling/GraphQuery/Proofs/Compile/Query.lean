import GraphQuery.Proofs.Assembly.Conformance
import GraphQuery.Proofs.Compile.Grammar
import GraphQuery.Proofs.Store.Containment
import GraphQuery.Proofs.Store.Locality

/-!
Writing clauses, statements and unions.

All names are texts, and so is the separator. A query in which nothing is stuck is answered as a
text, which is what its tree shows under the names that are known in the end, and these are the
names that the tree asks for. An environment that knows all of them is left alone.

* `Store.Assembled.write_query`: what is written of a query, and the environment afterwards.
* `Store.Assembled.write_known`: a query that is written where all of its names are known.
* `Store.Assembled.compile_query`: what a query is compiled to.
-/

namespace GraphQuery

namespace Store

variable {s : Store} {h : Nat} {e : Environment} {sep : String}

/-- Nothing is stuck in a query of documented calls that does not contain itself. -/
theorem Conforming.isWhole (conforming : s.Conforming) (query : s.IsQuery h)
    (acyclic : s.IsAcyclic h) : (s.tree h).isWhole = true :=
  isWhole_tree conforming.assembled.sound conforming.typed query.stands acyclic

/-- What has a text has been compiled. -/
theorem exists_of_compiled_text {settings : Settings} {text : String}
    (compiled : (s.compile settings h).result.toOption.map CompiledQuery.text = some text) :
    ∃ q, (s.compile settings h).result = .ok q ∧ q.text = text := by
  cases result : (s.compile settings h).result with
  | error f => simp [result, Except.toOption] at compiled
  | ok q =>
    rw [result] at compiled
    exact ⟨q, rfl, Option.some_inj.mp compiled⟩

/-- A text and parameters whose keys are accepted are put together. -/
theorem query_of_accepted {view : ObjectView} {text : Value} {t : String}
    {params : List (Value × Value)} (accepted : acceptText text = .ok t)
    (keys : keyIssues view params = []) :
    query view text params = .ok ⟨t, textKeyed view params⟩ := by
  simp only [query, accepted, keys]

namespace Assembled

variable (assembled : s.Assembled) (textual : e.IsTextual sep)
include assembled textual

/-- Something in which nothing is stuck is written by putting the questions of its template. -/
theorem write_after (whole : (s.tree h).isWhole = true) :
    (s.write h e).pen.env = e.after (s.template h).asks := by
  have ok : (Template.fill ⟨e, []⟩ (s.template h)).fault? = none :=
    (write_shown textual).1.mpr whole
  have tidy : Template.Tidy s.grounds (s.template h) :=
    (assembled.sound.tree_clean h).template.tidy
  exact Template.fill_after (fun segment mem => (tidy.of_mem ok segment mem).references) ok

/-- A query in which nothing is stuck is answered as the text that it shows in the end. -/
theorem write_query (query : s.IsQuery h) (whole : (s.tree h).isWhole = true) :
    (s.write h e).answer = .ok (.text ((s.template h).shown (s.write h e).pen.env)) := by
  have ok : (s.write h e).fault? = none := (write_shown textual).1.mpr whole
  have isQuery := isQuery_tree assembled.typed query whole
  have value : (s.write h e).value = .text (s.write h e).text :=
    Tree.value_of_isQuery textual isQuery ok
  rw [Writing.answer, ok]
  exact congrArg Except.ok (value.trans (congrArg _ ((write_shown textual).2 whole)))

/-- Where all names of a query are known, it is answered as the text that it shows, and nothing else
happens. -/
theorem write_known (query : s.IsQuery h) (whole : (s.tree h).isWhole = true)
    (known : e.Answers (s.template h).asks) :
    (s.write h e).answer = .ok (.text ((s.template h).shown e)) ∧ (s.write h e).pen.env = e := by
  have env : (s.write h e).pen.env = e := by
    rw [assembled.write_after textual whole, known.after_eq]
  have answer := assembled.write_query textual query whole
  rw [env] at answer
  exact ⟨answer, env⟩

/-- A statement asks for the names of its nodes, one node after another. -/
theorem write_statement {nodes : List Nat} (found : s.get? h = some (.statement nodes))
    (whole : (s.tree h).isWhole = true) :
    (s.write h e).pen.env = e.after (nodes.flatMap fun g => (s.template g).asks) := by
  have areQueries : ∀ g ∈ nodes, s.IsQuery g := assembled.typed.objects found
  have queries := isQuery_trees assembled.typed areQueries
    ((isWhole_statement_iff assembled.sound found).mp whole)
  have tree := (statement_coincides assembled.sound found).eq whole
  rw [assembled.write_after textual whole, template, ← tree, Tree.asks_statement queries,
    List.flatMap_map]
  rfl

omit assembled in
/-- What was written stays the same under names that are given later. -/
theorem shown_later (ok : (s.write h e).fault? = none) {e' : Environment}
    (ext : (s.write h e).pen.env.Extends e') :
    (s.template h).shown e' = (s.template h).shown (s.write h e).pen.env := by
  have blank : (Pen.mk e []).env.IsTextual sep := textual
  have text : ∀ e', (s.write h e).pen.env.Extends e' →
      (s.write h e).text = (s.template h).shown e' :=
    (Template.fill_shown blank (fun _ mem => absurd mem List.not_mem_nil)
      (Template.not_mem_of_fill_ok ok)).2
  exact (text e' ext).symm.trans (text _ (.refl _))

omit textual in
/-- A query is compiled to the text that it shows in the end, with the values of the parameters that
it asks for under the texts of their keys. -/
theorem compile_query {settings : Settings}
    (textual : (s.freshEnvironment settings).IsTextual sep) (isQuery : s.IsQuery h)
    (whole : (s.tree h).isWhole = true) :
    let e' := (s.write h (s.freshEnvironment settings)).pen.env
    (s.compile settings h).result = .ok ⟨(s.template h).shown e',
      e'.params.map fun entry => (.text (entry.1.text?.getD ""), entry.2)⟩ := by
  intro e'
  have ok : (s.write h (s.freshEnvironment settings)).fault? = none :=
    (write_shown textual).1.mpr whole
  have value : (s.write h (s.freshEnvironment settings)).value =
      .text ((s.template h).shown e') := by
    have answer := assembled.write_query textual isQuery whole
    rw [Writing.answer, ok] at answer
    exact Except.ok.inj answer
  have later : e'.IsTextual sep := textual.render (s.template h)
  have accounts : e'.Accounts (Ask.firsts (s.template h).asks) := by
    have env : e' = (s.freshEnvironment settings).after (s.template h).asks :=
      assembled.write_after textual whole
    rw [env]
    exact (textual.worded.accounts rfl).after _
  have accepted : acceptText (.text ((s.template h).shown e')) = .ok ((s.template h).shown e') :=
    acceptText_of_text? rfl
  have keys : keyIssues s.view e'.params = [] := later.worded.keyIssues_eq s.view
  have texts : textKeyed s.view e'.params =
      e'.params.map fun entry => (.text (entry.1.text?.getD ""), entry.2) :=
    textKeyed_eq s.view (fun _ mem => accounts.exists_text mem) accounts.params_nodup
  simp only [compile, ok, value]
  rw [query_of_accepted accepted keys, texts]

end Assembled

end Store

end GraphQuery
