import GraphQuery.Proofs.Assembly.Interruption
import GraphQuery.Proofs.Compile.Query
import GraphQuery.Proofs.Compile.Refusals
import GraphQuery.Proofs.Tree.Insertion

/-!
What a clause is compiled to after a builder call that fails half way.

Whatever has been taken over by then is written: the text has a line or a list item more than
before. If nothing has been taken over, then the clause is compiled as before. Even then there may
be a slot more, of which nothing is written.

* `Store.clauseTree_inserts`: a clause with something more in one of its slots.
* `Clause.Interrupted.clauseTree_eq`, `Clause.Interrupted.inserts`: what is written of a clause
  after such a call.
* `failing_calls_keep_what_passed`: what this comes to for the calls of the library.
-/

namespace GraphQuery

open Assembly

/-! ### Something more in a slot -/

/-- The keywords of what is in a slot. -/
def Slot.words : Slot → List String
  | path => []
  | filter => ["WHERE"]
  | assignment => ["SET"]
  | removal => ["REMOVE"]
  | deletion => ["DELETE", "DETACH DELETE"]
  | passing | returning => ["WITH", "RETURN", "ORDER BY", "SKIP", "LIMIT"]

/-- Slots that are not for projections share no keyword with other slots. -/
theorem Slot.words_apart {slot other : Slot} (ne : other ≠ slot)
    (listed : slot = assignment ∨ slot = removal ∨ slot = deletion) :
    ∀ w ∈ other.words, w ∈ Line.words ∧ w ∉ slot.words := by
  rcases listed with rfl | rfl | rfl <;> cases other <;> first | exact absurd rfl ne | decide

/-- What is returned is written at the end. -/
theorem Head.manifest_of_returning {head : Head} (mem : .returning ∈ head.manifest) :
    ∃ before, head.manifest = before ++ [.returning] := by
  cases head with
  | read => exact ⟨[.path, .filter, .assignment, .removal, .deletion, .passing], rfl⟩
  | create => exact ⟨[.path, .assignment], rfl⟩
  | project p => cases kind : p.kind <;> simp [manifest, kind] at mem

/-- What is passed on is written right before what is returned. -/
theorem Head.manifest_of_passing {head : Head} (mem : .passing ∈ head.manifest) :
    ∃ before, head.manifest = before ++ [.passing, .returning] := by
  cases head with
  | read => exact ⟨[.path, .filter, .assignment, .removal, .deletion], rfl⟩
  | create => simp [manifest] at mem
  | project p => cases kind : p.kind <;> simp [manifest, kind] at mem

namespace Tree

theorem keyword_orderingLines {sortItems : List Template} {skip limit : Option Param} {l : Line}
    (mem : l ∈ orderingLines sortItems skip limit) : l.keyword ∈ ["ORDER BY", "SKIP", "LIMIT"] := by
  simp only [orderingLines, List.mem_append, Option.mem_toList, Option.map_eq_some_iff] at mem
  rcases mem with (mem | ⟨p, -, rfl⟩) | ⟨p, -, rfl⟩
  · split at mem
    · cases mem
    · rw [List.mem_singleton.mp mem]
      simp
  · simp
  · simp

end Tree

namespace Store

variable {s : Store} {inner : Value → Tree} {c c' : Clause} {own : List String}

/-- What is in a slot is written on lines with keywords of the slot. -/
theorem keyword_slotTree {slot : Slot} {t : Tree} (found : s.slotTree? inner c slot = some t) :
    ∀ l ∈ t.fragmentLines, l.keyword ∈ slot.words := by
  cases slot with
  | path => cases found
  | filter =>
    obtain ⟨v, -, rfl⟩ := Option.map_eq_some_iff.mp found
    exact List.forall_mem_singleton.mpr (by simp [Slot.words])
  | assignment | removal =>
    simp only [slotTree?] at found
    split at found <;> cases found
    exact List.forall_mem_singleton.mpr (by simp [Slot.words])
  | deletion =>
    simp only [slotTree?] at found
    split at found <;> cases found
    rename_i detach _ _
    exact List.forall_mem_singleton.mpr (by cases detach <;> simp [Slot.words])
  | passing | returning =>
    obtain ⟨p, -, rfl⟩ := Option.map_eq_some_iff.mp found
    have keyword : ∀ kind : ProjectionKind, kind.keyword ∈ Slot.passing.words := by
      rintro ⟨⟩ <;> decide
    refine List.forall_mem_cons.mpr ⟨keyword p.kind, fun l mem => ?_⟩
    exact List.mem_cons_of_mem _ (List.mem_cons_of_mem _ (Tree.keyword_orderingLines mem))

/-- What is written of a slot: a line of its own, or nothing. -/
def slotTemplate (s : Store) (inner : Value → Tree) (c : Clause) (slot : Slot) : Template :=
  ((s.slotTree? inner c slot).map fun t => fragmentTemplate t.template).getD []

theorem slotTemplate_lined {slot : Slot} (words : ∀ w ∈ slot.words, w ∈ Line.words ∧ w ∉ own) :
    Template.Lined own (s.slotTemplate inner c slot) := by
  unfold slotTemplate
  cases found : s.slotTree? inner c slot with
  | none => exact .nil
  | some t =>
    have lined : Template.Lined own ((Tree.templates [t]).map fragmentTemplate).flatten := by
      refine .fragments (List.forall_mem_singleton.mpr (slotTree_lines found)) fun l mem => ?_
      rw [List.flatMap_singleton] at mem
      exact words _ (keyword_slotTree found l mem)
    simpa [Tree.templates] using lined

theorem template_fragmentTrees (s : Store) (inner : Value → Tree) (c : Clause) :
    ((Tree.templates (s.fragmentTrees inner c)).map fragmentTemplate).flatten =
      c.head.manifest.flatMap (s.slotTemplate inner c) := by
  rw [fragmentTrees, Tree.templates_eq, List.map_map]
  induction c.head.manifest with
  | nil => rfl
  | cons slot slots ih =>
    rw [List.flatMap_cons, ← ih, slotTemplate]
    cases found : s.slotTree? inner c slot with
    | none =>
      rw [List.filterMap_cons_none found]
      rfl
    | some t =>
      rw [List.filterMap_cons_some found]
      rfl

/-- Clauses with the same head and the same path begin alike. -/
theorem exists_front (s : Store) (inner : Value → Tree) (head : c'.head = c.head)
    (path : c'.path = c.path) : ∃ front,
    (s.clauseTree inner c).template = front ++ c.head.manifest.flatMap (s.slotTemplate inner c) ∧
    (s.clauseTree inner c').template =
      front ++ c.head.manifest.flatMap (s.slotTemplate inner c') := by
  rw [← template_fragmentTrees s inner c, ← head, ← template_fragmentTrees s inner c']
  unfold clauseTree
  rw [head, path]
  cases c.head <;> exact ⟨_, rfl, rfl⟩

/-- Something more is written in one of the slots of a clause. -/
theorem clauseTree_inserts (head : c'.head = c.head) (path : c'.path = c.path)
    {before after : List Slot} {slot : Slot} (split : c.head.manifest = before ++ slot :: after)
    (others : ∀ other, other ≠ slot → s.slotTree? inner c' other = s.slotTree? inner c other)
    (inserts : Template.Inserts own (s.slotTemplate inner c slot) (s.slotTemplate inner c' slot))
    (lined : ∀ other ∈ after, Template.Lined own (s.slotTemplate inner c other)) :
    Template.Inserts own (s.clauseTree inner c).template (s.clauseTree inner c').template := by
  have nodup := c.head.nodup_manifest
  rw [split] at nodup
  obtain ⟨-, last, apart⟩ := List.nodup_append.mp nodup
  have same : ∀ slots : List Slot, slot ∉ slots →
      slots.flatMap (s.slotTemplate inner c') = slots.flatMap (s.slotTemplate inner c) := by
    intro slots absent
    refine List.flatMap_congr fun other mem => ?_
    have ne : other ≠ slot := fun eq => absent (eq ▸ mem)
    rw [slotTemplate, slotTemplate, others other ne]
  have first := same before fun mem => apart _ mem _ List.mem_cons_self rfl
  have others := same after (List.nodup_cons.mp last).1
  obtain ⟨front, eq, eq'⟩ := exists_front s inner head path
  rw [eq, eq', split, List.flatMap_append, List.flatMap_append, List.flatMap_cons,
    List.flatMap_cons, first, others]
  exact ((inserts.before (.flatMap lined)).behind _).behind front

/-- A list in a slot has got longer. -/
theorem slotTemplate_inserts {slot : Slot} {t' : Tree} {l : Line}
    (now : s.slotTree? inner c' slot = some t') (lines : t'.fragmentLines = [l])
    (word : l.keyword ∈ Line.words) (isOwn : l.keyword ∈ own)
    (longer : ∀ t, s.slotTree? inner c slot = some t →
      Template.Inserts own t.template t'.template) :
    Template.Inserts own (s.slotTemplate inner c slot) (s.slotTemplate inner c' slot) := by
  have written : s.slotTemplate inner c' slot = fragmentTemplate t'.template := by
    rw [slotTemplate, now]
    rfl
  rw [written]
  unfold slotTemplate
  cases found : s.slotTree? inner c slot with
  | none => exact Template.inserts_fragment lines word isOwn
  | some t => exact (longer t found).fragment

/-- A clause in which such a list has got longer. -/
theorem clauseTree_inserts_list {slot : Slot} {t' : Tree} {l : Line}
    (listed : slot = .assignment ∨ slot = .removal ∨ slot = .deletion)
    (supports : c.supports slot = true) (head : c'.head = c.head) (path : c'.path = c.path)
    (others : ∀ other, other ≠ slot → s.slotTree? inner c' other = s.slotTree? inner c other)
    (now : s.slotTree? inner c' slot = some t') (lines : t'.fragmentLines = [l])
    (longer : ∀ t, s.slotTree? inner c slot = some t →
      Template.Inserts slot.words t.template t'.template) :
    Template.Inserts slot.words (s.clauseTree inner c).template
      (s.clauseTree inner c').template := by
  obtain ⟨before, after, split⟩ := List.append_of_mem (List.contains_iff_mem.mp supports)
  have nodup := c.head.nodup_manifest
  rw [split] at nodup
  obtain ⟨-, last, -⟩ := List.nodup_append.mp nodup
  have isOwn := keyword_slotTree now l (by rw [lines]; exact List.mem_cons_self)
  have word : ∀ w ∈ slot.words, w ∈ Line.words := by
    rcases listed with rfl | rfl | rfl <;> decide
  refine clauseTree_inserts head path split others
    (slotTemplate_inserts now lines (word _ isOwn) isOwn longer) fun other mem => ?_
  exact slotTemplate_lined (Slot.words_apart
    (fun eq => (List.nodup_cons.mp last).1 (eq ▸ mem)) listed)

/-- A projection whose rows are ordered by something more. -/
theorem projectionTree_inserts (s : Store) (inner : Value → Tree) (p : Projection)
    {items : List SortItem} (more : items ≠ []) :
    Template.Inserts ["ORDER BY"] (s.projectionTree inner p).template (s.projectionTree inner
      { p with ordering := { p.ordering with
        sortItems := p.ordering.sortItems ++ items } }).template := by
  simp only [projectionTree, Tree.template, Tree.items_eq, List.map_append]
  exact Template.inserts_projection _ _ _ _ (by simpa using more) _ _

/-- What rows are ordered by is written in the projection that it belongs to: the head of the
clause, or else the last projection in its slots. -/
theorem ordered_inserts (proper : c.Proper) {items : List SortItem} (more : items ≠ [])
    (ordered : c.mapOrdering? (fun o => { o with sortItems := o.sortItems ++ items }) = some c') :
    Template.Inserts ["ORDER BY"] (s.clauseTree inner c).template
      (s.clauseTree inner c').template := by
  have inserts := fun p => projectionTree_inserts s inner p more
  unfold Clause.mapOrdering? at ordered
  split at ordered
  · rename_i p head
    cases ordered
    have fragments : Template.Lined ["ORDER BY"]
        ((Tree.templates (s.fragmentTrees inner c)).map fragmentTemplate).flatten := by
      rw [template_fragmentTrees, head]
      refine .flatMap fun slot mem => ?_
      have isFilter : slot = .filter := by
        cases kind : p.kind <;> simp_all [Head.manifest]
      exact isFilter ▸ slotTemplate_lined (by decide)
    have same : s.fragmentTrees inner { c with head := .project { p with ordering :=
        { p.ordering with sortItems := p.ordering.sortItems ++ items } } } =
        s.fragmentTrees inner c := by
      rw [fragmentTrees, fragmentTrees, head]
      rfl
    unfold clauseTree
    rw [head, same]
    exact (inserts p).before fragments
  · rename_i p returning _
    cases ordered
    obtain ⟨before, split⟩ := Head.manifest_of_returning
      (proper.slots .returning (by rw [Clause.has, returning]; rfl))
    refine clauseTree_inserts rfl rfl split (fun other ne => ?_) ?_ (List.forall_mem_nil _)
    · cases other <;> first | exact absurd rfl ne | rfl
    · simp only [slotTemplate, slotTree?, returning]
      exact (inserts p).fragment
  · rename_i p returning passing _
    cases ordered
    obtain ⟨before, split⟩ := Head.manifest_of_passing
      (proper.slots .passing (by rw [Clause.has, passing]; rfl))
    refine clauseTree_inserts rfl rfl split (fun other ne => ?_) ?_
      (List.forall_mem_singleton.mpr ?_)
    · cases other <;> first | exact absurd rfl ne | rfl
    · simp only [slotTemplate, slotTree?, passing]
      exact (inserts p).fragment
    · simp only [slotTemplate, slotTree?, returning]
      exact .nil
  · cases ordered

end Store

/-! ### What is left of a clause -/

namespace Clause.Interrupted

open Template

variable {s : Store} {inner : Value → Tree} {c c' : Clause} {b : Builder} {n : Nat}

/-- Where no argument has been taken over, the clause is written as before. -/
theorem clauseTree_eq (h : c.Interrupted b n c') (none : n = 0) :
    s.clauseTree inner c' = s.clauseTree inner c := by
  have slots : ∀ {c' : Clause}, c'.head = c.head → c'.path.join = c.path.join →
      (∀ slot, s.slotTree? inner c' slot = s.slotTree? inner c slot) →
      s.clauseTree inner c' = s.clauseTree inner c := by
    intro c' head path slots
    have fragments : s.fragmentTrees inner c' = s.fragmentTrees inner c := by
      rw [Store.fragmentTrees, Store.fragmentTrees, head]
      exact List.filterMap_congr fun slot _ => slots slot
    unfold Store.clauseTree
    rw [head, path, fragments]
  cases h with
  | path => exact slots rfl rfl fun slot => rfl
  | assign =>
    refine slots rfl rfl fun slot => ?_
    cases List.length_eq_zero_iff.mp none
    cases slot with
    | assignment => simp only [Store.slotTree?, Option.getD_some, List.append_nil]
    | _ => rfl
  | remove =>
    refine slots rfl rfl fun slot => ?_
    cases List.length_eq_zero_iff.mp none
    cases slot with
    | removal => simp only [Store.slotTree?, Option.getD_some, List.append_nil]
    | _ => rfl
  | delete =>
    refine slots rfl rfl fun slot => ?_
    cases List.length_eq_zero_iff.mp none
    cases slot with
    | deletion =>
      simp only [Store.slotTree?, List.append_nil]
      cases c.deletion <;> rfl
    | _ => rfl
  | orderBy ordered =>
    cases List.length_eq_zero_iff.mp none
    simp only [List.append_nil] at ordered
    rw [eq_of_mapOrdering?_id ordered]

/-- What has been taken over is written. -/
theorem inserts (h : c.Interrupted b n c') (some : n ≠ 0) (proper : c.Proper)
    (accepted : ∀ f, ¬ c.Refuses b f) (s : Store) (inner : Value → Tree) : ∃ own,
      Inserts own (s.clauseTree inner c).template (s.clauseTree inner c').template := by
  have supports : ∀ slot, b.slot? = Option.some slot → c.supports slot = true :=
    fun _ fills => supports_of_accepted accepted fills
  cases h with
  | path => exact absurd rfl some
  | @assign vs es =>
    have more : es ≠ [] := fun none => some (List.length_eq_zero_iff.mpr none)
    have now := (Store.slotTree?_assignment_iff s inner
      { c with assignments := Option.some (c.assignments.getD [] ++ es) }).mpr
      ⟨List.append_ne_nil_of_right_ne_nil _ more, rfl⟩
    refine ⟨_, Store.clauseTree_inserts_list (.inl rfl) (supports _ rfl) rfl rfl
      (fun other ne => ?_) now rfl fun t before => ?_⟩
    · cases other <;> first | exact absurd rfl ne | rfl
    · obtain ⟨nonempty, rfl⟩ := (Store.slotTree?_assignment_iff s inner c).mp before
      rw [Option.getD_some, List.map_append, Tree.template, Tree.template, Tree.pairs_eq,
        Tree.pairs_eq, List.map_append]
      exact (inserts_join (by simpa using nonempty) (by simpa using more)).behind [.text "SET "]
  | @remove vs ws =>
    have more : ws ≠ [] := fun none => some (List.length_eq_zero_iff.mpr none)
    have now := (Store.slotTree?_removal_iff s inner
      { c with removals := Option.some (c.removals.getD [] ++ ws) }).mpr
      ⟨List.append_ne_nil_of_right_ne_nil _ more, rfl⟩
    refine ⟨_, Store.clauseTree_inserts_list (.inr (.inl rfl)) (supports _ rfl) rfl rfl
      (fun other ne => ?_) now rfl fun t before => ?_⟩
    · cases other <;> first | exact absurd rfl ne | rfl
    · obtain ⟨nonempty, rfl⟩ := (Store.slotTree?_removal_iff s inner c).mp before
      rw [Option.getD_some, List.map_append, Tree.template, Tree.template, Tree.items_eq,
        Tree.items_eq, List.map_append]
      exact (inserts_commas (by simpa using nonempty) (by simpa using more)).behind
        [.text "REMOVE "]
  | @delete vs detach rs =>
    have more : rs ≠ [] := fun none => some (List.length_eq_zero_iff.mpr none)
    have now := (Store.slotTree?_deletion_iff s inner
      { c with deletion := Option.some ⟨(c.deletion.getD ⟨[], false⟩).references ++ rs,
        (c.deletion.getD ⟨[], false⟩).detach⟩ }).mpr
      ⟨List.append_ne_nil_of_right_ne_nil _ more, rfl⟩
    refine ⟨_, Store.clauseTree_inserts_list (.inr (.inr rfl)) (supports _ rfl) rfl rfl
      (fun other ne => ?_) now rfl fun t before => ?_⟩
    · cases other <;> first | exact absurd rfl ne | rfl
    · obtain ⟨nonempty, rfl⟩ := (Store.slotTree?_deletion_iff s inner c).mp before
      rw [Option.getD_some, List.map_append, Tree.template, Tree.template, Tree.items_eq,
        Tree.items_eq, List.map_append]
      exact (inserts_commas (by simpa using nonempty) (by simpa using more)).behind [.text _]
  | @orderBy vs items c' ordered =>
    exact ⟨_, Store.ordered_inserts proper
      (fun none => some (List.length_eq_zero_iff.mpr none)) ordered⟩

end Clause.Interrupted

/-! ### Calls of the library -/

/-- Where only a clause has changed, its tree before is made of the same trees as its tree after. -/
theorem Store.tree_of_kept {R : Value → Value → Prop} {strict : Prop} {s t : Store}
    (grows : s.Grows t) (like : s.Alike R s) (typed : s.Typed strict)
    (unassigned : t.assignments = []) (complete : s.IsComplete) {h : Nat} {c : Clause}
    (found : s.get? h = some (.clause c))
    (kept : ∀ i, i < s.next → i ≠ h → t.get? i = s.get? i) :
    s.tree h = t.clauseTree (t.treeFrom ((List.range t.next).erase h)) c := by
  have alike : c.Alike s s c := by
    cases like.objects found found with
    | clause alike => exact alike
    | data isData _ => cases isData
  rw [tree_of_clause like.unassigned found, clauseTree_of_grows grows alike (typed.objects found)]
  refine clauseTree_congr fun v part => ?_
  cases v with
  | atom a mark => rw [treeFrom_atom, treeFrom_atom]
  | object g =>
    have nodup := fun n => (List.nodup_range (n := n)).erase h
    refine (treeFrom_of_kept grows like typed unassigned (nodup _) (nodup _)
      (fun i (lt : i < s.next) => ?_) (fun i lt mem => ⟨?_, fun g contains => ?_⟩)
      (complete.lt_of_contains ⟨_, found, part⟩)).symm
    · rw [List.nodup_range.mem_erase_iff, List.nodup_range.mem_erase_iff, List.mem_range,
        List.mem_range]
      exact and_congr_right fun _ => iff_of_true (Nat.lt_of_lt_of_le lt grows.next_le) lt
    · exact kept i lt (List.nodup_range.mem_erase_iff.mp mem).1
    · exact complete.lt_of_contains contains

/-- What has been compiled has been written. -/
theorem Store.Assembled.text_of_compiled {s : Store} (assembled : s.Assembled) {h : Nat}
    {settings : Settings} {sep : String} (textual : (s.freshEnvironment settings).IsTextual sep)
    (query : s.IsQuery h) {q : CompiledQuery} (ok : (s.compile settings h).result = .ok q) :
    (s.write h (s.freshEnvironment settings)).fault? = none ∧
      q.text = (s.write h (s.freshEnvironment settings)).text := by
  have written : (s.write h (s.freshEnvironment settings)).fault? = none := by
    cases fault : (s.write h (s.freshEnvironment settings)).fault? with
    | none => rfl
    | some f =>
      simp only [compile, fault] at ok
      cases ok
  have whole := (write_shown textual).1.mp written
  have compiled := assembled.compile_query textual query whole
  rw [ok] at compiled
  exact ⟨written, (congrArg CompiledQuery.text (Except.ok.inj compiled)).trans
    ((write_shown textual).2 whole).symm⟩

/-- A clause that is written with something more is compiled to another text, as long as the
separator does not begin with a comma. -/
theorem Store.Assembled.text_ne_of_inserts {s t : Store} (assembled : s.Assembled)
    (later : t.Assembled) {h : Nat} (query : s.IsQuery h) (query' : t.IsQuery h) {own : List String}
    (inserts : Template.Inserts own (s.template h) (t.template h)) {settings : Settings}
    (plain : settings.IsPlain) {sep : String}
    (textual : (s.freshEnvironment settings).IsTextual sep) (noComma : sep.toList.head? ≠ some ',')
    {q q' : CompiledQuery} (ok : (s.compile settings h).result = .ok q)
    (ok' : (t.compile settings h).result = .ok q') : q'.text ≠ q.text := by
  have fresh := freshEnvironment_eq plain s t
  obtain ⟨written, text⟩ := assembled.text_of_compiled textual query ok
  obtain ⟨written', text'⟩ := later.text_of_compiled (fresh ▸ textual) query' ok'
  rw [fresh] at written' text'
  rw [text, text']
  exact inserts.text_ne ⟨s.freshEnvironment settings, []⟩ textual
    (fun _ mem => absurd mem List.not_mem_nil) noComma written written'

/-- A call that fails has made of the clause what it was, if the clause refuses it, and otherwise
what the arguments make of it that have been taken over. -/
theorem clause_after_failure {c : Clause} {b : Builder} (notWhole : b.isWhole = false) {s : Store}
    {f : Fault} (failed : (outcome (build c b) s).1.fault? = some f) :
    let c' := (outcome (build c b) s).1.clause
    ∃ taken rest, b.entries = taken ++ rest ∧
      (((∃ g, c.Refuses b g) ∧ taken = [] ∧ c' = c) ∨
        (∀ g, ¬ c.Refuses b g) ∧ c.Interrupted b taken.length c' ∧
          (b.isStepwise = true → ∃ v more, rest = v :: more ∧
            outcome (build c (b.on taken)) s = (⟨c', none⟩, (outcome (build c b) s).2) ∧
            outcome (build c (b.on (taken ++ [v]))) s = outcome (build c b) s)) := by
  intro c'
  by_cases refused : ∃ g, c.Refuses b g
  · obtain ⟨g, refuses⟩ := refused
    exact ⟨[], b.entries, rfl, .inl ⟨⟨g, refuses⟩, rfl,
      congrArg Built.clause (build_of_refuses refuses s)⟩⟩
  · have accepted : ∀ g, ¬ c.Refuses b g := fun g refuses => refused ⟨g, refuses⟩
    cases stepwise : b.isStepwise with
    | true =>
      obtain ⟨taken, v, rest, eq, interrupted, short, stopped⟩ :=
        build_interrupted stepwise accepted failed
      exact ⟨taken, v :: rest, eq, .inr ⟨accepted, interrupted, fun _ =>
        ⟨v, rest, rfl, short, stopped⟩⟩⟩
    | false =>
      cases b with
      | path v =>
        exact ⟨[], [], rfl, .inr ⟨accepted, bindPath_interrupted accepted failed,
          fun stepwise => by cases stepwise⟩⟩
      | assign | remove | delete | orderBy => cases stepwise
      | _ => cases notWhole

/-- A builder that takes its arguments one by one, or a path, fails. If the clause refuses the call
then it stays as it was. Otherwise the arguments in front of the first one that does not pass have
been taken over: the call on them alone succeeds and comes to the very same store.

The slots that exist stay the same just in case the clause refuses the call or has had the slot. If
nothing has been taken over then the clause is written and compiled as before. If something has been
taken over then it is compiled to another text, as long as the separator does not begin with a
comma. -/
theorem failing_calls_keep_what_passed {s : Store} (assembled : s.Assembled) {h : Nat} {c : Clause}
    (found : s.get? h = some (.clause c)) {b : Builder} (notWhole : b.isWhole = false)
    (exported : (Construction.build h b).Exported s) {f : Fault}
    (failed : (outcome (Construction.build h b).perform.run s).1 = .error f) :
    let call := fun b => outcome (Construction.build h b).perform.run s
    let t := (call b).2
    ∃ (taken rest : List Value) (c' : Clause), b.entries = taken ++ rest ∧
      t.get? h = some (.clause c') ∧
      ((∃ g, c.Refuses b g) → taken = [] ∧ c' = c) ∧
      ((∀ g, ¬ c.Refuses b g) → b.isStepwise = true →
        call (b.on taken) = (.ok (.object h), t) ∧
        ∃ v more, rest = v :: more ∧ call (b.on (taken ++ [v])) = (.error f, t)) ∧
      (c'.populated = c.populated ↔
        (∃ g, c.Refuses b g) ∨ ∀ slot, b.slot? = some slot → c.has slot = true) ∧
      (taken = [] →
        (∀ {σ : Type} [Registry σ] (e : σ), t.write h e = s.write h e) ∧
        ∀ settings : Settings, settings.IsPlain → t.compile settings h = s.compile settings h) ∧
      (taken ≠ [] → ∀ (settings : Settings) (sep : String), settings.IsPlain →
        (s.freshEnvironment settings).IsTextual sep → sep.toList.head? ≠ some ',' →
        ∀ q q', (s.compile settings h).result = .ok q → (t.compile settings h).result = .ok q' →
          q'.text ≠ q.text) := by
  intro call t
  have typed := assembled.typed
  have later : t.Assembled := .call assembled exported
  have fault := fault?_of_failed typed found failed
  have here : t.get? h = some (.clause (outcome (build c b) s).1.clause) :=
    get?_perform_build typed found b
  obtain ⟨taken, rest, eq, left⟩ := clause_after_failure notWhole fault
  have changes := Store.changes_perform typed exported (h := h) rfl
  -- Before and after, the clause is made of the same trees.
  have after := Store.tree_of_clause later.typed.unassigned here
  have before := Store.tree_of_kept changes.grows assembled.sound typed later.typed.unassigned
    assembled.isComplete found fun i lt ne => changes.get?_eq lt ne
  refine ⟨taken, rest, _, eq, here, fun refused => ?_, fun accepted stepwise => ?_, ?_,
    fun none => ?_, fun nonempty settings sep plain textual noComma q q' ok ok' => ?_⟩
  · rcases left with ⟨-, none, same⟩ | ⟨accepted, -⟩
    · exact ⟨none, same⟩
    · obtain ⟨g, refuses⟩ := refused
      exact absurd refuses (accepted g)
  · rcases left with ⟨⟨g, refuses⟩, -⟩ | ⟨-, -, steps⟩
    · exact absurd refuses (accepted g)
    · obtain ⟨v, more, rest_eq, short, stopped⟩ := steps stepwise
      have made : ∀ b', call b' =
          (((outcome (build c b') s).1.fault?.elim (.ok (.object h)) .error),
            (outcome (build c b') s).2.replace h (.clause (outcome (build c b') s).1.clause)) :=
        outcome_buildOn typed.unassigned found
      refine ⟨?_, v, more, rest_eq, ?_⟩
      · rw [made, short, show t = _ from congrArg Prod.snd (made b)]
        rfl
      · rw [made, stopped, ← made]
        exact Prod.ext failed rfl
  · rcases left with ⟨refused, -, same⟩ | ⟨accepted, interrupted, -⟩
    · rw [same]
      exact iff_of_true rfl (.inl refused)
    · rw [interrupted.populated_eq_iff accepted, or_iff_right]
      rintro ⟨g, refuses⟩
      exact accepted g refuses
  · have same : t.tree h = s.tree h ∧ t.className h = s.className h := by
      rw [after, before, Store.className, Store.className, here, found]
      rcases left with ⟨-, -, same⟩ | ⟨-, interrupted, -⟩
      · rw [same]
        exact ⟨rfl, rfl⟩
      · exact ⟨interrupted.clauseTree_eq (by rw [none]; rfl), interrupted.className_eq⟩
    refine ⟨fun e => ?_, fun settings plain => Store.compile_eq_of_tree_eq plain same.1 same.2⟩
    rw [Store.write, Store.write, Store.template, Store.template, same.1]
  · rcases left with ⟨-, none, -⟩ | ⟨accepted, interrupted, -⟩
    · exact absurd none nonempty
    have some : taken.length ≠ 0 := fun none => nonempty (List.length_eq_zero_iff.mp none)
    obtain ⟨own, inserts⟩ := interrupted.inserts some (assembled.proper found) accepted t
      (t.treeFrom ((List.range t.next).erase h))
    rw [← before, ← after] at inserts
    exact assembled.text_ne_of_inserts later ⟨_, found, rfl⟩ ⟨_, here, rfl⟩ inserts plain textual
      noComma ok ok'

/-- A node is to be deleted with its relationships, together with something that is no reference.
The call fails, but the node is deleted all the same, and without its relationships. -/
theorem failing_calls_keep_what_passed_delete :
    let s := Store.empty.called [.node .null none, .read false (.bool false) [.object 0]]
    let b : Builder := .delete [.object 0, .int 5] true
    let call := fun b => outcome (Construction.build 2 b).perform.run s
    let t := (call b).2
    s.Assembled ∧ (Construction.build 2 b).Exported s ∧
    (call b).1 = .error (.refused (.deletionTarget "int")) ∧
    (s.compile .defaults 2).result.toOption.map CompiledQuery.text = some "MATCH (this0)" ∧
    (t.compile .defaults 2).result.toOption.map CompiledQuery.text =
      some "MATCH (this0)\nDELETE this0" ∧
    ∃ taken, taken <+: [.object 0, .int 5] ∧ call (.delete taken false) = (.ok (.object 2), t) ∧
      ∃ c c', s.get? 2 = some (.clause c) ∧ t.get? 2 = some (.clause c') ∧
        c'.populated ≠ c.populated := by
  intro s b call t
  have inTurn : Store.empty.ExportedInTurn
      [.node .null none, .read false (.bool false) [.object 0]] :=
    .plain trivial rfl (.plain trivial rfl .nil)
  have assembled : s.Assembled := Store.Assembled.empty.called inTurn
  have exported : (Construction.build 2 b).Exported s :=
    ⟨trivial, Store.knowsWithin_of_isPlain rfl⟩
  have failed : (call b).1 = .error (.refused (.deletionTarget "int")) := by decide +kernel
  have before : (s.compile .defaults 2).result.toOption.map CompiledQuery.text =
      some "MATCH (this0)" := by decide +kernel
  have after : (t.compile .defaults 2).result.toOption.map CompiledQuery.text =
      some "MATCH (this0)\nDELETE this0" := by decide +kernel
  have reads : (s.clause? 2).any (fun c => c.supports .deletion && !c.has .deletion) = true := by
    decide +kernel
  -- From here on it does not matter what is in the store.
  clear_value s
  obtain ⟨c, found, isFree⟩ := (Option.any_eq_true _ _).mp reads
  obtain ⟨supports, free⟩ := Bool.and_eq_true_iff.mp isFree
  have found := Store.get?_of_clause? found
  have accepted : ∀ g, ¬ c.Refuses (.delete [.object 0, .int 5] true) g := by
    rintro _ (⟨fills, absent⟩ | ⟨orders, -⟩)
    · cases fills
      rw [supports] at absent
      cases absent
    · cases orders
  obtain ⟨taken, rest, c', eq, here, -, short, populated, -⟩ :=
    failing_calls_keep_what_passed assembled found rfl exported failed
  refine ⟨assembled, exported, failed, before, after, taken, ⟨rest, eq.symm⟩,
    (short accepted rfl).1, c, c', found, here, fun same => ?_⟩
  rcases populated.mp same with ⟨g, refuses⟩ | had
  · exact accepted g refuses
  · rw [had .deletion rfl] at free
    cases free

/-- A property and something that is no property are to be removed. The call fails, and the clause
has another text and a slot more. -/
theorem removal_half_done :
    let s := Store.empty.called [.node .null none, .property (.object 0) [.text "a"],
      .read false (.bool false) [.object 0]]
    let failing := outcome (Construction.build 3 (.remove [.object 1, .int 5])).perform.run s
    failing.1 = .error (.refused (.removalTarget "int")) ∧
    (s.compile .defaults 3).result.toOption.map CompiledQuery.text = some "MATCH (this0)" ∧
    (s.clause? 3).map Clause.populated = some [] ∧
    (failing.2.compile .defaults 3).result.toOption.map CompiledQuery.text =
      some "MATCH (this0)\nREMOVE this0.a" ∧
    (failing.2.clause? 3).map Clause.populated = some [.removal] := by
  decide +kernel

end GraphQuery
