import GraphQuery.Compile
import GraphQuery.Proofs.Rendering.Stability
import GraphQuery.Proofs.Tree.Likeness

/-!
Compiling objects that have like trees.

Like trees are written in the same way. What remains is the query that is put together at the end.
Its keys are atoms when the settings are, and atoms look the same in every store.

* `Settings.IsPlain`: the settings are atoms, as they are whenever they have been checked.
* `CompiledQuery.Alike`: two results are queries of one text with related values, or one fault.
* `Store.compile_alike`, `Store.compile_events_eq`: compiling objects that have like trees.
-/

namespace GraphQuery

/-! ### Plain settings -/

/-- Every field holds an atom. -/
def Settings.IsPlain (settings : Settings) : Prop :=
  ∀ field, ∃ a mark, settings.value field = .atom a mark

/-- What a field is made of in a new record is an atom. -/
theorem Settings.accept_isPlain {vars : Variables} {given : List (String × Value)} {mark : Nat}
    {field : Setting} {v : Value} (accepted : accept vars given mark field = .ok v) :
    ∃ a mark, v = .atom a mark := by
  unfold accept at accepted
  split at accepted
  · rename_i source _
    cases rule : field.rule.accept source with
    | ok a =>
      rw [rule] at accepted
      exact ⟨a, mark, (Except.ok.inj accepted).symm⟩
    | error objection =>
      rw [rule] at accepted
      cases accepted
  · exact ⟨field.defaultAtom, Setting.defaultMark, (Except.ok.inj accepted).symm⟩

/-- Settings that have been checked are plain. -/
theorem Settings.load_isPlain {vars : Variables} {given : List (String × Value)} {mark : Nat}
    {settings : Settings} (loaded : load vars given mark = .ok settings) : settings.IsPlain := by
  unfold load at loaded
  split at loaded
  · cases loaded
    intro field
    change ∃ a m, (accept vars given mark field).toOption.getD field.default = .atom a m
    cases accepted : accept vars given mark field with
    | ok v => exact accept_isPlain accepted
    | error objection => exact ⟨field.defaultAtom, Setting.defaultMark, rfl⟩
  · cases loaded

/-- The settings in which no field is given are plain. -/
theorem Settings.defaults_isPlain : defaults.IsPlain := fun _ => ⟨_, _, rfl⟩

/-- What an atom is written as does not depend on the objects. -/
theorem Wording.ofValue_atom (view view' : ObjectView) (a : Atom) (mark : Nat) :
    ofValue view (.atom a mark) = ofValue view' (.atom a mark) := by
  cases a <;> rfl

/-- Under plain settings all builds begin with one and the same environment. -/
theorem Store.freshEnvironment_eq {settings : Settings} (plain : settings.IsPlain) (s s' : Store) :
    s'.freshEnvironment settings = s.freshEnvironment settings := by
  have wording : ∀ field, Wording.ofValue s'.view (settings.value field) =
      Wording.ofValue s.view (settings.value field) := by
    intro field
    obtain ⟨a, mark, eq⟩ := plain field
    rw [eq]
    exact Wording.ofValue_atom _ _ a mark
  have truth : (settings.value .bareFirst).truth s'.view =
      (settings.value .bareFirst).truth s.view := by
    obtain ⟨a, mark, eq⟩ := plain .bareFirst
    rw [eq]
    rfl
  simp [freshEnvironment, Settings.naming, Naming.environment, wording, truth, Ledger.refreshed,
    Ledger.blank]

/-! ### Keys -/

namespace Wording

/-- What is handed out for the wording is an atom. -/
def IsAtom (w : Wording) : Prop := ∀ mark, ∃ a m, w.handed mark = .atom a m

theorem isAtom_ofName (n : Name) : (ofName n).IsAtom := by
  intro mark
  cases n with
  | text s => exact ⟨_, _, rfl⟩
  | direction d => exact ⟨_, _, rfl⟩

theorem numbered_isAtom : Environment.Numbered IsAtom := fun _ _ _ _ _ _ _ => ⟨_, _, rfl⟩

theorem isAtom_ofValue (view : ObjectView) (a : Atom) (mark : Nat) :
    (ofValue view (.atom a mark)).IsAtom := by
  intro m
  cases a <;> exact ⟨_, _, rfl⟩

end Wording

/-- Under plain settings all names of a build are atoms. -/
theorem Store.freshEnvironment_isAtom {settings : Settings} (plain : settings.IsPlain) (s : Store) :
    (s.freshEnvironment settings).Worded Wording.IsAtom := by
  refine ⟨fun kind => ?_, fun a mem => absurd mem List.not_mem_nil⟩
  obtain ⟨a, mark, eq⟩ := plain (.ofKind kind)
  change (Wording.ofValue s.view (settings.value (.ofKind kind))).IsAtom
  rw [eq]
  exact Wording.isAtom_ofValue s.view a mark

/-- If all names are atoms, so are the keys of parameters. -/
theorem Environment.Worded.params_isAtom {e : Environment} (h : e.Worded Wording.IsAtom)
    {entry : Value × Value} (mem : entry ∈ e.params) : ∃ a mark, entry.1 = .atom a mark := by
  obtain ⟨x, x_mem, eq⟩ := List.mem_filterMap.mp mem
  obtain ⟨v, -, rfl⟩ := Option.map_eq_some_iff.mp eq
  exact h.names x x_mem e.mark

/-- Under plain settings the keys of all parameters of a build are atoms. -/
theorem Store.params_isAtom {settings : Settings} (plain : settings.IsPlain) (s : Store) (h : Nat) :
    ∀ entry ∈ (s.write h (s.freshEnvironment settings)).pen.env.params,
      ∃ a mark, entry.1 = .atom a mark := by
  have names : (s.write h (s.freshEnvironment settings)).pen.env.Worded Wording.IsAtom :=
    Template.fill_worded Wording.numbered_isAtom (s.freshEnvironment_isAtom plain)
      fun segment _ => segment.suggests_of_forall Wording.isAtom_ofName
  exact fun entry mem => names.params_isAtom mem

/-! ### Putting a query together -/

/-- Two entries have one key, which is an atom, and related values. -/
structure EntryAlike (R : Value → Value → Prop) (entry entry' : Value × Value) : Prop where
  key_eq : entry'.1 = entry.1
  isAtom : ∃ a mark, entry.1 = .atom a mark
  value : R entry.2 entry'.2

section Entries

variable {R : Value → Value → Prop} {params params' : List (Value × Value)}

/-- Atoms match or do not match, whatever the objects look like. -/
theorem Value.matched_atom (view view' : ObjectView) {a : Value} (isAtom : ∃ x m, a = .atom x m)
    (b : Value) : matched view a b = matched view' a b := by
  obtain ⟨x, m, rfl⟩ := isAtom
  cases b <;> rfl

/-- Alike entries have an equal key or do not. -/
theorem any_matched_eq (view view' : ObjectView)
    (alike : List.Forall₂ (EntryAlike R) params params') (key : Value) :
    (params'.any fun entry => Value.matched view' entry.1 key) =
      params.any fun entry => Value.matched view entry.1 key := by
  induction alike with
  | nil => rfl
  | cons entry _ ih =>
    rw [List.any_cons, List.any_cons, ih, entry.key_eq, Value.matched_atom view' view entry.isAtom]

/-- Entries stay alike when alike ones are stored among them. -/
theorem store_alike (view view' : ObjectView)
    (alike : List.Forall₂ (EntryAlike R) params params') {key v v' : Value}
    (isAtom : ∃ a mark, key = .atom a mark) (related : R v v') :
    List.Forall₂ (EntryAlike R) (Value.store view params key v)
      (Value.store view' params' key v') := by
  unfold Value.store
  rw [any_matched_eq view view' alike]
  split
  · rw [List.forall₂_map_left_iff, List.forall₂_map_right_iff]
    refine alike.imp fun entry entry' old => ?_
    rw [old.key_eq, Value.matched_atom view' view old.isAtom]
    split
    · exact ⟨rfl, old.isAtom, related⟩
    · exact old
  · exact List.rel_append alike (.cons ⟨rfl, isAtom, related⟩ .nil)

/-- The same keys are rejected. -/
theorem keyIssues_eq (view view' : ObjectView)
    (alike : List.Forall₂ (EntryAlike R) params params') :
    Store.keyIssues view' params' = Store.keyIssues view params := by
  have text : ∀ a mark, Store.keyText view' (.atom a mark) = Store.keyText view (.atom a mark) := by
    intro a mark
    cases a <;> rfl
  unfold Store.keyIssues
  induction alike with
  | nil => rfl
  | cons entry _ ih =>
    obtain ⟨a, mark, eq⟩ := entry.isAtom
    rw [List.filterMap_cons, List.filterMap_cons, ih, entry.key_eq, eq, text]

/-- The parameters of the two queries are alike. -/
theorem textKeyed_alike (view view' : ObjectView)
    (alike : List.Forall₂ (EntryAlike R) params params') :
    List.Forall₂ (EntryAlike R) (Store.textKeyed view params) (Store.textKeyed view' params') := by
  have stored : ∀ {before before' : List (Value × Value)},
      List.Forall₂ (EntryAlike R) before before' → List.Forall₂ (EntryAlike R)
        (params.foldl (fun entries entry =>
          Value.store view entries ((acceptText entry.1).toOption.elim entry.1 .text) entry.2)
          before)
        (params'.foldl (fun entries entry =>
          Value.store view' entries ((acceptText entry.1).toOption.elim entry.1 .text) entry.2)
          before') := by
    induction alike with
    | nil => exact fun before => before
    | @cons entry entry' _ _ alike _ ih =>
      intro before before' old
      refine ih ?_
      dsimp only
      rw [alike.key_eq]
      refine store_alike view view' old ?_ alike.value
      cases (acceptText entry.1).toOption with
      | none => exact alike.isAtom
      | some s => exact ⟨_, _, rfl⟩
  exact stored .nil

end Entries

/-! ### Compiling -/

/-- Two results are queries of one text with alike parameters, or one fault. -/
inductive CompiledQuery.Alike (R : Value → Value → Prop) :
    Except Fault CompiledQuery → Except Fault CompiledQuery → Prop where
  | ok {q q' : CompiledQuery} : q'.text = q.text →
      List.Forall₂ (fun a a' => a'.1 = a.1 ∧ R a.2 a'.2) q.params q'.params →
      Alike R (.ok q) (.ok q')
  | error {f : Fault} : Alike R (.error f) (.error f)

section Compile

variable {L : Likeness} {s s' : Store} {h h' : Nat} (trees : (s.tree h).Alike L (s'.tree h'))
include trees

/-- Objects with like trees are written alike in like environments. -/
theorem Store.write_alike {e e' : Environment} (alike : e.Alike L e') :
    (s.write h e).Alike L (s'.write h' e') :=
  trees.template.fill alike rfl

variable {settings : Settings} (plain : settings.IsPlain)
include plain

/-- Under plain settings, objects with like trees are written alike in new environments. -/
theorem Store.write_fresh_alike :
    (s.write h (s.freshEnvironment settings)).Alike L
      (s'.write h' (s'.freshEnvironment settings)) := by
  refine write_alike trees ?_
  rw [freshEnvironment_eq plain s s']
  exact ⟨rfl, .nil, rfl, rfl, rfl, rfl⟩

/-- The parameters of both are alike, and their keys are atoms. -/
theorem Store.params_alike :
    List.Forall₂ (EntryAlike L.value) (s.write h (s.freshEnvironment settings)).pen.env.params
      (s'.write h' (s'.freshEnvironment settings)).pen.env.params := by
  have written := write_fresh_alike trees plain
  exact ((List.forall₂_and_left _ _).mpr ⟨s.params_isAtom plain h, written.env.params⟩).imp
    fun _ _ ⟨isAtom, key_eq, value⟩ => ⟨key_eq, isAtom, value⟩

/-- Objects with like trees are compiled alike. -/
theorem Store.compile_alike :
    CompiledQuery.Alike L.value (s.compile settings h).result (s'.compile settings h').result := by
  have written := write_fresh_alike trees plain
  have params := params_alike trees plain
  unfold compile
  dsimp only
  rw [written.fault_eq]
  split
  · exact .error
  · simp only [query, written.value_eq, keyIssues_eq s.view s'.view params]
    split
    · exact .ok rfl ((textKeyed_alike s.view s'.view params).imp fun _ _ h => ⟨h.key_eq, h.value⟩)
    · exact .error
    · exact .error

/-- Objects of one class with like trees are compiled with the same events. -/
theorem Store.compile_events_eq
    (class_eq : (s.write h (s.freshEnvironment settings)).fault? = none →
      s'.className h' = s.className h) :
    (s'.compile settings h').events = (s.compile settings h).events := by
  have written := write_fresh_alike trees plain
  have params := params_alike trees plain
  have logs : (settings.value .logText).truth s'.view =
      (settings.value .logText).truth s.view := by
    obtain ⟨a, mark, eq⟩ := plain .logText
    rw [eq]
    rfl
  unfold compile
  dsimp only
  rw [written.fault_eq]
  split
  · exact written.events_eq
  · rename_i fault
    simp only [written.events_eq, compiledEvent, class_eq fault, Environment.size,
      written.env.counter_eq, params.length_eq, logs, written.value_eq]

end Compile

end GraphQuery
