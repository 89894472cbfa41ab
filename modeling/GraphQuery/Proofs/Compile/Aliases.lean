import GraphQuery.Proofs.Assembly.Conformance
import GraphQuery.Proofs.Rendering.Stability
import GraphQuery.Proofs.Tree.Aliases

/-!
Labels and the names of their own that columns are given.

A column's own name is written as it is, and no environment knows of it. So it can be the text of a
label, but only if it reads like one: the stem of something that has a label in the query, with a
number that is used up behind it, or alone in the place of number nought. And whatever names columns
are given, the environment gives the same labels and keys.

* `Environment.Generates`: the texts that an environment makes of a stem.
* `Template.fill_generates`: the labels that are given while a template is filled are such texts.
* `alias_captured_by_label`: a column's own name that is the label of a node.
* `aliases_apart_from_labels`: the labels of a build and the columns' own names.
-/

namespace GraphQuery

/-! ### Generated texts -/

namespace Environment

/-- The text is one that the environment makes of a stem: the stem with a number that is used up
behind it, or alone in the place of number nought. -/
def Generates (e : Environment) (stem : Wording) (text : String) : Prop :=
  ∃ s index, stem.written = .ok s ∧ index < e.size ∧ text = numberedName s e.bareFirst index

variable {e e' : Environment}

theorem Generates.mono {stem : Wording} {text : String} (h : e.Generates stem text)
    (ext : e.Extends e') : e'.Generates stem text := by
  obtain ⟨s, index, written, lt, eq⟩ := h
  refine ⟨s, index, written, Nat.lt_of_lt_of_le lt ext.counter_le, ?_⟩
  rw [ext.bareFirst_eq]
  exact eq

/-- A name that is made of a stem is written as the stem with the number of the name. -/
theorem Makes.written_eq {stem name : Wording} {index : Nat} (h : e.Makes stem index name)
    {text : String} (written : name.written = .ok text) :
    ∃ s, stem.written = .ok s ∧ text = numberedName s e.bareFirst index := by
  cases h with
  | bare _ bareFirst => exact ⟨text, written, (if_pos ⟨rfl, bareFirst⟩).symm⟩
  | numbered stem_written _ _ _ _ =>
    cases written
    exact ⟨_, stem_written, rfl⟩

/-- Whoever asks for a name is given one that is known already or is generated. -/
theorem generates_nameFor (role : Role) (owner : Nat) (stem : Wording) (param? : Option Value) :
    ∀ a ∈ (e.nameFor role owner stem param?).env.allocations, a ∈ e.allocations ∨
      (a.role = role ∧ a.owner = owner ∧ ∀ text, a.name.written = .ok text →
        (e.nameFor role owner stem param?).env.Generates stem text) := by
  unfold nameFor
  split
  · exact fun a mem => .inl mem
  · cases allocate_allocates e role owner stem param? with
    | @named index name makes env _ =>
      rw [env]
      intro a mem
      refine (List.mem_append.mp mem).imp_right fun mem => ?_
      obtain rfl := List.mem_singleton.mp mem
      refine ⟨rfl, rfl, fun text written => ?_⟩
      obtain ⟨s, stem_written, eq⟩ := makes.written_eq written
      exact ⟨s, index, stem_written, Nat.lt_succ_self index, eq⟩
    | failed _ env _ =>
      rw [env]
      exact fun a mem => .inl mem

/-- A label of the environment belongs to something that the template writes a label for, and its
text is generated of the stem of that. -/
def Labels (e : Environment) (t : Template) (a : Allocation) : Prop :=
  ∃ b, b.id = a.owner ∧ (∃ segment ∈ t, segment.bearer? = some b) ∧
    ∀ text, a.name.written = .ok text → e.Generates (e.stemFor b.stem b.kind) text

theorem Labels.mono {t t' : Template} {a : Allocation} (h : e.Labels t a) (ext : e.Extends e')
    (sub : t ⊆ t') : e'.Labels t' a := by
  obtain ⟨b, owner, ⟨segment, mem, bearer⟩, generates⟩ := h
  refine ⟨b, owner, ⟨segment, sub mem, bearer⟩, fun text written => ?_⟩
  rw [stemFor, ext.stems_eq]
  exact (generates text written).mono ext

end Environment

section Filling

variable {pen : Pen Environment}

/-- The labels that are given while a segment is written are generated. -/
theorem Segment.write_generates (pen : Pen Environment) (segment : Segment) :
    ∀ a ∈ (segment.write pen).pen.env.allocations, a.role = .label →
      a ∈ pen.env.allocations ∨ (segment.write pen).pen.env.Labels [segment] a := by
  intro a mem role
  have ext := segment.write_extends pen
  rcases segment.write_env pen with ⟨b, bearer, eq⟩ | ⟨p, -, eq⟩ | eq <;> rw [eq] at mem
  · refine (Environment.generates_nameFor _ _ _ _ a mem).imp_right fun ⟨_, owner, generates⟩ => ?_
    refine ⟨b, owner.symm, ⟨segment, List.mem_singleton_self _, bearer⟩, fun text written => ?_⟩
    rw [Environment.stemFor, ext.stems_eq, eq]
    exact generates text written
  · rcases Environment.generates_nameFor _ _ _ _ a mem with mem | ⟨isKey, -⟩
    · exact .inl mem
    · cases role.symm.trans isKey
  · exact .inl mem

/-- The labels that are given while a template is filled are generated. -/
theorem Template.fill_generates (t : Template) :
    ∀ a ∈ (t.fill pen).pen.env.allocations, a.role = .label →
      a ∈ pen.env.allocations ∨ (t.fill pen).pen.env.Labels t a := by
  induction t generalizing pen with
  | nil => exact fun a mem _ => .inl mem
  | cons segment rest ih =>
    have first := segment.write_generates pen
    have inFront : [segment] ⊆ segment :: rest :=
      List.cons_subset.mpr ⟨List.mem_cons_self, List.nil_subset _⟩
    simp only [fill]
    split
    · exact fun a mem role => (first a mem role).imp_right fun h => h.mono (.refl _) inFront
    · intro a mem role
      rcases ih a mem role with before | labels
      · exact (first a before role).imp_right fun h => h.mono (fill_extends _ rest) inFront
      · exact .inr (labels.mono (.refl _) (List.subset_cons_self _ _))

end Filling

/-! ### Labels and the names of columns -/

/-- A column's own name can be the label of a node. Here the title of one node is handed on under
the name that another node, in the clause after it, is then given. -/
theorem alias_captured_by_label :
    let nodes : List Construction := [.node .null none, .node .null none,
      .property (.object 0) [.text "title"]]
    let clauses : List Construction := [.read false (.bool false) [.object 0],
      .read false (.bool false) [.object 1],
      .build 5 (.project .passing [.object 3] (.bool false)),
      .build 7 (.project .returning [.object 1] (.bool false)), .statement [.object 5, .object 7]]
    let s := ((Store.empty.called nodes).push (.tuple [.object 2, .text "this1"])).called clauses
    s.Conforming ∧
    (s.compile .defaults 8).result.toOption.map CompiledQuery.text =
      some "MATCH (this0)\nWITH this0.title AS this1\nMATCH (this1)\nRETURN this1" ∧
    ∃ a ∈ (s.write 8 (s.freshEnvironment .defaults)).pen.env.allocations, a.role = .label ∧
      s.Refers (.object a.owner) ∧ ∃ n ∈ (s.tree 8).aliases, a.name.written = .ok n.escaped := by
  intro nodes clauses s
  have plain {t : Store} {vs : List Value} (h : vs.all t.isPlain = true) :
      ∀ v ∈ vs, t.KnowsWithin v := Store.knowsWithin_of_isPlain h
  have conforming : s.Conforming := by
    refine .call (.call (.call (.call (.call (.hold (.call (.call (.call .empty
      ⟨trivial, plain rfl⟩ trivial) ⟨trivial, plain rfl⟩ trivial) ⟨trivial, plain rfl⟩ ⟨_, rfl⟩)
      rfl) ⟨trivial, plain ?first⟩ trivial) ⟨trivial, plain ?second⟩ trivial)
      ⟨trivial, ?pair⟩ trivial) ⟨trivial, plain ?column⟩ trivial) ⟨trivial, plain ?parts⟩ trivial
    case first | second | column | parts => decide +kernel
    refine List.forall_mem_cons.mpr ⟨Store.knowsWithin_atom _ _ _, List.forall_mem_singleton.mpr
      ⟨?known, fun _ found => ?_, fun _ found => ?items⟩⟩
    case known =>
      rintro _ ⟨⟩
      exact ⟨_, rfl⟩
    case items =>
      cases found
      exact List.forall_mem_cons.mpr ⟨(Store.Stands.knowsWithin ⟨_, rfl, rfl⟩).known,
        List.forall_mem_singleton.mpr (Store.knows_atom _ _ _)⟩
    cases found
  have text : (s.compile .defaults 8).result.toOption.map CompiledQuery.text =
      some "MATCH (this0)\nWITH this0.title AS this1\nMATCH (this1)\nRETURN this1" := by
    decide +kernel
  have captured : ((s.write 8 (s.freshEnvironment .defaults)).pen.env.allocations.any fun a =>
      decide (a.role = .label) && (s.reference? (.object a.owner)).isSome &&
        (s.tree 8).aliases.any fun n => a.name.written.toOption == some n.escaped) = true := by
    decide +kernel
  -- From here on it does not matter what is in the store.
  clear_value s
  refine ⟨conforming, text, ?_⟩
  simp only [List.any_eq_true, Bool.and_eq_true, decide_eq_true_eq, beq_iff_eq] at captured
  obtain ⟨a, mem, ⟨role, refers⟩, n, given, same⟩ := captured
  refine ⟨a, mem, role, ?_, n, given, ?_⟩
  · obtain ⟨r, eq⟩ := Option.isSome_iff_exists.mp refers
    exact ⟨r, Store.object?_of_reference? eq⟩
  · cases written : a.name.written with
    | ok t =>
      rw [written] at same
      cases same
      rfl
    | error f =>
      rw [written] at same
      cases same

/-- Whatever is written, a label that the environment of the build has given is the text of a
column's own name in the query only if that name reads like a label: the stem of what has the label
with a number that is used up behind it, or alone in the place of number nought. Other names of
columns would change nothing about the labels and keys. -/
theorem aliases_apart_from_labels (s : Store) (settings : Settings) (h : Nat) :
    let w := s.write h (s.freshEnvironment settings)
    (∀ a ∈ w.pen.env.allocations, a.role = .label → ∀ n ∈ (s.tree h).aliases,
      a.name.written = .ok n.escaped → ∃ b, b.id = a.owner ∧
        (∃ segment ∈ s.template h, segment.bearer? = some b) ∧
        w.pen.env.Generates (w.pen.env.stemFor b.stem b.kind) n.escaped) ∧
    ∀ f : Name → Name, ((s.tree h).realiased f).aliases = (s.tree h).aliases.map f ∧
      let w' := ((s.tree h).realiased f).template.render (s.freshEnvironment settings)
      w'.pen.env = w.pen.env ∧ w'.events = w.events ∧ w'.fault? = w.fault? := by
  intro w
  constructor
  · intro a mem role n _ written
    rcases Template.fill_generates (s.template h) a mem role with before | labels
    · cases before
    · obtain ⟨b, owner, bearer, generates⟩ := labels
      exact ⟨b, owner, bearer, generates _ written⟩
  · intro f
    refine ⟨Tree.aliases_realiased f _, ?_⟩
    intro w'
    have same := Template.fill_unworded ⟨s.freshEnvironment settings, []⟩ (s.tree h).template
    have other :=
      Template.fill_unworded ⟨s.freshEnvironment settings, []⟩ ((s.tree h).realiased f).template
    rw [Tree.unworded_realiased] at other
    obtain ⟨pen_eq, occurrences_eq, fault_eq⟩ := other
    refine ⟨?_, ?_, fault_eq.symm.trans same.2.2⟩
    · exact congrArg Pen.env (pen_eq.symm.trans same.1)
    · exact congrArg (List.map (·.event)) (occurrences_eq.symm.trans same.2.1)

end GraphQuery
