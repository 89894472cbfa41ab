import GraphQuery.Compile
import GraphQuery.Proofs.Naming.Allocation

/-!
Writing is stable under what is written later.

Whatever is written, the environment goes on from where it stood. What was written without a fault
has all its names by then, so in every environment that goes on from there it is written in the same
way once more, and that environment stays as it is.

* `Template.fill_extends`: an environment goes on from where it stood before a template was filled.
* `Template.fill_again`: what was filled without a fault is filled in the same way later on.
* `Environment.Reaches`: all that can be asked of an environment.
* `write_settled`: what this comes to for the objects of a store.
-/

namespace GraphQuery

/-! ### Environments while a template is filled -/

section Filling

variable {pen : Pen Environment}

/-- Only the environment that comes with a name matters for what is written with it. -/
theorem Pen.run_env (pen : Pen Environment) (w : Wording) (piece : String → Piece) :
    (pen.run w piece).pen = pen := by
  unfold Pen.run
  cases w.written with
  | ok s => rfl
  | error f => rfl

/-- A mark in the list of items leaves the environment alone. -/
@[simp] theorem Pen.spoil_env (pen : Pen Environment) : pen.spoil.env = pen.env := by
  obtain ⟨env, lists⟩ := pen
  cases lists with
  | nil => rfl
  | cons _ outer => rfl

/-- A name is written in the environment that came with it. -/
theorem Pen.take_env (given : Allocated Environment Wording)
    {write : Pen Environment → Wording → Writing Environment}
    (keeps : ∀ pen name, (write pen name).pen.env = pen.env) :
    (pen.take given write).pen.env = given.env := by
  unfold Pen.take
  cases given.answer with
  | ok name => exact keeps _ name
  | error f => rfl

/-- A label is given where it is written. -/
theorem Segment.write_label_env (pen : Pen Environment) (b : Bearer) :
    ((label b).write pen).pen.env = (pen.env.labelFor b).env :=
  Pen.take_env _ fun _ _ => by rw [Pen.run_env]

/-- A label is given where it is an item. -/
theorem Segment.write_item_env (pen : Pen Environment) (b : Bearer) :
    ((item b).write pen).pen.env = (pen.env.labelFor b).env := by
  refine Pen.take_env _ fun pen name => ?_
  cases name.word? with
  | some s => rfl
  | none => exact pen.spoil_env

/-- A key is given where it is written. -/
theorem Segment.write_key_env (pen : Pen Environment) (p : Param) :
    ((key p).write pen).pen.env = (pen.env.keyFor p).env :=
  Pen.take_env _ fun _ _ => by rw [Pen.run_env]

/-- What a name is given to in the place of a segment: the bearer of a label. -/
def Segment.bearer? : Segment → Option Bearer
  | label b | item b => some b
  | _ => none

/-- The parameter whose key is given in the place of a segment. -/
def Segment.param? : Segment → Option Param
  | key p => some p
  | _ => none

/-- The stems that are suggested in the place of a segment have a property. -/
structure Segment.Suggests (P : Wording → Prop) (segment : Segment) : Prop where
  bearer : ∀ b, segment.bearer? = some b → ∀ n, b.stem = some n → P (.ofName n)
  param : ∀ p, segment.param? = some p → ∀ n, p.stem = some n → P (.ofName n)

/-- Writing a segment gives a name to its bearer, or a key to its parameter, or leaves the
environment alone. -/
theorem Segment.write_env (pen : Pen Environment) (segment : Segment) :
    (∃ b, segment.bearer? = some b ∧ (segment.write pen).pen.env = (pen.env.labelFor b).env) ∨
    (∃ p, segment.param? = some p ∧ (segment.write pen).pen.env = (pen.env.keyFor p).env) ∨
    (segment.write pen).pen.env = pen.env := by
  cases segment with
  | label b => exact .inl ⟨b, rfl, write_label_env pen b⟩
  | item b => exact .inl ⟨b, rfl, write_item_env pen b⟩
  | key p => exact .inr (.inl ⟨p, rfl, write_key_env pen p⟩)
  | formed | joining | joined | blank | blankItem | closeList =>
    right; right
    simp only [Segment.write]
    split <;> simp [Pen.rest, Pen.put, Pen.fail]
  | text _ | separator | joint | openList | union _ _ | fault _ => exact .inr (.inr rfl)

/-- An environment goes on from where it stood before a segment was written. -/
theorem Segment.write_extends (pen : Pen Environment) (segment : Segment) :
    pen.env.Extends (segment.write pen).pen.env := by
  rcases segment.write_env pen with ⟨b, -, eq⟩ | ⟨p, -, eq⟩ | eq <;> rw [eq]
  · exact pen.env.nameFor_extends _ _ _ _
  · exact pen.env.nameFor_extends _ _ _ _
  · exact .refl _

/-- Writing a segment keeps the property of all names. -/
theorem Segment.write_worded {P : Wording → Prop} (numbered : Environment.Numbered P)
    (worded : pen.env.Worded P) {segment : Segment} (suggests : segment.Suggests P) :
    (segment.write pen).pen.env.Worded P := by
  rcases segment.write_env pen with ⟨b, isBearer, eq⟩ | ⟨p, isParam, eq⟩ | eq <;> rw [eq]
  · exact worded.nameFor numbered _ _ (worded.stemFor (suggests.bearer b isBearer) _) _
  · exact worded.nameFor numbered _ _ (worded.stemFor (suggests.param p isParam) _) _
  · exact worded

/-- An environment goes on from where it stood before a template was filled. -/
theorem Template.fill_extends (pen : Pen Environment) (t : Template) :
    pen.env.Extends (t.fill pen).pen.env := by
  induction t generalizing pen with
  | nil => exact .refl _
  | cons segment rest ih =>
    simp only [fill]
    split
    · exact segment.write_extends pen
    · exact (segment.write_extends pen).trans (ih _)

/-- Filling a template keeps the property of all names. -/
theorem Template.fill_worded {P : Wording → Prop} (numbered : Environment.Numbered P)
    (worded : pen.env.Worded P) {t : Template} (suggests : ∀ segment ∈ t, segment.Suggests P) :
    (t.fill pen).pen.env.Worded P := by
  induction t generalizing pen with
  | nil => exact worded
  | cons segment rest ih =>
    obtain ⟨first, others⟩ := List.forall_mem_cons.mp suggests
    have written := Segment.write_worded numbered worded first
    simp only [fill]
    split
    · exact written
    · exact ih written others

/-- Where every name has a property, all stems that are suggested have it. -/
theorem Segment.suggests_of_forall {P : Wording → Prop} (ofName : ∀ n, P (.ofName n))
    (segment : Segment) : segment.Suggests P :=
  ⟨fun _ _ n _ => ofName n, fun _ _ n _ => ofName n⟩

/-- Names that are something stay so while a segment is written. -/
theorem Segment.write_named (named : pen.env.Named) (segment : Segment) :
    (segment.write pen).pen.env.Named :=
  write_worded Environment.numbered_isNull named (suggests_of_forall Environment.isNull_ofName _)

end Filling

/-! ### Writing once more -/

/-- In an environment, something is written like before: the same pieces without a fault, and
nothing happens to the environment. -/
structure Writing.Again (w : Writing Environment) (e : Environment) (w' : Writing Environment) :
    Prop where
  pieces_eq : w'.pieces = w.pieces
  fault_eq : w'.fault? = none
  pen_eq : w'.pen = ⟨e, w.pen.lists⟩

/-- What is written like before is answered like before, if texts are handed out with one mark. -/
theorem Writing.Again.answer_eq {w w' : Writing Environment} {e : Environment} (h : w.Again e w')
    (ok : w.fault? = none) (marked : e.mark = w.pen.env.mark) : w'.answer = w.answer := by
  have text_eq : w'.text = w.text := by rw [Writing.text, Writing.text, h.pieces_eq]
  have marked : Registry.mark w'.pen.env = Registry.mark w.pen.env := by
    rw [h.pen_eq]
    exact marked
  unfold Writing.answer
  rw [h.fault_eq, ok]
  simp only [Writing.value, h.pieces_eq, text_eq, marked]

/-- An answer is there if nothing failed. -/
theorem Writing.fault_eq_of_answer {w : Writing Environment} {v : Value} (h : w.answer = .ok v) :
    w.fault? = none := by
  unfold Writing.answer at h
  split at h
  · cases h
  · assumption

section Again

variable {pen : Pen Environment} {e : Environment}

/-- What is put down or passed over is so once more. -/
theorem Pen.again_put (e : Environment) (pen : Pen Environment) (piece : Piece) :
    (pen.put piece).Again e (Pen.put ⟨e, pen.lists⟩ piece) :=
  ⟨rfl, rfl, rfl⟩

theorem Pen.again_rest (e : Environment) (pen : Pen Environment) :
    pen.rest.Again e (Pen.rest ⟨e, pen.lists⟩) :=
  ⟨rfl, rfl, rfl⟩

/-- A name that was given is given again, so if it is written in the same way then so is all. -/
theorem Pen.again_take {role : Role} {owner : Nat} {stem stem' : Wording} {param? : Option Value}
    {write : Pen Environment → Wording → Writing Environment}
    (something : stem.isNull = false)
    (ok : (pen.take (pen.env.nameFor role owner stem param?) write).fault? = none)
    (ext : (pen.env.nameFor role owner stem param?).env.Extends e)
    (again : ∀ name, (write ⟨(pen.env.nameFor role owner stem param?).env, pen.lists⟩ name).fault? =
      none → (write ⟨(pen.env.nameFor role owner stem param?).env, pen.lists⟩ name).Again e
        (write ⟨e, pen.lists⟩ name)) :
    (pen.take (pen.env.nameFor role owner stem param?) write).Again e
      (Pen.take ⟨e, pen.lists⟩ (e.nameFor role owner stem' param?) write) := by
  cases answered : (pen.env.nameFor role owner stem param?).answer with
  | error f => simp [Pen.take, answered] at ok
  | ok name =>
    have found := ext.find?_eq (Environment.find?_of_nameFor something answered)
    rw [Environment.nameFor_of_find? found stem' param?]
    simp only [Pen.take, answered] at ok ⊢
    exact ⟨(again name ok).pieces_eq, (again name ok).fault_eq, (again name ok).pen_eq⟩

/-- What had a text in running text has the same once more. -/
theorem Pen.again_run (e : Environment) (pen : Pen Environment) {w : Wording}
    {piece : String → Piece} (ok : (pen.run w piece).fault? = none) :
    (pen.run w piece).Again e (Pen.run ⟨e, pen.lists⟩ w piece) := by
  unfold Pen.run at ok ⊢
  cases written : w.written with
  | ok s => exact Pen.again_put e pen (piece s)
  | error f => simp [written, Pen.fail] at ok

/-- A list is spoilt once more. -/
theorem Pen.again_spoil (e : Environment) (pen : Pen Environment) :
    pen.spoil.rest.Again e (Pen.spoil ⟨e, pen.lists⟩).rest := by
  obtain ⟨env, lists⟩ := pen
  cases lists with
  | nil => exact ⟨rfl, rfl, rfl⟩
  | cons _ outer => exact ⟨rfl, rfl, rfl⟩

/-- A segment that was written is written again in every environment that goes on from there. -/
theorem Segment.write_again (named : pen.env.Named) (segment : Segment)
    (ok : (segment.write pen).fault? = none) (ext : (segment.write pen).pen.env.Extends e) :
    (segment.write pen).Again e (segment.write ⟨e, pen.lists⟩) := by
  have separator_eq : e.separator = pen.env.separator :=
    ((segment.write_extends pen).trans ext).separator_eq
  cases segment with
  | text s => exact Pen.again_put e pen _
  | label b =>
    rw [write_label_env] at ext
    exact Pen.again_take (named.stemFor _ _) ok ext fun name ok => Pen.again_run e _ ok
  | item b =>
    rw [write_item_env] at ext
    refine Pen.again_take (named.stemFor _ _) ok ext fun name _ => ?_
    cases name.word? with
    | some s => exact Pen.again_put e ⟨_, pen.lists⟩ _
    | none => exact Pen.again_spoil e ⟨_, pen.lists⟩
  | key p =>
    rw [write_key_env] at ext
    exact Pen.again_take (named.stemFor _ _) ok ext fun name ok => Pen.again_run e _ ok
  | separator | joint =>
    simp only [Segment.write, Registry.separator, separator_eq]
    exact Pen.again_put e pen _
  | formed | joining | joined | blank | blankItem =>
    simp only [Segment.write, Registry.separator, separator_eq] at ok ⊢
    split
    all_goals first
      | exact Pen.again_put e pen _
      | exact Pen.again_rest e pen
      | exact Pen.again_spoil e pen
      | simp_all [Pen.fail]
  | openList => exact ⟨rfl, rfl, rfl⟩
  | closeList =>
    simp only [Segment.write] at ok ⊢
    split
    · simp_all [Pen.fail]
    · exact ⟨rfl, rfl, rfl⟩
    · exact Pen.again_rest e pen
  | union branches keyword => exact ⟨rfl, rfl, rfl⟩
  | fault f => simp [Segment.write, Pen.fail] at ok

/-- A template that was filled is filled again in every environment that goes on from there. -/
theorem Template.fill_again (named : pen.env.Named) (t : Template)
    (ok : (t.fill pen).fault? = none) (ext : (t.fill pen).pen.env.Extends e) :
    (t.fill pen).Again e (t.fill ⟨e, pen.lists⟩) := by
  induction t generalizing pen with
  | nil => exact Pen.again_rest e pen
  | cons segment rest ih =>
    simp only [fill] at ok ext ⊢
    cases first : (segment.write pen).fault? with
    | some f => simp [first] at ok
    | none =>
      simp only [first] at ok ext ⊢
      -- The names of the rest are given after those of the first segment.
      have head := Segment.write_again named segment first
        ((fill_extends (segment.write pen).pen rest).trans ext)
      have tail := ih (Segment.write_named named segment) ok ext
      rw [head.fault_eq, head.pen_eq]
      exact ⟨by rw [head.pieces_eq, tail.pieces_eq], tail.fault_eq, tail.pen_eq⟩

end Again

/-- An environment goes on from where it stood before an object was written. -/
theorem Store.write_extends (s : Store) (h : Nat) (e : Environment) :
    e.Extends (s.write h e).pen.env :=
  Template.fill_extends ⟨e, []⟩ (s.template h)

/-! ### All that can be asked of an environment -/

namespace Environment

/-- What an environment can become: labels and keys are asked for, also the key of a reference, and
objects are written, in any order and whether or not that succeeds. -/
inductive Reaches (e : Environment) : Environment → Prop where
  | refl : Reaches e e
  | label {e' : Environment} (b : Bearer) : Reaches e e' → Reaches e (e'.labelFor b).env
  | key {e' : Environment} (p : Param) : Reaches e e' → Reaches e (e'.keyFor p).env
  | keyOfReference {e' : Environment} (r : Reference) : Reaches e e' →
      Reaches e (e'.keyForReference r).env
  | written {e' : Environment} (s : Store) (h : Nat) : Reaches e e' →
      Reaches e (s.write h e').pen.env

/-- Asking a reference for a key allocates like any other question. -/
theorem keyForReference_env (e : Environment) (r : Reference) :
    (e.keyForReference r).env = (e.nameFor .key r.id (e.stemFor r.stem .param) none).env := by
  unfold keyForReference nameFor
  cases e.find? .key r.id with
  | some name => rfl
  | none => rfl

/-- An environment only ever goes on. -/
theorem Reaches.extends {e e' : Environment} (h : e.Reaches e') : e.Extends e' := by
  induction h with
  | refl => exact .refl _
  | label b _ ih => exact ih.trans (nameFor_extends _ _ _ _ _)
  | key p _ ih => exact ih.trans (nameFor_extends _ _ _ _ _)
  | keyOfReference r _ ih =>
    rw [keyForReference_env]
    exact ih.trans (nameFor_extends _ _ _ _ _)
  | written s h _ ih => exact ih.trans (s.write_extends h _)

/-- No name ever becomes nothing. -/
theorem Reaches.named {e e' : Environment} (h : e.Reaches e') (named : e.Named) : e'.Named := by
  induction h with
  | refl => exact named
  | label b _ ih => exact ih.nameFor numbered_isNull _ _ (Named.stemFor ih _ _) _
  | key p _ ih => exact ih.nameFor numbered_isNull _ _ (Named.stemFor ih _ _) _
  | keyOfReference r _ ih =>
    rw [keyForReference_env]
    exact ih.nameFor numbered_isNull _ _ (Named.stemFor ih _ _) _
  | written s h _ ih =>
    exact Template.fill_worded numbered_isNull ih fun segment _ =>
      segment.suggests_of_forall isNull_ofName

/-- In a new environment there is no name that could be nothing. -/
theorem named_blank {n : Naming} (given : ∀ kind, (n.stems kind).isNull = false)
    (view : ObjectView) (mark : Nat) : (n.environment view (.blank mark)).Named := by
  refine ⟨fun kind => ?_, fun a mem => absurd mem List.not_mem_nil⟩
  exact Wording.isNull_ofValue view (given kind)

end Environment

/-! ### Objects -/

/-- An object is written in a state of an environment. The environment goes on from there: names and
parameters stay, and the counter never goes back. This holds on the way too, for every part that has
been written. In whatever state the environment is later, the object is answered the same text
again, and the environment stays as it is. -/
theorem write_settled (n : Naming) (view : ObjectView) (mark : Nat)
    (given : ∀ kind, (n.stems kind).isNull = false) (e : Environment)
    (reached : (n.environment view (.blank mark)).Reaches e) (s : Store) (h : Nat) (v : Value)
    (answered : (s.write h e).answer = .ok v) :
    e.Extends (s.write h e).pen.env ∧
    (∀ earlier later, s.template h = earlier ++ later →
      (earlier.render e).pen.env.Extends (s.write h e).pen.env) ∧
    (∀ role owner name, (s.write h e).pen.env.find? role owner = some name →
      ∀ e', (s.write h e).pen.env.Reaches e' → e'.find? role owner = some name) ∧
    ∀ e', (s.write h e).pen.env.Reaches e' →
      (s.write h e').answer = .ok v ∧ (s.write h e').pen.env = e' := by
  have named := reached.named (Environment.named_blank given view mark)
  refine ⟨s.write_extends h e, ?_, ?_, ?_⟩
  · intro earlier later split
    simp only [Store.write, Template.render, split, Template.fill_append]
    split
    · exact .refl _
    · exact Template.fill_extends _ later
  · intro role owner name found e' reaches
    exact reaches.extends.find?_eq found
  · intro e' reaches
    have ok := Writing.fault_eq_of_answer answered
    have again := Template.fill_again named (s.template h) ok reaches.extends
    refine ⟨?_, congrArg Pen.env again.pen_eq⟩
    rw [← answered]
    exact again.answer_eq ok reaches.extends.mark_eq

/-- In a store with a node alone, the node is written twice in an environment that begins with the
bare stem, and the first parameter is given its key in between. -/
theorem write_settled_node :
    let s : Store := ⟨#[.reference ⟨0, none, .node []⟩], []⟩
    let e := Naming.environment s.view ⟨fun _ => .text "n", .bool true, .text " "⟩ (.blank 0)
    let e' := ((s.write 0 e).pen.env.keyFor ⟨1, .int 7, none⟩).env
    (s.write 0 e).answer = .ok (.text "n") ∧
      (s.write 0 e').answer = .ok (.text "n") ∧ (s.write 0 e').pen.env = e' := by
  intro s e e'
  have answered : (s.write 0 e).answer = .ok (.text "n") := by
    have template : s.template 0 = [.label (.reference ⟨0, none, .node []⟩)] := rfl
    have labelled : (e.labelFor (.reference ⟨0, none, .node []⟩)).answer = .ok (.text "n") := by
      change Except.ok (Wording.text (numberedName "n" true (firstFree _ [] 0))) = _
      rw [firstFree_nil]
      rfl
    simp only [Store.write, template, Template.render, Template.fill, Segment.write, Pen.take,
      Registry.labelFor, labelled]
    rfl
  obtain ⟨-, -, -, again⟩ :=
    write_settled _ s.view 0 (fun _ => rfl) e .refl s 0 (.text "n") answered
  exact ⟨answered, again e' (.key _ .refl)⟩

end GraphQuery
