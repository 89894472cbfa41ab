import GraphQuery.Proofs.Naming.Numbering
import GraphQuery.Proofs.Naming.Tally
import GraphQuery.Proofs.Rendering.Written
import GraphQuery.Proofs.Tree.Marks

/-!
The events of a writing account for the counter.

What happens while a segment is written is that a name is asked for or that a union is announced.
Whoever asks for a name tells of the numbers that are passed over, and a union is announced with the
counter as it stands. So the events of a writing tell how far the counter has moved on.

* `Segment.Effect`: what the writing of a segment does, `Segment.effect` that it does nothing else.
* `Template.fill_tally`: the names in a template and the numbers that were passed over account for
  the counter.
* `Template.fill_unions`, `Template.fill_announces`: the unions of a template are announced in their
  order, each with the counter that the template in front of it has left behind.
-/

namespace GraphQuery

/-- The union that is announced, with the counter as it stood. -/
def Event.union? : Event → Option (Nat × String × Value)
  | union branches keyword startIndex => some (branches, keyword, startIndex)
  | _ => none

namespace Writing

variable {σ : Type}

/-- The numbers that were passed over, as they were told of. -/
def skipped (w : Writing σ) : List Value := w.events.filterMap Event.skipped?

/-- The unions as they were announced. -/
def unions (w : Writing σ) : List (Nat × String × Value) := w.events.filterMap Event.union?

end Writing

/-- The object that is given a name in the place of a segment, in a role. -/
def Segment.named? (segment : Segment) : Role → Option Nat
  | .label => segment.bearer?.map Bearer.id
  | .key => segment.param?.map Param.id

/-- The objects that are given a name in the places of a template, in a role. -/
def Template.named (t : Template) (role : Role) : List Nat :=
  t.filterMap fun segment => segment.named? role

theorem Template.mem_named_cons {segment : Segment} {t : Template} {role : Role} {i : Nat} :
    i ∈ named (segment :: t) role ↔ segment.named? role = some i ∨ i ∈ named t role := by
  simp [named]

/-! ### One segment -/

section Filling

variable {pen : Pen Environment}

/-- What the writing of a segment does to the environment, and what is told of it. -/
inductive Segment.Effect (pen : Pen Environment) (segment : Segment) : Prop where
  | named (role : Role) (owner : Nat) (suggested : Option Name) (kind : Kind)
      (param? : Option Value) : (∀ r, segment.named? r = if r = role then some owner else none) →
      segment.union? = none →
      (segment.write pen).pen.env =
        (pen.env.nameFor role owner (pen.env.stemFor suggested kind) param?).env →
      (segment.write pen).occurrences =
        (pen.env.nameFor role owner (pen.env.stemFor suggested kind) param?).occurrences →
      Effect pen segment
  | announced (branches : Nat) (keyword : String) : segment = .union branches keyword →
      Effect pen segment
  | silent : (∀ r, segment.named? r = none) → segment.union? = none →
      (segment.write pen).pen.env = pen.env → (segment.write pen).occurrences = [] →
      Effect pen segment

/-- Nothing happens behind a name if nothing happens where it is written. -/
theorem Pen.take_occurrences (given : Allocated Environment Wording)
    {write : Pen Environment → Wording → Writing Environment}
    (silent : ∀ pen name, (write pen name).occurrences = []) :
    (pen.take given write).occurrences = given.occurrences := by
  unfold Pen.take
  cases given.answer with
  | ok name => simp [silent]
  | error f => rfl

/-- Nothing happens where a text is written. -/
theorem Pen.run_occurrences (pen : Pen Environment) (w : Wording) (piece : String → Piece) :
    (pen.run w piece).occurrences = [] := by
  unfold Pen.run
  cases w.written <;> rfl

/-- The writing of a segment does nothing else. -/
theorem Segment.effect (pen : Pen Environment) (segment : Segment) : segment.Effect pen := by
  cases segment with
  | label b =>
    refine .named .label b.id b.stem b.kind none ?_ rfl (write_label_env pen b) ?_
    · intro r
      cases r <;> rfl
    · exact Pen.take_occurrences _ fun _ _ => Pen.run_occurrences _ _ _
  | item b =>
    refine .named .label b.id b.stem b.kind none ?_ rfl (write_item_env pen b) ?_
    · intro r
      cases r <;> rfl
    · apply Pen.take_occurrences
      intro pen name
      cases name.word? <;> rfl
  | key p =>
    refine .named .key p.id p.stem .param (some p.value) ?_ rfl (write_key_env pen p) ?_
    · intro r
      cases r <;> rfl
    · exact Pen.take_occurrences _ fun _ _ => Pen.run_occurrences _ _ _
  | union branches keyword => exact .announced branches keyword rfl
  | formed | joining | joined | blank | blankItem | closeList =>
    refine .silent (fun r => by cases r <;> rfl) rfl ?_ ?_ <;> simp only [write] <;> split <;>
      simp [Pen.rest, Pen.put, Pen.fail]
  | text _ | separator | joint | openList | fault _ =>
    exact .silent (fun r => by cases r <;> rfl) rfl rfl rfl

/-- A segment tells of the numbers that are passed over, and of no others. -/
theorem Segment.write_skipped (pen : Pen Environment) (segment : Segment) :
    (segment.write pen).skipped =
      (pen.env.passed (segment.write pen).pen.env).map fun i : Nat => .int i := by
  rw [Writing.skipped, Writing.events, List.filterMap_map]
  cases segment.effect pen with
  | named role owner suggested kind param? _ _ env occurrences =>
    rw [env, occurrences]
    exact pen.env.nameFor_skipped _ _ _ _
  | announced branches keyword eq =>
    subst eq
    simp [write, Event.skipped?]
  | silent _ _ env occurrences => simp [env, occurrences]

/-- A segment announces the union that it is, with the counter as it stands. -/
theorem Segment.write_unions (pen : Pen Environment) (segment : Segment) :
    (segment.write pen).unions =
      (segment.union?.map fun u => (u.1, u.2, .int pen.env.size)).toList := by
  rw [Writing.unions, Writing.events, List.filterMap_map]
  cases segment.effect pen with
  | named role owner suggested kind param? _ none _ occurrences =>
    rw [occurrences, none, Option.map_none, Option.toList_none, List.filterMap_eq_nil_iff]
    intro o mem
    obtain ⟨identifier, index, eq⟩ := pen.env.nameFor_occurrences _ _ _ _ o mem
    simp [eq, Event.union?]
  | announced branches keyword eq =>
    subst eq
    rfl
  | silent _ none _ occurrences => simp [none, occurrences]

/-- Whatever happens while a segment is written, a name is passed over or a union is announced. -/
theorem Segment.write_events (pen : Pen Environment) (segment : Segment) :
    ∀ event ∈ (segment.write pen).events,
      (∃ identifier index, event = .collision identifier index) ∨
      ∃ branches keyword startIndex, event = .union branches keyword startIndex := by
  intro event told
  obtain ⟨o, mem, rfl⟩ := List.mem_map.mp told
  cases segment.effect pen with
  | named role owner suggested kind param? _ _ _ occurrences =>
    rw [occurrences] at mem
    exact .inl (pen.env.nameFor_occurrences _ _ _ _ o mem)
  | announced branches keyword eq =>
    subst eq
    cases List.mem_singleton.mp mem
    exact .inr ⟨_, _, _, rfl⟩
  | silent _ _ _ occurrences =>
    rw [occurrences] at mem
    cases mem

/-- Writing a segment adds the object that is given a name there to those that were met. -/
theorem Segment.write_tally {met met' : Role → List Nat} {skipped : List Nat}
    (tally : pen.env.Tally met skipped) (segment : Segment)
    (noted : ∀ r i, i ∈ met' r ↔ i ∈ met r ∨ segment.named? r = some i) :
    (segment.write pen).pen.env.Tally met'
      (skipped ++ pen.env.passed (segment.write pen).pen.env) := by
  have unnamed : (∀ r, segment.named? r = none) → (segment.write pen).pen.env = pen.env →
      (segment.write pen).pen.env.Tally met'
        (skipped ++ pen.env.passed (segment.write pen).pen.env) := by
    intro none env
    rw [env, Environment.passed_self, List.append_nil]
    refine { tally with mem_owners := fun r i => ?_ }
    simp [noted, none, tally.mem_owners]
  cases segment.effect pen with
  | named role owner suggested kind param? names _ env _ =>
    have isText : (pen.env.stemFor suggested kind).IsText :=
      tally.worded.stemFor (fun n _ => Wording.isText_ofName n) kind
    rw [env]
    refine tally.nameFor role owner isText param? fun r i => ?_
    rw [noted, names]
    by_cases same : r = role <;> simp [same, eq_comm]
  | announced branches keyword eq =>
    subst eq
    exact unnamed (fun r => by cases r <;> rfl) rfl
  | silent none _ env _ => exact unnamed none env

/-! ### Templates -/

/-- What is filled is so from its first segment on, if that is written without a fault. -/
theorem Template.fill_cons_of_written {segment : Segment} (rest : Template)
    (written : (segment.write pen).fault? = none) :
    fill pen (segment :: rest) =
      let others := fill (segment.write pen).pen rest
      ⟨others.pen, (segment.write pen).pieces ++ others.pieces,
        (segment.write pen).occurrences ++ others.occurrences, others.fault?⟩ := by
  simp only [fill, written]

/-- Whatever happens while a template is filled, a name is passed over or a union is announced. -/
theorem Template.fill_events (pen : Pen Environment) (t : Template) :
    ∀ event ∈ (t.fill pen).events, (∃ identifier index, event = .collision identifier index) ∨
      ∃ branches keyword startIndex, event = .union branches keyword startIndex := by
  induction t generalizing pen with
  | nil => exact fun _ mem => absurd mem List.not_mem_nil
  | cons segment rest ih =>
    have first := segment.write_events pen
    simp only [fill]
    split
    · exact first
    · rw [Writing.events, List.map_append]
      exact List.forall_mem_append.mpr ⟨first, ih _⟩

/-- In a template that is filled without a fault, the objects that are given names and the numbers
that are passed over on the way account for the counter. -/
theorem Template.fill_tally {met met' : Role → List Nat} {skipped : List Nat}
    (tally : pen.env.Tally met skipped) {t : Template} (ok : (t.fill pen).fault? = none)
    (noted : ∀ r i, i ∈ met' r ↔ i ∈ met r ∨ i ∈ t.named r) :
    ∃ further : List Nat, (t.fill pen).skipped = further.map (fun i : Nat => .int i) ∧
      (t.fill pen).pen.env.Tally met' (skipped ++ further) := by
  induction t generalizing pen met skipped with
  | nil =>
    refine ⟨[], rfl, ?_⟩
    rw [List.append_nil]
    refine { tally with mem_owners := fun r i => (tally.mem_owners r i).trans ?_ }
    simp [noted, named]
  | cons segment rest ih =>
    obtain ⟨written, ok', -, -⟩ := fill_cons_of_ok ok
    have first : (segment.write pen).pen.env.Tally (fun r => met r ++ (segment.named? r).toList)
        (skipped ++ pen.env.passed (segment.write pen).pen.env) :=
      Segment.write_tally tally segment fun r i => by simp
    obtain ⟨further, told, tally'⟩ := ih first ok' fun r i => by
      rw [noted, mem_named_cons, List.mem_append, Option.mem_toList, or_assoc]
    refine ⟨pen.env.passed (segment.write pen).pen.env ++ further, ?_, ?_⟩
    · rw [List.map_append, ← segment.write_skipped, ← told, fill_cons_of_written rest written]
      simp [Writing.skipped, Writing.events]
    · rw [fill_cons_of_written rest written, ← List.append_assoc]
      exact tally'

/-- The unions that are announced are those of the template, in their order. -/
theorem Template.fill_unions {t : Template} (ok : (t.fill pen).fault? = none) :
    (t.fill pen).unions.map (fun u => (u.1, u.2.1)) = t.unions := by
  induction t generalizing pen with
  | nil => rfl
  | cons segment rest ih =>
    obtain ⟨written, ok', -, -⟩ := fill_cons_of_ok ok
    have unions_eq : (fill pen (segment :: rest)).unions =
        (segment.write pen).unions ++ (fill (segment.write pen).pen rest).unions := by
      rw [fill_cons_of_written rest written]
      simp [Writing.unions, Writing.events]
    rw [unions_eq, List.map_append, ih ok', segment.write_unions, unions_cons]
    cases segment.union? <;> rfl

/-- What is filled without a fault is so in its first part, and what happens there happens first. -/
theorem Template.fill_front {front behind : Template}
    (ok : (fill pen (front ++ behind)).fault? = none) :
    (fill pen front).fault? = none ∧ (fill (fill pen front).pen behind).fault? = none ∧
      (fill pen (front ++ behind)).events =
        (fill pen front).events ++ (fill (fill pen front).pen behind).events := by
  rw [fill_append] at ok ⊢
  cases first : (fill pen front).fault? with
  | some f => simp [first] at ok
  | none =>
    simp only [first] at ok ⊢
    exact ⟨trivial, ok, List.map_append⟩

/-- A union is announced behind those in front of it, with the counter that these have left. -/
theorem Template.fill_announces {front behind : Template} {branches : Nat} {keyword : String}
    (ok : (fill pen (front ++ .union branches keyword :: behind)).fault? = none) :
    (fill pen (front ++ .union branches keyword :: behind)).unions[front.unions.length]? =
      some (branches, keyword, .int (fill pen front).pen.env.size) := by
  obtain ⟨before, later, events⟩ := fill_front ok
  obtain ⟨written, -, -, -⟩ := fill_cons_of_ok later
  rw [fill_cons_of_written behind written] at events
  rw [← fill_unions before, List.length_map, Writing.unions, events, List.filterMap_append,
    ← Writing.unions, List.getElem?_append_right (Nat.le_refl _), Nat.sub_self]
  rfl

end Filling

end GraphQuery
