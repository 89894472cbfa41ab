import GraphQuery.Template
import Mathlib.Data.List.Forall2

/-!
Templates that differ only in who bears a name and in the values of parameters.

The owners of names in two templates are related one to one, the values of parameters in some way.
Everything else is the same: texts, stems and kinds. Filled in like environments, like templates
give the same text and the same events.

* `Likeness`: how owners and values are related.
* `Environment.Alike`, `Environment.Alike.nameFor`: like environments give the same names.
* `Template.Alike.fill`: like templates are filled alike.
-/

namespace GraphQuery

/-- How the owners of names and the values of parameters are related. Owners are related one to
one. -/
structure Likeness where
  owner : Nat → Nat → Prop
  value : Value → Value → Prop
  unique : ∀ {i i' j j' : Nat}, owner i j → owner i' j' → (i = i' ↔ j = j')

section Alike

variable (L : Likeness)

/-- Two bearers of labels are alike. -/
structure Bearer.Alike (b b' : Bearer) : Prop where
  owner : L.owner b.id b'.id
  stem_eq : b'.stem = b.stem
  kind_eq : b'.kind = b.kind

/-- Two parameters have like keys and related values. -/
structure Param.Corresponds (p p' : Param) : Prop where
  owner : L.owner p.id p'.id
  stem_eq : p'.stem = p.stem
  value : L.value p.value p'.value

/-- Whether a name is written in the place of a segment. -/
def Segment.isName : Segment → Bool
  | label _ | item _ | key _ => true
  | _ => false

/-- Two segments are alike. -/
inductive Segment.Alike : Segment → Segment → Prop where
  | label {b b' : Bearer} : b.Alike L b' → Alike (.label b) (.label b')
  | item {b b' : Bearer} : b.Alike L b' → Alike (.item b) (.item b')
  | key {p p' : Param} : p.Corresponds L p' → Alike (.key p) (.key p')
  | other {segment : Segment} : segment.isName = false → Alike segment segment

/-- Two templates are alike. -/
abbrev Template.Alike : Template → Template → Prop := List.Forall₂ (Segment.Alike L)

/-- Two entries of ledgers are alike. -/
structure Allocation.Alike (a a' : Allocation) : Prop where
  role_eq : a'.role = a.role
  owner : L.owner a.owner a'.owner
  name_eq : a'.name = a.name
  param : Option.Rel L.value a.param? a'.param?

/-- Two environments have given the same names to like owners. -/
structure Environment.Alike (e e' : Environment) : Prop where
  counter_eq : e'.counter = e.counter
  allocations : List.Forall₂ (Allocation.Alike L) e.allocations e'.allocations
  mark_eq : e'.mark = e.mark
  stems_eq : e'.stems = e.stems
  bareFirst_eq : e'.bareFirst = e.bareFirst
  separator_eq : e'.separator = e.separator

/-- Two requests for a name come to the same. -/
structure Allocated.Alike (given given' : Allocated Environment Wording) : Prop where
  env : given.env.Alike L given'.env
  events_eq : given'.occurrences.map (·.event) = given.occurrences.map (·.event)
  answer_eq : given'.answer = given.answer

/-- Two pieces have one text. -/
inductive Piece.Alike : Piece → Piece → Prop where
  | text {s : String} : Alike (.text s) (.text s)
  | separator {s : String} : Alike (.separator s) (.separator s)
  | label {b b' : Bearer} {given : Wording} {s : String} : b.Alike L b' →
      Alike (.label b given s) (.label b' given s)
  | key {p p' : Param} {given : Wording} {s : String} : p.Corresponds L p' →
      Alike (.key p given s) (.key p' given s)
  | noBytes : Alike .noBytes .noBytes

/-- Two writings come to the same. -/
structure Writing.Alike (w w' : Writing Environment) : Prop where
  env : w.pen.env.Alike L w'.pen.env
  lists_eq : w'.pen.lists = w.pen.lists
  pieces : List.Forall₂ (Piece.Alike L) w.pieces w'.pieces
  events_eq : w'.events = w.events
  fault_eq : w'.fault? = w.fault?

end Alike

variable {L : Likeness}

/-! ### Like environments -/

namespace Environment.Alike

variable {e e' : Environment} {role : Role} {owner owner' : Nat} {param? param?' : Option Value}

/-- Like environments find the same name for like owners. -/
theorem find?_eq (like : e.Alike L e') (owners : L.owner owner owner') :
    e'.find? role owner' = e.find? role owner := by
  have names := like.allocations
  unfold find?
  generalize e.allocations = as at names
  generalize e'.allocations = as' at names
  induction names with
  | nil => rfl
  | @cons a a' as as' first _ ih =>
    have owner_eq : (a'.owner == owner') = (a.owner == owner) := by
      rw [Bool.eq_iff_iff, beq_iff_eq, beq_iff_eq]
      exact (L.unique first.owner owners).symm
    rw [List.find?_cons, List.find?_cons, first.role_eq, owner_eq, first.name_eq]
    split
    · simp [first.name_eq]
    · exact ih

/-- Like environments have the same texts in use. -/
theorem issued_eq (like : e.Alike L e') : e'.issued = e.issued := by
  have names := like.allocations
  unfold issued
  generalize e.allocations = as at names
  generalize e'.allocations = as' at names
  induction names with
  | nil => rfl
  | cons first _ ih => rw [List.filterMap_cons, List.filterMap_cons, first.name_eq, ih]

theorem moved (like : e.Alike L e') (n : Nat) : (e.moved n).Alike L (e'.moved n) :=
  { like with counter_eq := rfl }

theorem recorded (like : e.Alike L e') {a a' : Allocation} (alike : a.Alike L a') :
    (e.recorded a).Alike L (e'.recorded a') :=
  { like with allocations := List.rel_append like.allocations (.cons alike .nil) }

/-- Like environments allocate the same name behind a text. -/
theorem allocateText (like : e.Alike L e') (owners : L.owner owner owner') (stem : String)
    (params : Option.Rel L.value param? param?') :
    (e.allocateText role owner stem param?).Alike L (e'.allocateText role owner' stem param?') := by
  have index_eq : firstFree (numberedName stem e'.bareFirst) e'.issued e'.counter =
      firstFree (numberedName stem e.bareFirst) e.issued e.counter := by
    rw [like.issued_eq, like.bareFirst_eq, like.counter_eq]
  unfold Environment.allocateText
  dsimp only
  rw [index_eq, like.bareFirst_eq, like.counter_eq]
  refine ⟨(like.moved _).recorded ⟨rfl, owners, rfl, params⟩, ?_, rfl⟩
  simp

/-- Like environments allocate the same name. -/
theorem allocate (like : e.Alike L e') (owners : L.owner owner owner') (stem : Wording)
    (params : Option.Rel L.value param? param?') :
    (e.allocate role owner stem param?).Alike L (e'.allocate role owner' stem param?') := by
  cases stem with
  | text s => exact like.allocateText owners s params
  | value v written hashable =>
    simp only [Environment.allocate, Environment.allocateBare, like.counter_eq, like.bareFirst_eq]
    split
    · cases hashable with
      | true => exact ⟨(like.moved _).recorded ⟨rfl, owners, rfl, params⟩, rfl, rfl⟩
      | false => exact ⟨like.moved _, rfl, rfl⟩
    · cases written with
      | ok s => exact like.allocateText owners s params
      | error f => exact ⟨like.moved _, rfl, rfl⟩

/-- Like environments give the same names. -/
theorem nameFor (like : e.Alike L e') (owners : L.owner owner owner') (stem : Wording)
    (params : Option.Rel L.value param? param?') :
    (e.nameFor role owner stem param?).Alike L (e'.nameFor role owner' stem param?') := by
  unfold Environment.nameFor
  rw [like.find?_eq owners]
  cases e.find? role owner with
  | some name => exact ⟨like, rfl, rfl⟩
  | none => exact like.allocate owners stem params

theorem stemFor_eq (like : e.Alike L e') (suggested : Option Name) (kind : Kind) :
    e'.stemFor suggested kind = e.stemFor suggested kind := by
  rw [stemFor, stemFor, like.stems_eq]

theorem labelFor (like : e.Alike L e') {b b' : Bearer} (alike : b.Alike L b') :
    (e.labelFor b).Alike L (e'.labelFor b') := by
  unfold Environment.labelFor
  rw [alike.stem_eq, alike.kind_eq, like.stemFor_eq]
  exact like.nameFor alike.owner _ .none

theorem keyFor (like : e.Alike L e') {p p' : Param} (alike : p.Corresponds L p') :
    (e.keyFor p).Alike L (e'.keyFor p') := by
  unfold Environment.keyFor
  rw [alike.stem_eq, like.stemFor_eq]
  exact like.nameFor alike.owner _ (.some alike.value)

/-- Like environments have the same keys, for related values. -/
theorem params (like : e.Alike L e') :
    List.Forall₂ (fun a a' => a'.1 = a.1 ∧ L.value a.2 a'.2) e.params e'.params := by
  have names := like.allocations
  unfold Environment.params
  rw [like.mark_eq]
  generalize e.allocations = as at names
  generalize e'.allocations = as' at names
  induction names with
  | nil => exact .nil
  | @cons a a' as as' first _ ih =>
    have value := first.param
    rw [List.filterMap_cons, List.filterMap_cons]
    generalize a.param? = v? at value
    generalize a'.param? = v?' at value
    cases value with
    | none => exact ih
    | some related => exact .cons ⟨by rw [first.name_eq], related⟩ ih

end Environment.Alike

/-! ### Like templates -/

section Filling

variable {pen pen' : Pen Environment}

/-- Both writings put down nothing. -/
theorem Pen.alike_rest {e e' : Environment} (like : e.Alike L e') (lists : List Bool) :
    (Pen.rest ⟨e, lists⟩).Alike L (Pen.rest ⟨e', lists⟩) :=
  ⟨like, rfl, .nil, rfl, rfl⟩

theorem Pen.alike_put {e e' : Environment} (like : e.Alike L e') (lists : List Bool)
    {piece piece' : Piece} (alike : piece.Alike L piece') :
    (Pen.put ⟨e, lists⟩ piece).Alike L (Pen.put ⟨e', lists⟩ piece') :=
  ⟨like, rfl, .cons alike .nil, rfl, rfl⟩

theorem Pen.alike_fail {e e' : Environment} (like : e.Alike L e') (lists : List Bool) (f : Fault) :
    (Pen.fail ⟨e, lists⟩ f).Alike L (Pen.fail ⟨e', lists⟩ f) :=
  ⟨like, rfl, .nil, rfl, rfl⟩

theorem Pen.alike_spoil {e e' : Environment} (like : e.Alike L e') (lists : List Bool) :
    (Pen.spoil ⟨e, lists⟩).rest.Alike L (Pen.spoil ⟨e', lists⟩).rest := by
  cases lists with
  | nil => exact Pen.alike_rest like []
  | cons _ outer => exact Pen.alike_rest like (true :: outer)

theorem Pen.alike_run {e e' : Environment} (like : e.Alike L e') (lists : List Bool) (w : Wording)
    {piece piece' : String → Piece} (alike : ∀ s, (piece s).Alike L (piece' s)) :
    (Pen.run ⟨e, lists⟩ w piece).Alike L (Pen.run ⟨e', lists⟩ w piece') := by
  unfold Pen.run
  cases w.written with
  | ok s => exact Pen.alike_put like lists (alike s)
  | error f => exact Pen.alike_fail like lists f

/-- A name that was given in the same way is written in the same way. -/
theorem Pen.alike_take {e e' : Environment} (lists : List Bool)
    {given given' : Allocated Environment Wording} (alike : given.Alike L given')
    {write write' : Pen Environment → Wording → Writing Environment}
    (written : ∀ name, (write ⟨given.env, lists⟩ name).Alike L (write' ⟨given'.env, lists⟩ name)) :
    (Pen.take ⟨e, lists⟩ given write).Alike L (Pen.take ⟨e', lists⟩ given' write') := by
  unfold Pen.take
  rw [alike.answer_eq]
  cases given.answer with
  | ok name =>
    obtain ⟨env, lists_eq, pieces, events_eq, fault_eq⟩ := written name
    refine ⟨env, lists_eq, pieces, ?_, fault_eq⟩
    simp only [Writing.events, List.map_append, alike.events_eq] at events_eq ⊢
    rw [events_eq]
  | error f => exact ⟨alike.env, rfl, .nil, alike.events_eq, rfl⟩

/-- Like segments are written alike. -/
theorem Segment.Alike.write {segment segment' : Segment} (alike : segment.Alike L segment')
    (like : pen.env.Alike L pen'.env) (lists_eq : pen'.lists = pen.lists) :
    (segment.write pen).Alike L (segment'.write pen') := by
  obtain ⟨e, lists⟩ := pen
  obtain ⟨e', lists'⟩ := pen'
  obtain rfl : lists' = lists := lists_eq
  have like : e.Alike L e' := like
  cases alike with
  | label b =>
    have given := like.labelFor b
    simp only [Segment.write]
    refine Pen.alike_take lists' given fun name => ?_
    exact Pen.alike_run given.env lists' name fun s => .label b
  | item b =>
    have given := like.labelFor b
    simp only [Segment.write]
    refine Pen.alike_take lists' given fun name => ?_
    cases name.word? with
    | some s => exact Pen.alike_put given.env lists' (.label b)
    | none => exact Pen.alike_spoil given.env lists'
  | key p =>
    have given := like.keyFor p
    simp only [Segment.write]
    refine Pen.alike_take lists' given fun name => ?_
    exact Pen.alike_run given.env lists' name fun s => .key p
  | other noName =>
    cases segment with
    | label _ | item _ | key _ => cases noName
    | text s => exact Pen.alike_put like lists' .text
    | fault f => exact Pen.alike_fail like lists' f
    | openList => exact Pen.alike_rest like (false :: lists')
    | closeList =>
      cases lists' with
      | nil => exact Pen.alike_rest like []
      | cons spoilt outer =>
        cases spoilt with
        | true => exact Pen.alike_fail like outer .wrongType
        | false => exact Pen.alike_rest like outer
    | union branches keyword =>
      refine ⟨like, rfl, .nil, ?_, rfl⟩
      simp [Segment.write, Writing.events, Registry.size, Environment.size, like.counter_eq]
    | separator | joint =>
      simp only [Segment.write, Registry.separator, like.separator_eq]
      exact Pen.alike_put like lists' .separator
    | formed | joining | joined | blank | blankItem =>
      simp only [Segment.write, Registry.separator, like.separator_eq]
      split
      all_goals first
        | exact Pen.alike_rest like lists'
        | exact Pen.alike_fail like lists' _
        | exact Pen.alike_put like lists' .noBytes
        | exact Pen.alike_spoil like lists'

/-- Like templates are filled alike in like environments. -/
theorem Template.Alike.fill {t t' : Template} (alike : t.Alike L t')
    (like : pen.env.Alike L pen'.env) (lists_eq : pen'.lists = pen.lists) :
    (t.fill pen).Alike L (t'.fill pen') := by
  induction alike generalizing pen pen' with
  | nil => exact ⟨like, lists_eq, .nil, rfl, rfl⟩
  | cons segment _ ih =>
    have first := segment.write like lists_eq
    simp only [Template.fill, first.fault_eq]
    split
    · exact first
    · have others := ih first.env first.lists_eq
      refine ⟨others.env, others.lists_eq, List.rel_append first.pieces others.pieces, ?_,
        others.fault_eq⟩
      have events_eq := first.events_eq
      have events_eq' := others.events_eq
      simp only [Writing.events, List.map_append] at events_eq events_eq' ⊢
      rw [events_eq, events_eq']

end Filling

/-! ### Texts -/

namespace Writing.Alike

variable {w w' : Writing Environment}

/-- Like writings have one text. -/
theorem text_eq (like : w.Alike L w') : w'.text = w.text := by
  have written : w'.pieces.map Piece.written = w.pieces.map Piece.written := by
    have pieces := like.pieces
    generalize w.pieces = ps at pieces
    generalize w'.pieces = ps' at pieces
    induction pieces with
    | nil => rfl
    | cons first _ ih =>
      rw [List.map_cons, List.map_cons, ih]
      cases first <;> rfl
  rw [Writing.text, Writing.text, written]

/-- Like writings have one value. -/
theorem value_eq (like : w.Alike L w') : w'.value = w.value := by
  have text_eq := like.text_eq
  have mark_eq : Registry.mark w'.pen.env = Registry.mark w.pen.env := like.env.mark_eq
  have pieces := like.pieces
  unfold Writing.value
  rw [text_eq, mark_eq]
  generalize w.pieces = ps at pieces
  generalize w'.pieces = ps' at pieces
  cases pieces with
  | nil => rfl
  | cons first others =>
    cases others with
    | cons second _ => cases first <;> cases second <;> rfl
    | nil => cases first <;> rfl

end Writing.Alike

end GraphQuery
