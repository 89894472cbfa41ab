import GraphQuery.Proofs.Rendering.Places

/-!
What a template comes to where all of its names are known.

All names and the separator are texts. Then nothing but a fault that stands in the template can end
its writing. What was written is in the end the text of each segment under the names that the
environment knows by then, so the text of a template is put together from those of its parts.

* `Template.shown`: the text of a template under the names of an environment.
* `Environment.IsTextual`: all names are texts, and the separator is a given one.
* `Template.fill_text`: a template without faults is written, and its text is what it shows under
  the names that are known in the end. `Template.not_mem_of_fill_ok`: no other one is.
-/

namespace GraphQuery

/-! ### The text of a template under known names -/

/-- What a segment comes to under the names of an environment. -/
def Segment.shown (e : Environment) (segment : Segment) : String := (segment.write ⟨e, []⟩).text

namespace Template

/-- What a template comes to under the names of an environment. -/
def shown (e : Environment) (t : Template) : String := String.join (t.map (Segment.shown e))

variable (e : Environment)

@[simp] theorem shown_nil : shown e [] = "" := rfl

@[simp] theorem shown_cons (segment : Segment) (t : Template) :
    shown e (segment :: t) = segment.shown e ++ shown e t := by
  simp [shown, String.join_cons]

@[simp] theorem shown_append (t u : Template) : shown e (t ++ u) = shown e t ++ shown e u := by
  induction t with
  | nil => simp
  | cons segment t ih => simp [ih, String.append_assoc]

end Template

/-! ### Environments of texts -/

/-- All names of an environment are texts, those that it has given and those that it makes names
of, and clauses are put apart by a given text. -/
structure Environment.IsTextual (e : Environment) (sep : String) : Prop where
  worded : e.Worded Wording.IsText
  separator_eq : e.separator = .text sep

/-- In no list of items that is open is there an item that is no text. -/
def Pen.IsClean {σ : Type} (pen : Pen σ) : Prop := ∀ spoilt ∈ pen.lists, spoilt = false

variable {e : Environment} {sep : String}

@[simp] theorem Segment.shown_text (s : String) : (text s).shown e = s := by
  simp [shown, write, Pen.put, Writing.text, Piece.written, String.join_cons]

section Textual

variable (textual : e.IsTextual sep)
include textual

theorem Segment.shown_separator : separator.shown e = sep := by
  simp [shown, write, Pen.put, Writing.text, Piece.written, String.join_cons, Registry.separator,
    textual.separator_eq, Wording.written, Except.toOption]

theorem Segment.shown_joint : joint.shown e = sep := by
  simp [shown, write, Pen.put, Writing.text, Piece.written, String.join_cons, Registry.separator,
    textual.separator_eq, Wording.word?]

/-- Marks come to nothing. -/
theorem Segment.shown_silent {segment : Segment} (silent : segment.isSilent) :
    segment.shown e = "" := by
  cases segment with
  | formed | joining | joined | blank | blankItem | openList | closeList | union =>
    simp [shown, write, Pen.rest, Writing.text, Registry.separator, textual.separator_eq,
      Wording.written, Wording.word?, Wording.isBytes]
  | _ => cases silent

end Textual

/-! ### Writing shows the names that are known in the end -/

section Filling

variable {pen : Pen Environment}

/-- What was written for a segment is the same under whatever lists are open. -/
theorem Segment.write_pieces_eq (e : Environment) (lists : List Bool) (segment : Segment) :
    (segment.write ⟨e, lists⟩).pieces = (segment.write ⟨e, []⟩).pieces := by
  cases segment with
  | label b =>
    simp only [write, Pen.take, Pen.run]
    split
    · split <;> rfl
    · rfl
  | item b =>
    simp only [write, Pen.take]
    split
    · split <;> rfl
    · rfl
  | key p =>
    simp only [write, Pen.take, Pen.run]
    split
    · split <;> rfl
    · rfl
  | formed | joining | joined | blank | blankItem =>
    simp only [write]
    split <;> rfl
  | closeList =>
    simp only [write]
    split <;> rfl
  | text _ | separator | joint | openList | union _ _ | fault _ => rfl

/-- A text is no byte string. -/
theorem Wording.IsText.isBytes_eq {w : Wording} (h : w.IsText) : w.isBytes = false := by
  match w, h with
  | .text _, _ => rfl
  | .value (.object _) _ _, _ => rfl
  | .value (.atom a _) _ _, ⟨isText, _⟩ =>
    cases a with
    | bytes data => cases isText
    | _ => rfl

/-- The separator has a say in what is written for the segment. -/
def Segment.isSeparating : Segment → Bool
  | separator | joint | formed | joining | joined | blank | blankItem => true
  | _ => false

/-- What is looked for is among parts only if it is in one of them. -/
theorem Template.any_join {f : Segment → Bool} {between : Template} (apart : between.any f = false)
    (ts : List Template) : (join between ts).any f = ts.any (·.any f) := by
  induction ts with
  | nil => rfl
  | cons t ts ih =>
    cases ts with
    | nil => simp [join]
    | cons u ts =>
      have joined : join between (t :: u :: ts) = t ++ between ++ join between (u :: ts) := rfl
      simp [joined, apart, ih]

/-- A segment that is no fault is written, and leaves no list with an item that is no text. -/
theorem Segment.write_ok (worded : pen.env.Worded Wording.IsText) {segment : Segment}
    (separator : segment.isSeparating → pen.env.separator.IsText) (clean : pen.IsClean)
    (noFault : ∀ f, segment ≠ .fault f) :
    (segment.write pen).fault? = none ∧ (segment.write pen).pen.IsClean := by
  have stemmed : ∀ (suggested : Option Name) kind, (pen.env.stemFor suggested kind).IsText :=
    fun _ => worded.stemFor fun n _ => Wording.isText_ofName n
  cases segment with
  | label b =>
    obtain ⟨name, answered, isText⟩ :=
      worded.exists_answer .label b.id (stemmed b.stem b.kind) none
    obtain ⟨s, written⟩ := isText.exists_written
    change (Registry.labelFor pen.env b).answer = .ok name at answered
    rw [write, Pen.take_of_answer answered]
    simp only [Pen.run, written]
    exact ⟨rfl, clean⟩
  | item b =>
    obtain ⟨name, answered, isText⟩ :=
      worded.exists_answer .label b.id (stemmed b.stem b.kind) none
    obtain ⟨s, word⟩ := isText.exists_word
    change (Registry.labelFor pen.env b).answer = .ok name at answered
    rw [write, Pen.take_of_answer answered]
    simp only [word]
    exact ⟨rfl, clean⟩
  | key p =>
    obtain ⟨name, answered, isText⟩ :=
      worded.exists_answer .key p.id (stemmed p.stem .param) (some p.value)
    obtain ⟨s, written⟩ := isText.exists_written
    change (Registry.keyFor pen.env p).answer = .ok name at answered
    rw [write, Pen.take_of_answer answered]
    simp only [Pen.run, written]
    exact ⟨rfl, clean⟩
  | formed | joining | joined | blank | blankItem =>
    have separator := separator rfl
    obtain ⟨sep, sep_word⟩ := separator.exists_word
    obtain ⟨sep', sep_written⟩ := separator.exists_written
    simp only [write, Registry.separator, sep_word, sep_written, separator.isBytes_eq]
    exact ⟨rfl, clean⟩
  | openList => exact ⟨rfl, List.forall_mem_cons.mpr ⟨rfl, clean⟩⟩
  | closeList =>
    obtain ⟨env, lists⟩ := pen
    cases lists with
    | nil => exact ⟨rfl, clean⟩
    | cons spoilt outer =>
      obtain ⟨whole, others⟩ := List.forall_mem_cons.mp clean
      subst whole
      exact ⟨rfl, others⟩
  | text _ | separator | joint | union _ _ => exact ⟨rfl, clean⟩
  | fault f => exact absurd rfl (noFault f)

/-- What was written for a segment is what it shows under the names that are known later. -/
theorem Segment.write_text (named : pen.env.Named) {segment : Segment}
    (ok : (segment.write pen).fault? = none) (ext : (segment.write pen).pen.env.Extends e) :
    (segment.write pen).text = segment.shown e := by
  have again := Segment.write_again named segment ok ext
  rw [shown, Writing.text, Writing.text, ← write_pieces_eq e pen.lists, again.pieces_eq]

/-- What stands behind a fault is not written. -/
theorem Template.not_mem_of_fill_ok {t : Template} (ok : (t.fill pen).fault? = none) (f : Fault) :
    .fault f ∉ t := by
  induction t generalizing pen with
  | nil => exact List.not_mem_nil
  | cons segment rest ih =>
    obtain ⟨first, others, -⟩ := fill_cons_of_ok ok
    intro mem
    rcases List.mem_cons.mp mem with rfl | mem
    · cases first
    · exact ih others mem

/-- Where all names are texts, and the separator as well if it is needed, a template without faults
is written, and its text is what it shows under the names that are known later. -/
theorem Template.fill_text (worded : pen.env.Worded Wording.IsText) (clean : pen.IsClean)
    {t : Template} (separator : ∀ segment ∈ t, segment.isSeparating → pen.env.separator.IsText)
    (noFault : ∀ f, .fault f ∉ t) :
    (t.fill pen).fault? = none ∧
      ∀ e, (t.fill pen).pen.env.Extends e → (t.fill pen).text = t.shown e := by
  have named : pen.env.Named :=
    ⟨fun kind => (worded.stems kind).isNull_eq, fun a mem => (worded.names a mem).isNull_eq⟩
  induction t generalizing pen with
  | nil => exact ⟨rfl, fun _ _ => rfl⟩
  | cons segment rest ih =>
    obtain ⟨separates, separator⟩ := List.forall_mem_cons.mp separator
    obtain ⟨first, clean⟩ := Segment.write_ok worded separates clean
      fun f eq => noFault f (eq ▸ List.mem_cons_self)
    have worded' : (segment.write pen).pen.env.Worded Wording.IsText :=
      Segment.write_worded Environment.numbered_isText worded
        (segment.suggests_of_forall Wording.isText_ofName)
    have separator_eq := (segment.write_extends pen).separator_eq
    obtain ⟨others, text⟩ := ih worded' clean (by rwa [separator_eq])
      (fun f mem => noFault f (List.mem_cons_of_mem _ mem)) (Segment.write_named named segment)
    simp only [fill, first]
    refine ⟨others, fun e ext => ?_⟩
    have head := Segment.write_text named first ((fill_extends _ rest).trans ext)
    rw [shown_cons, ← head, ← text e ext]
    simp [Writing.text]

/-- Where the separator and all names are texts, a template without faults is written. -/
theorem Template.fill_ok (worded : pen.env.Worded Wording.IsText)
    (separator : pen.env.separator.IsText) (clean : pen.IsClean) {t : Template}
    (noFault : ∀ f, .fault f ∉ t) : (t.fill pen).fault? = none :=
  (fill_text worded clean (fun _ _ _ => separator) noFault).1

/-- A template without faults is written, and its text is what it shows under the names that are
known later. -/
theorem Template.fill_shown (textual : pen.env.IsTextual sep) (clean : pen.IsClean) {t : Template}
    (noFault : ∀ f, .fault f ∉ t) :
    (t.fill pen).fault? = none ∧
      ∀ e, (t.fill pen).pen.env.Extends e → (t.fill pen).text = t.shown e :=
  fill_text textual.worded clean (fun _ _ _ => textual.separator_eq ▸ trivial) noFault

end Filling

end GraphQuery
