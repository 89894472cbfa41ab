import GraphQuery.Proofs.Rendering.Shown

/-!
Templates that are put together from parts.

A query is written part by part, with the separator between the parts. Where the separator is a
text, the marks that ask whether it will do say nothing, and a template may as well be written
without them. What the parts come to is found out from the names that are known in the end: once all
of them are known, a part is written as it stands, and gives no further names.

* `Template.unchecked`: a template without the marks that check the separator.
  `Template.fill_unchecked` writes it.
* `Template.shown_join`: the text of parts with something between them.
* `Environment.Answers`: the names that are asked for are known. `Environment.Answers.after_eq`: no
  further names are given then.
-/

namespace GraphQuery

/-! ### Marks that check the separator -/

/-- The segment finds out whether the separator will do, and is nothing else where it does. -/
def Segment.isCheck : Segment → Bool
  | formed | joining | joined | blank | blankItem => true
  | _ => false

/-- A separator that is a text always will do. -/
theorem Segment.write_check {pen : Pen Environment} (separator : pen.env.separator.IsText)
    {segment : Segment} (check : segment.isCheck = true) : segment.write pen = pen.rest := by
  obtain ⟨sep, word⟩ := separator.exists_word
  obtain ⟨sep', written⟩ := separator.exists_written
  have noBytes := separator.isBytes_eq
  cases segment with
  | formed | joining | joined | blank | blankItem =>
    simp [write, Registry.separator, word, written, noBytes]
  | _ => cases check

namespace Template

/-- The template without the marks that check the separator. -/
def unchecked (t : Template) : Template := t.filter fun segment => !segment.isCheck

@[simp] theorem unchecked_nil : unchecked [] = [] := rfl

@[simp] theorem unchecked_cons (segment : Segment) (t : Template) :
    unchecked (segment :: t) = if segment.isCheck then unchecked t else segment :: unchecked t := by
  unfold unchecked
  rw [List.filter_cons]
  cases segment.isCheck <;> rfl

@[simp] theorem unchecked_append (t u : Template) :
    unchecked (t ++ u) = unchecked t ++ unchecked u :=
  List.filter_append ..

/-- Something stands between a part and the next one. -/
theorem join_cons_cons (between t u : Template) (us : List Template) :
    join between (t :: u :: us) = t ++ between ++ join between (u :: us) := rfl

/-- Parts and what stands between them are checked on their own. -/
theorem unchecked_join (between : Template) (ts : List Template) :
    unchecked (join between ts) = join (unchecked between) (ts.map unchecked) := by
  induction ts with
  | nil => rfl
  | cons t ts ih =>
    cases ts with
    | nil => rfl
    | cons u us =>
      rw [join_cons_cons, unchecked_append, unchecked_append, ih]
      rfl

/-- Where the separator is a text, a template is written as it is without the checks. -/
theorem fill_unchecked {pen : Pen Environment} (separator : pen.env.separator.IsText)
    (t : Template) : t.unchecked.fill pen = t.fill pen := by
  induction t generalizing pen with
  | nil => rfl
  | cons segment rest ih =>
    rw [unchecked_cons]
    split
    · rename_i check
      simp only [fill, Segment.write_check separator check, ih separator, Pen.rest,
        List.nil_append]
    · have separator' : (segment.write pen).pen.env.separator.IsText := by
        rwa [(segment.write_extends pen).separator_eq]
      simp only [fill, ih separator']

/-! ### Parts with something between them -/

/-- Some parts come first, then what stands between all parts, then the others. -/
theorem join_append (between : Template) {ts us : List Template} (some : ts ≠ [])
    (others : us ≠ []) :
    join between (ts ++ us) = join between ts ++ between ++ join between us := by
  obtain ⟨u, us, rfl⟩ := List.exists_cons_of_ne_nil others
  induction ts with
  | nil => exact absurd rfl some
  | cons t ts ih =>
    cases ts with
    | nil => rfl
    | cons v vs =>
      rw [List.cons_append, List.cons_append, join_cons_cons, ← List.cons_append,
        ih (List.cons_ne_nil v vs), join_cons_cons]
      simp only [List.append_assoc]

/-- Parts that are put together from others with the same between them may as well be those. -/
theorem join_flatten (between : Template) {groups : List (List Template)}
    (nonempty : ∀ ts ∈ groups, ts ≠ []) :
    join between (groups.map (join between)) = join between groups.flatten := by
  induction groups with
  | nil => rfl
  | cons ts groups ih =>
    obtain ⟨first, nonempty⟩ := List.forall_mem_cons.mp nonempty
    cases groups with
    | nil => simp [join]
    | cons us groups =>
      have others : (us :: groups).flatten ≠ [] := by
        have second := nonempty us List.mem_cons_self
        simp [second]
      rw [List.flatten_cons, join_append between first others, ← ih nonempty]
      rfl

/-- What is shown of parts with something between them. -/
theorem shown_join (e : Environment) (between : Template) (ts : List Template) :
    shown e (join between ts) = (shown e between).intercalate (ts.map (shown e)) := by
  induction ts with
  | nil => rfl
  | cons t ts ih =>
    cases ts with
    | nil => simp [join]
    | cons u us =>
      rw [join_cons_cons, shown_append, shown_append, ih]
      simp only [List.map_cons, String.intercalate_cons_cons]

end Template

/-! ### Names that are known -/

namespace Environment

/-- The names that are asked for are known. -/
def Answers (e : Environment) (asks : List Ask) : Prop :=
  ∀ a ∈ asks, ∃ name, e.find? a.role a.id = some name

variable {e : Environment} {asks : List Ask}

/-- Questions about known names change nothing. -/
theorem Answers.after_eq (h : e.Answers asks) : e.after asks = e := by
  induction asks with
  | nil => rfl
  | cons a rest ih =>
    obtain ⟨first, others⟩ := List.forall_mem_cons.mp h
    obtain ⟨name, found⟩ := first
    rw [after_cons, Ask.put_eq_nameFor, nameFor_of_find? found]
    exact ih others

/-- An environment of texts without any names has met no question yet. -/
theorem Worded.accounts (worded : e.Worded Wording.IsText)
    (blank : e.allocations = []) : e.Accounts [] where
  entries := by
    rw [blank]
    exact .nil
  owners := by simp [blank]
  texts := by simp [blank]
  isText a mem := worded.names a mem
  stems := worded.stems
  untouched _ := blank

/-- A name that is known has the property of all names. -/
theorem Worded.of_find? {P : Wording → Prop} (h : e.Worded P) {role : Role} {owner : Nat}
    {name : Wording} (found : e.find? role owner = some name) : P name := by
  obtain ⟨a, first, rfl⟩ := Option.map_eq_some_iff.mp found
  exact h.names a (List.mem_of_find?_eq_some first)

/-- In an environment of texts, the stem of an instance is a text. -/
theorem Worded.stem_isText (h : e.Worded Wording.IsText) (a : Ask) : (a.stem e).IsText := by
  cases a with
  | label r => exact h.stemFor (fun n _ => Wording.isText_ofName n) r.kind
  | key p => exact h.stemFor (fun n _ => Wording.isText_ofName n) .param

/-- An environment of texts knows the names that it has been asked for. -/
theorem Worded.answers_after (h : e.Worded Wording.IsText) (asks : List Ask) :
    (e.after asks).Answers asks := by
  induction asks generalizing e with
  | nil => exact fun _ mem => absurd mem List.not_mem_nil
  | cons a rest ih =>
    have stem := h.stem_isText a
    obtain ⟨name, answered, -⟩ := h.exists_answer a.role a.id stem a.param?
    have found := find?_of_nameFor stem.isNull_eq answered
    have worded : (a.put e).env.Worded Wording.IsText := by
      rw [Ask.put_eq_nameFor]
      exact h.nameFor numbered_isText a.role a.id stem a.param?
    rw [after_cons]
    refine List.forall_mem_cons.mpr ⟨⟨name, ?_⟩, ih worded⟩
    refine ((a.put e).env.after_extends rest).find?_eq ?_
    rw [Ask.put_eq_nameFor]
    exact found

end Environment

end GraphQuery
