import GraphQuery.Proofs.Naming.Namespace

/-!
The numbers of names when none is passed over.

An environment draws all numbers from one counter. As long as no number has to be passed over, the
counter is the length of the ledger, so the names of the instances that were asked about are
numbered from nought on, in the order of the first questions.

* `Wording.numbered`: a name with a number, or the bare stem in the place of number nought.
* `Environment.passedOver`: the names that are passed over while questions are answered.
* `Environment.Counted`: the ledger is numbered without a gap; `Counted.put` is its step and
  `Counted.after` the run.
-/

namespace GraphQuery

namespace Wording

/-- The name with a given number behind a stem. In the place of number nought the stem may stand
alone, just as it is. -/
def numbered (stem : Wording) (bareFirst : Bool) (index : Nat) : Wording :=
  if index = 0 ∧ bareFirst then stem
  else .text (stem.written.toOption.getD "" ++ toString index)

/-- Behind a text stands what stands there as a name of the library. -/
theorem numbered_text (s : String) (bareFirst : Bool) (index : Nat) :
    (text s).numbered bareFirst index = .text (numberedName s bareFirst index) := by
  unfold numbered numberedName
  split <;> rfl

/-- A text can be written. -/
theorem IsText.exists_written {w : Wording} (h : w.IsText) : ∃ s, w.written = .ok s := by
  cases w with
  | text s => exact ⟨s, rfl⟩
  | value v written hashable =>
    obtain ⟨-, isSome, -⟩ := h
    cases written with
    | ok s => exact ⟨s, rfl⟩
    | error f => cases isSome

end Wording

/-- The stem of an instance stays what it is when the environment goes on. -/
theorem Ask.stem_eq {e e' : Environment} (h : e.Extends e') (a : Ask) : a.stem e' = a.stem e := by
  cases a <;> simp only [Ask.stem, Environment.stemFor, h.stems_eq]

namespace Environment

/-! ### One allocation -/

/-- A text that passes over no name has its first number. -/
theorem allocateText_of_smooth {e : Environment} {role : Role} {owner : Nat} {stem : String}
    {param? : Option Value} (smooth : (e.allocateText role owner stem param?).occurrences = []) :
    (e.allocateText role owner stem param?).env = (e.moved (e.counter + 1)).recorded
      ⟨role, owner, .text (numberedName stem e.bareFirst e.counter), param?⟩ := by
  have from_le : e.counter ≤ firstFree (numberedName stem e.bareFirst) e.issued e.counter :=
    le_firstFree _ _
  have passed : firstFree (numberedName stem e.bareFirst) e.issued e.counter - e.counter = 0 := by
    simpa [allocateText] using smooth
  have index_eq : firstFree (numberedName stem e.bareFirst) e.issued e.counter = e.counter := by
    omega
  simp only [allocateText, index_eq]

/-- An allocation that passes over no name gives the number of the counter. -/
theorem allocate_of_smooth {e : Environment} {role : Role} {owner : Nat} {stem : Wording}
    {param? : Option Value} (isText : stem.IsText)
    (smooth : (e.allocate role owner stem param?).occurrences = []) :
    (e.allocate role owner stem param?).env = (e.moved (e.counter + 1)).recorded
      ⟨role, owner, stem.numbered e.bareFirst e.counter, param?⟩ := by
  cases stem with
  | text s =>
    rw [Wording.numbered_text]
    exact allocateText_of_smooth smooth
  | value v written hashable =>
    obtain ⟨s, eq⟩ := isText.exists_written
    obtain ⟨-, -, rfl⟩ := isText
    obtain rfl : written = .ok s := eq
    simp only [allocate] at smooth ⊢
    split
    · rename_i first
      simp only [allocateBare, if_true, Wording.numbered, if_pos first]
    · rename_i later
      rw [if_neg later] at smooth
      rw [Wording.numbered, if_neg later, allocateText_of_smooth smooth, numberedName,
        if_neg later]
      rfl

/-! ### Sequences of questions -/

/-- The names that are passed over while a sequence of questions is answered. -/
def passedOver (e : Environment) : List Ask → List (Occurrence Environment)
  | [] => []
  | a :: rest => (a.put e).occurrences ++ passedOver (a.put e).env rest

theorem passedOver_append (e : Environment) (asks further : List Ask) :
    e.passedOver (asks ++ further) = e.passedOver asks ++ (e.after asks).passedOver further := by
  induction asks generalizing e with
  | nil => rfl
  | cons a rest ih => simp only [List.cons_append, passedOver, ih, after_cons, List.append_assoc]

/-- Whatever happens while a name is asked for, a name is passed over. -/
theorem nameFor_occurrences (e : Environment) (role : Role) (owner : Nat) (stem : Wording)
    (param? : Option Value) : ∀ o ∈ (e.nameFor role owner stem param?).occurrences,
      ∃ identifier index, o.event = .collision identifier index := by
  have ofText : ∀ stem, ∀ o ∈ (e.allocateText role owner stem param?).occurrences,
      ∃ identifier index, o.event = .collision identifier index := by
    intro stem o mem
    obtain ⟨i, -, rfl⟩ := List.mem_map.mp mem
    exact ⟨_, _, rfl⟩
  unfold nameFor
  split
  · exact fun _ mem => absurd mem List.not_mem_nil
  · cases stem with
    | text s => exact ofText _
    | value v written hashable =>
      simp only [allocate]
      split
      · cases hashable <;> exact fun _ mem => absurd mem List.not_mem_nil
      · cases written with
        | ok s => exact ofText _
        | error f => exact fun _ mem => absurd mem List.not_mem_nil

/-- Whatever happens while a question is answered, a name is passed over. -/
theorem put_occurrences (e : Environment) (a : Ask) :
    ∀ o ∈ (a.put e).occurrences, ∃ identifier index, o.event = .collision identifier index := by
  rw [Ask.put_eq_nameFor]
  exact e.nameFor_occurrences _ _ _ _

/-- What happens while a sequence of questions is answered is that names are passed over. -/
theorem passedOver_collision (e : Environment) (asks : List Ask) :
    ∀ o ∈ e.passedOver asks, ∃ identifier index, o.event = .collision identifier index := by
  induction asks generalizing e with
  | nil => exact fun _ mem => absurd mem List.not_mem_nil
  | cons a rest ih => exact List.forall_mem_append.mpr ⟨e.put_occurrences a, ih _⟩

/-- The ledger has the numbers from nought on, one for each of the questions. -/
structure Counted (e : Environment) (seen : List Ask) : Prop where
  counter_eq : e.counter = seen.length
  names : e.allocations.map (·.name) =
    seen.mapIdx fun k a => (a.stem e).numbered e.bareFirst k

namespace Counted

variable {e : Environment} {seen : List Ask}

/-- A question that passes over no name leaves no gap. -/
theorem put (h : e.Counted seen) (accounts : e.Accounts seen) {a : Ask}
    (smooth : (a.put e).occurrences = []) : (a.put e).env.Counted (Ask.noted seen a) := by
  unfold Ask.noted
  split
  · rename_i asked
    obtain ⟨_, _, _, _, eq⟩ := accounts.put_of_asked asked
    rw [eq]
    exact h
  · rename_i new
    have absent : e.find? a.role a.id = none := accounts.find?_eq_none new
    rw [Ask.put_eq_nameFor, nameFor, absent] at smooth ⊢
    have env := allocate_of_smooth (accounts.stem a) smooth
    have ext := (allocate_allocates e a.role a.id (a.stem e) a.param?).extends
    simp only [env] at ext ⊢
    have stem_eq : ∀ b : Ask, b.stem _ = b.stem e := fun b => Ask.stem_eq ext b
    constructor
    · simp [h.counter_eq]
    · simp only [recorded_allocations, moved_allocations, List.map_append, h.names,
        List.mapIdx_append, stem_eq]
      simp [h.counter_eq]

/-- Questions that pass over no name leave no gap. -/
theorem after (h : e.Counted seen) (accounts : e.Accounts seen) {asks : List Ask}
    (smooth : e.passedOver asks = []) : (e.after asks).Counted (asks.foldl Ask.noted seen) := by
  induction asks generalizing e seen with
  | nil => exact h
  | cons a rest ih =>
    obtain ⟨first, others⟩ := List.append_eq_nil_iff.mp smooth
    exact ih (h.put accounts first) (accounts.put a) others

end Counted

/-- In a new environment there is no number yet. -/
theorem counted_blank (n : Naming) (view : ObjectView) (mark : Nat) :
    (n.environment view (.blank mark)).Counted [] :=
  ⟨rfl, rfl⟩

end Environment

end GraphQuery
