import GraphQuery.Proofs.Rendering.Places

/-!
The faults that writing can end on.

Where the separator and all names have a text in running text, a template ends on one of its own
faults, or because a name cannot be a key or an item, or because the separator cannot join anything.

* `Wording.IsWritten`: there is a text for it in running text.
* `Template.fill_faults`: the faults that filling a template can end on.
-/

namespace GraphQuery

/-- There is a text for it in running text. -/
def Wording.IsWritten (w : Wording) : Prop := ∃ s, w.written = .ok s

namespace Wording

theorem isWritten_text (s : String) : (text s).IsWritten := ⟨s, rfl⟩

theorem isWritten_ofName (n : Name) : (ofName n).IsWritten := by
  cases n with
  | text s => exact ⟨s, rfl⟩
  | direction d => exact ⟨_, rfl⟩

/-- Every literal has a text. -/
theorem isWritten_atom (view : ObjectView) (a : Atom) (mark : Nat) :
    (ofValue view (.atom a mark)).IsWritten := by
  cases a <;> exact ⟨_, rfl⟩

theorem numbered_isWritten : Environment.Numbered IsWritten :=
  fun _ _ _ _ _ _ => isWritten_text _

end Wording

/-- The fault is that a value is not of the class that is asked for. -/
def Fault.isOfClass (f : Fault) : Bool := f = .missing || f = .wrongType

namespace Environment

/-- A stem with a text leads to a name unless it cannot be a key. -/
theorem fault_of_allocate {e : Environment} {role : Role} {owner : Nat} {stem : Wording}
    {param? : Option Value} (isWritten : stem.IsWritten) {f : Fault}
    (failed : (e.allocate role owner stem param?).answer = .error f) : f = .wrongType := by
  cases stem with
  | text s => cases failed
  | value v written hashable =>
    obtain ⟨s, eq⟩ : ∃ s, written = .ok s := isWritten
    simp only [allocate, eq] at failed
    split at failed
    · unfold allocateBare at failed
      split at failed
      · cases failed
      · exact (Except.error.inj failed).symm
    · cases failed

theorem fault_of_nameFor {e : Environment} {role : Role} {owner : Nat} {stem : Wording}
    {param? : Option Value} (isWritten : stem.IsWritten) {f : Fault}
    (failed : (e.nameFor role owner stem param?).answer = .error f) : f = .wrongType := by
  unfold nameFor at failed
  split at failed
  · cases failed
  · exact fault_of_allocate isWritten failed

end Environment

section Filling

variable {pen : Pen Environment}

/-- What is written with a name ends on a fault of the name, or of what is written. -/
theorem Pen.fault_of_take {given : Allocated Environment Wording}
    {write : Pen Environment → Wording → Writing Environment} {f : Fault}
    (failed : (pen.take given write).fault? = some f) :
    given.answer = .error f ∨
      ∃ name, given.answer = .ok name ∧ (write ⟨given.env, pen.lists⟩ name).fault? = some f := by
  unfold take at failed
  cases answer : given.answer with
  | ok name =>
    rw [answer] at failed
    exact .inr ⟨name, rfl, failed⟩
  | error g =>
    rw [answer] at failed
    exact .inl (congrArg _ (Option.some.inj failed))

theorem Pen.run_of_isWritten {w : Wording} (isWritten : w.IsWritten) (piece : String → Piece) :
    (pen.run w piece).fault? = none := by
  obtain ⟨s, eq⟩ := isWritten
  rw [run, eq]
  rfl

variable (worded : pen.env.Worded Wording.IsWritten) (separator : pen.env.separator.IsWritten)
include worded separator

/-- A segment ends on no fault but its own and those of a wrong class. -/
theorem Segment.write_faults {segment : Segment} {f : Fault}
    (failed : (segment.write pen).fault? = some f) :
    segment = .fault f ∨ f.isOfClass = true := by
  have stemmed : ∀ (suggested : Option Name) kind, (pen.env.stemFor suggested kind).IsWritten :=
    fun _ => worded.stemFor fun n _ => Wording.isWritten_ofName n
  cases segment with
  | fault g => exact .inl (congrArg _ (Option.some.inj failed))
  | label b =>
    rcases Pen.fault_of_take failed with noName | ⟨name, answered, noText⟩
    · exact .inr (by rw [Environment.fault_of_nameFor (stemmed _ _) noName]; rfl)
    · have isWritten := worded.answer Wording.numbered_isWritten (stemmed b.stem b.kind) answered
      rw [Pen.run_of_isWritten isWritten] at noText
      cases noText
  | item b =>
    rcases Pen.fault_of_take failed with noName | ⟨name, answered, noText⟩
    · exact .inr (by rw [Environment.fault_of_nameFor (stemmed _ _) noName]; rfl)
    · split at noText <;> cases noText
  | key p =>
    rcases Pen.fault_of_take failed with noName | ⟨name, answered, noText⟩
    · exact .inr (by rw [Environment.fault_of_nameFor (stemmed _ _) noName]; rfl)
    · have isWritten := worded.answer Wording.numbered_isWritten (stemmed p.stem .param) answered
      rw [Pen.run_of_isWritten isWritten] at noText
      cases noText
  | formed =>
    obtain ⟨s, eq⟩ := separator
    simp only [write, Registry.separator, eq] at failed
    cases failed
  | joining | joined | blank | blankItem | closeList =>
    simp only [write] at failed
    split at failed <;> cases failed <;> exact .inr rfl
  | text _ | separator | joint | openList | union _ _ => cases failed

/-- Filling a template ends on no fault but its own and those of a wrong class. -/
theorem Template.fill_faults {t : Template} {f : Fault}
    (failed : (t.fill pen).fault? = some f) : .fault f ∈ t ∨ f.isOfClass = true := by
  induction t generalizing pen with
  | nil => cases failed
  | cons segment rest ih =>
    simp only [fill] at failed
    cases first : (segment.write pen).fault? with
    | some g =>
      simp only [first] at failed
      cases failed
      refine (Segment.write_faults worded separator first).imp (fun own => ?_) id
      rw [own]
      exact List.mem_cons_self
    | none =>
      simp only [first] at failed
      have worded : (segment.write pen).pen.env.Worded Wording.IsWritten :=
        Segment.write_worded Wording.numbered_isWritten worded
          (segment.suggests_of_forall Wording.isWritten_ofName)
      have separator : (segment.write pen).pen.env.separator.IsWritten :=
        (segment.write_extends pen).separator_eq ▸ separator
      exact (ih worded separator failed).imp (List.mem_cons_of_mem _) id

end Filling

end GraphQuery
