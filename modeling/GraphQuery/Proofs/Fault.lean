import GraphQuery.Fault

/-!
Steps that may fail, one after another.

* `exists_of_bind_eq_ok`, `exists_of_map_eq_ok`: what goes well in several steps goes well in each.
* `mapM_congr`: the steps for the items of a list, by what each of them comes to.
* `NeverInvalid`, `NeverRejects`: a step does not end on the objections to a record, on its own or
  where it works on a state.
-/

namespace GraphQuery

section Steps

variable {ε α β : Type} {x : Except ε α} {b : β}

/-- A step that goes well in two parts goes well in both. -/
theorem exists_of_bind_eq_ok {f : α → Except ε β} (ok : (x >>= f) = .ok b) :
    ∃ a, x = .ok a ∧ f a = .ok b := by
  cases x with
  | error fault => cases ok
  | ok a => exact ⟨a, rfl, ok⟩

theorem exists_of_map_eq_ok {f : α → β} (ok : (f <$> x) = .ok b) : ∃ a, x = .ok a ∧ b = f a := by
  cases x with
  | error fault => cases ok
  | ok a =>
    cases ok
    exact ⟨a, rfl, rfl⟩

theorem ok_of_toOption {a : α} (eq : x.toOption = some a) : x = .ok a := by
  cases x with
  | error fault => cases eq
  | ok a => exact congrArg Except.ok (Option.some_inj.mp eq)

theorem error_of_toOption (eq : x.toOption = none) : ∃ fault, x = .error fault := by
  cases x with
  | error fault => exact ⟨fault, rfl⟩
  | ok a => cases eq

/-- What comes of the items of a list is up to what comes of each of them. -/
theorem mapM_congr {f g : α → Except ε β} {as : List α} (same : ∀ a ∈ as, f a = g a) :
    as.mapM f = as.mapM g := by
  induction as with
  | nil => rfl
  | cons a rest ih =>
    obtain ⟨first, others⟩ := List.forall_mem_cons.mp same
    rw [List.mapM_cons, List.mapM_cons, first, ih others]

end Steps

/-! ### Faults other than objections -/

/-- A step may fail, but not because fields of a record are rejected. -/
def NeverInvalid {α : Type} (x : Except Fault α) : Prop := ∀ issues, x ≠ .error (.invalid issues)

namespace NeverInvalid

variable {α β : Type} {x : Except Fault α}

theorem ok (a : α) : NeverInvalid (Except.ok a : Except Fault α) := nofun

theorem error {f : Fault} (other : ∀ issues, f ≠ .invalid issues) :
    NeverInvalid (Except.error f : Except Fault α) :=
  fun issues eq => other issues (Except.error.inj eq)

theorem bind {f : α → Except Fault β} (first : NeverInvalid x) (next : ∀ a, NeverInvalid (f a)) :
    NeverInvalid (x >>= f) := by
  cases x with
  | ok a => exact next a
  | error fault => exact error fun issues eq => first issues (congrArg Except.error eq)

theorem map (h : NeverInvalid x) (f : α → β) : NeverInvalid (f <$> x) := by
  cases x with
  | ok a => exact ok _
  | error fault => exact error fun issues eq => h issues (congrArg Except.error eq)

theorem elim {a? : Option α} {f : α → β} {fault : Fault}
    (other : ∀ issues, fault ≠ .invalid issues) :
    NeverInvalid (a?.elim (.error fault) fun a => .ok (f a)) := by
  cases a? with
  | none => exact error other
  | some a => exact ok _

/-- What goes on unless something is the case. -/
theorem guarded {c : Prop} [Decidable c] {fault : Fault} {rest : PUnit → Except Fault β}
    (other : ∀ issues, fault ≠ .invalid issues) (next : NeverInvalid (rest ⟨⟩)) :
    NeverInvalid (if c then throw fault >>= rest else rest ⟨⟩) := by
  split
  · exact error other
  · exact next

theorem mapM {f : α → Except Fault β} (step : ∀ a, NeverInvalid (f a)) (as : List α) :
    NeverInvalid (as.mapM f) := by
  induction as with
  | nil => exact ok _
  | cons a rest ih =>
    rw [List.mapM_cons]
    exact (step a).bind fun _ => ih.bind fun _ => ok _

theorem forM {f : α → Except Fault PUnit} (step : ∀ a, NeverInvalid (f a)) (as : List α) :
    NeverInvalid (as.forM f) := by
  induction as with
  | nil => exact ok _
  | cons a rest ih => exact (step a).bind fun _ => ih

theorem foldlM {f : β → α → Except Fault β} (step : ∀ b a, NeverInvalid (f b a)) (b : β)
    (as : List α) : NeverInvalid (as.foldlM f b) := by
  induction as generalizing b with
  | nil => exact ok _
  | cons a rest ih => exact (step b a).bind fun _ => ih _

end NeverInvalid

/-- A step that works on a state does not end on the objections to a record, whatever the state. -/
def NeverRejects {σ α : Type} (m : ExceptT Fault (StateM σ) α) : Prop :=
  ∀ s, NeverInvalid (m.run.run s).1

namespace NeverRejects

variable {σ α β : Type} {m : ExceptT Fault (StateM σ) α}

theorem pure (a : α) : NeverRejects (Pure.pure a : ExceptT Fault (StateM σ) α) := fun _ => .ok a

theorem throw {fault : Fault} (other : ∀ issues, fault ≠ .invalid issues) :
    NeverRejects (MonadExcept.throw fault : ExceptT Fault (StateM σ) α) := fun _ => .error other

theorem bind {f : α → ExceptT Fault (StateM σ) β} (first : NeverRejects m)
    (next : ∀ a, NeverRejects (f a)) : NeverRejects (m >>= f) := by
  intro s
  have never := first s
  change NeverInvalid (ExceptT.bindCont f (m.run.run s).1 (m.run.run s).2).1
  cases eq : (m.run.run s).1 with
  | ok a => exact next a _
  | error fault =>
    rw [eq] at never
    exact .error fun issues same => never issues (congrArg Except.error same)

theorem forM {f : α → ExceptT Fault (StateM σ) PUnit} (step : ∀ a, NeverRejects (f a))
    (as : List α) : NeverRejects (as.forM f) := by
  induction as with
  | nil => exact pure _
  | cons a rest ih => exact (step a).bind fun _ => ih

end NeverRejects

end GraphQuery
