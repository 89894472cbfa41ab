import GraphQuery.Store.Tree

/-!
How a store grows while a query is assembled.

Objects are added and never taken away. Clauses, statements and unions are changed by builders and
stay what they are; all other objects stay as they were made.

* `Store.Grows`: a store has grown out of another one.
* `Store.Knows`: a value does not refer to an object that is yet to be made. What such a value looks
  like does not change when the store grows.
-/

namespace GraphQuery

namespace Object

/-- The object is none that can be part of a query or of a chain: a collection, a record or a
handler. -/
def isData : Object → Bool
  | list _ | tuple _ | dict _ | environment .. | looseEnvironment _ | settings _ | compiled _
  | error _ | handler _ => true
  | _ => false

/-- The object can be changed by builders. -/
def isBuildable : Object → Bool
  | clause _ | statement _ | union .. => true
  | _ => false

/-- What becomes of an object: it stays the same, or a builder changes it. -/
inductive Becomes : Object → Object → Prop where
  | same {o : Object} : Becomes o o
  | clause {c c' : Clause} : Becomes (.clause c) (.clause c')
  | statement {nodes nodes' : List Nat} : Becomes (.statement nodes) (.statement nodes')
  | union {branches branches' : List Nat} {all all' : Value} :
      Becomes (.union branches all) (.union branches' all')

namespace Becomes

variable {o o' o'' : Object}

theorem trans (h : Becomes o o') (h' : Becomes o' o'') : Becomes o o'' := by
  cases h with
  | same => exact h'
  | clause => cases h' <;> constructor
  | statement => cases h' <;> constructor
  | union => cases h' <;> constructor

/-- No builder changes what cannot be built. -/
theorem eq_of_fixed (h : Becomes o o') (fixed : o.isBuildable = false) : o' = o := by
  cases h with
  | same => rfl
  | clause | statement | union => cases fixed

/-- What stands in a query goes on standing in it. -/
theorem isCompilable_eq (h : Becomes o o') : o'.isCompilable = o.isCompilable := by
  cases h <;> rfl

/-- A collection stays as it is, and nothing becomes one. -/
theorem content_eq (h : Becomes o o') : o'.content = o.content := by
  cases h <;> rfl

end Becomes

end Object

namespace Store

/-- The object of a handle below the next one is there. -/
theorem exists_get? {s : Store} {h : Nat} (lt : h < s.next) : ∃ o, s.get? h = some o :=
  ⟨s.objects[h], Array.getElem?_eq_getElem lt⟩

/-- An object that is there has a handle below the next one. -/
theorem lt_of_get? {s : Store} {h : Nat} {o : Object} (found : s.get? h = some o) : h < s.next := by
  obtain ⟨lt, -⟩ := Array.getElem?_eq_some_iff.mp found
  exact lt

/-- The object that was added last. -/
@[simp] theorem get?_push_next (s : Store) (o : Object) : (s.push o).get? s.next = some o :=
  Array.getElem?_push_size

/-- The objects that were there before. -/
theorem get?_push_of_lt {s : Store} {h : Nat} (lt : h < s.next) (o : Object) :
    (s.push o).get? h = s.get? h := by
  have ne : h ≠ s.objects.size := Nat.ne_of_lt lt
  simp [get?, push, Array.getElem?_push, ne]

@[simp] theorem next_push (s : Store) (o : Object) : (s.push o).next = s.next + 1 :=
  Array.size_push o

@[simp] theorem next_replace (s : Store) (h : Nat) (o : Object) : (s.replace h o).next = s.next :=
  Array.size_setIfInBounds

/-- The object that was put in the place of another one. -/
theorem get?_replace_self {s : Store} {h : Nat} (lt : h < s.next) (o : Object) :
    (s.replace h o).get? h = some o := by
  simp only [get?, replace]
  rw [Array.getElem?_setIfInBounds_self_of_lt lt]

/-- All other objects stay. -/
theorem get?_replace_of_ne (s : Store) {h g : Nat} (ne : h ≠ g) (o : Object) :
    (s.replace h o).get? g = s.get? g :=
  Array.getElem?_setIfInBounds_ne ne

/-! ### Growing -/

/-- A store has grown out of another one: every object is there still. -/
def Grows (s t : Store) : Prop :=
  ∀ ⦃h o⦄, s.get? h = some o → ∃ o', t.get? h = some o' ∧ o.Becomes o'

namespace Grows

variable {s t u : Store}

theorem refl (s : Store) : s.Grows s := fun _ o found => ⟨o, found, .same⟩

theorem trans (h : s.Grows t) (h' : t.Grows u) : s.Grows u := by
  intro i o found
  obtain ⟨o', found, becomes⟩ := h found
  obtain ⟨o'', found, becomes'⟩ := h' found
  exact ⟨o'', found, becomes.trans becomes'⟩

theorem push (s : Store) (o : Object) : s.Grows (s.push o) := by
  intro h o' found
  exact ⟨o', by rw [get?_push_of_lt (lt_of_get? found), found], .same⟩

theorem replace {h : Nat} {o o' : Object} (found : s.get? h = some o) (becomes : o.Becomes o') :
    s.Grows (s.replace h o') := by
  intro g o'' found'
  by_cases eq : h = g
  · subst eq
    obtain rfl : o = o'' := Option.some_inj.mp (found.symm.trans found')
    exact ⟨o', get?_replace_self (lt_of_get? found) o', becomes⟩
  · exact ⟨o'', by rw [s.get?_replace_of_ne eq, found'], .same⟩

/-- There are not fewer objects than before. -/
theorem next_le (h : s.Grows t) : s.next ≤ t.next := by
  refine Nat.le_of_not_lt fun fewer => ?_
  obtain ⟨o, found⟩ := exists_get? fewer
  obtain ⟨o', found, -⟩ := h found
  exact Nat.lt_irrefl _ (lt_of_get? found)

/-- What no builder can change is found again. -/
theorem get?_eq (h : s.Grows t) {i : Nat} {o : Object} (found : s.get? i = some o)
    (fixed : o.isBuildable = false := by rfl) : t.get? i = some o := by
  obtain ⟨o', found, becomes⟩ := h found
  rw [found, becomes.eq_of_fixed fixed]

/-- The same for the object of a value. -/
theorem object?_eq (h : s.Grows t) {v : Value} {o : Object} (found : s.object? v = some o)
    (fixed : o.isBuildable = false := by rfl) : t.object? v = some o := by
  cases v with
  | atom a mark => cases found
  | object i => exact h.get?_eq found fixed

end Grows

/-! ### Values that are there -/

/-- A value is an atom, or the handle of an object that is there. -/
def Knows (s : Store) (v : Value) : Prop := ∀ ⦃h⦄, v = .object h → ∃ o, s.get? h = some o

/-- An object that can stand in a query is behind a value. -/
def Stands (s : Store) (v : Value) : Prop := ∃ o, s.object? v = some o ∧ o.isCompilable = true

section Knows

variable {s t : Store} {v : Value}

theorem knows_atom (s : Store) (a : Atom) (mark : Nat) : s.Knows (.atom a mark) := by
  intro h eq
  cases eq

theorem knows_of_object? {o : Object} (found : s.object? v = some o) : s.Knows v := by
  rintro h rfl
  exact ⟨o, found⟩

theorem Knows.mono (h : s.Knows v) (grows : s.Grows t) : t.Knows v := by
  intro i eq
  obtain ⟨o, found⟩ := h eq
  obtain ⟨o', found, -⟩ := grows found
  exact ⟨o', found⟩

/-- What is behind a known value later was there before. -/
theorem Knows.exists_object? (h : s.Knows v) (grows : s.Grows t) {o' : Object}
    (found : t.object? v = some o') : ∃ o, s.object? v = some o ∧ o.Becomes o' := by
  cases v with
  | atom a mark => cases found
  | object i =>
    obtain ⟨o, before⟩ := h rfl
    obtain ⟨o'', after, becomes⟩ := grows before
    obtain rfl : o'' = o' := Option.some_inj.mp (after.symm.trans found)
    exact ⟨o, before, becomes⟩

theorem Stands.knows (h : s.Stands v) : s.Knows v := by
  obtain ⟨o, found, -⟩ := h
  exact knows_of_object? found

theorem Stands.isNull_eq (h : s.Stands v) : v.isNull = false := by
  obtain ⟨o, found, -⟩ := h
  cases v with
  | atom a mark => cases found
  | object i => rfl

theorem Stands.mono (h : s.Stands v) (grows : s.Grows t) : t.Stands v := by
  obtain ⟨o, found, compilable⟩ := h
  cases v with
  | atom a mark => cases found
  | object i =>
    obtain ⟨o', found, becomes⟩ := grows found
    exact ⟨o', found, becomes.isCompilable_eq.trans compilable⟩

/-- What is known not to stand in a query never will. -/
theorem Knows.stands_of_stands (h : s.Knows v) (grows : s.Grows t) (stands : t.Stands v) :
    s.Stands v := by
  obtain ⟨o', found, compilable⟩ := stands
  obtain ⟨o, found, becomes⟩ := h.exists_object? grows found
  exact ⟨o, found, becomes.isCompilable_eq.symm.trans compilable⟩

/-- The truth of a known value stays. -/
theorem Knows.truth_eq (h : s.Knows v) (grows : s.Grows t) : v.truth t.view = v.truth s.view := by
  cases v with
  | atom a mark => rfl
  | object i =>
    obtain ⟨o, found⟩ := h rfl
    obtain ⟨o', found', becomes⟩ := grows found
    change (t.content i).truth = (s.content i).truth
    rw [content, content, found, found', Option.elim_some, Option.elim_some, becomes.content_eq]

/-- The truth of any value stays in a store that has not got more objects. -/
theorem truth_eq_of_next_eq (grows : s.Grows t) (next_eq : t.next = s.next) (v : Value) :
    v.truth t.view = v.truth s.view := by
  cases v with
  | atom a mark => rfl
  | object i =>
    by_cases lt : i < s.next
    · obtain ⟨o, found⟩ := exists_get? lt
      exact (knows_of_object? (v := .object i) found).truth_eq grows
    · have absent (u : Store) (le : u.next ≤ i) : u.get? i = none := by
        cases found : u.get? i with
        | none => rfl
        | some o => exact absurd (lt_of_get? found) (Nat.not_lt.mpr le)
      change (t.content i).truth = (s.content i).truth
      rw [content, content, absent s (Nat.not_lt.mp lt), absent t (next_eq ▸ Nat.not_lt.mp lt)]

end Knows

/-! ### Nothing is assigned -/

section Unassigned

variable {s : Store} (unassigned : s.assignments = [])
include unassigned

/-- Where nothing is assigned, no object lacks anything. -/
theorem isLacking_eq_false (h : Nat) : s.isLacking h = false := by
  have gone : s.isGone h = fun _ => false := by
    funext name
    simp [isGone, latest?, unassigned]
  unfold isLacking
  rw [gone]
  cases s.get? h with
  | none => rfl
  | some o => simp

theorem isReassigned_eq_false (h : Nat) : s.isReassigned h = false := by
  simp [isReassigned, unassigned]

theorem assigned?_eq_none (h : Nat) (name : String) : s.assigned? h name = none := by
  simp [assigned?, latest?, unassigned]

theorem hasAssigned_eq_false (h : Nat) (name : String) : s.hasAssigned h name = false := by
  rw [hasAssigned, assigned?_eq_none unassigned, Option.isSome_none]

theorem standIn?_eq_none (h : Nat) (part : Constituent) : s.standIn? h part = none :=
  assigned?_eq_none unassigned h part.attribute

end Unassigned

end Store

end GraphQuery
