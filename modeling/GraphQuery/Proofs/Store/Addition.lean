import GraphQuery.Proofs.Store.Containment

/-!
What is added to a store, and what comes of it for containment.

While a call takes its arguments, objects are added to the store and none are changed. What is added
is made of what was there before it. So an object that was there contains what it contained before,
and no new object comes to contain itself.

* `Store.Adds`: a store has got further objects, and all others are as they were.
* `Store.IsComplete`: all objects are made of objects that are there. `Store.Adds.isComplete`: that
  stays so when objects are added that are made of older ones.
* `Store.Apart`: an object is not another one, and the other one is not in it.
-/

namespace GraphQuery

open Relation

namespace Object

/-- The objects that an object is made of are older than a handle, and are some that are given. -/
def IsMadeOf (given : Nat → Prop) (h : Nat) (o : Object) : Prop :=
  ∀ g, .object g ∈ o.parts → g < h ∧ given g

/-- An object is made of objects that are older than a handle. -/
def IsMadeBefore (h : Nat) (o : Object) : Prop := ∀ g, .object g ∈ o.parts → g < h

/-- An object is made of no others, and no builder changes it. -/
def IsBare (_ : Nat) (o : Object) : Prop := o.parts = [] ∧ o.isBuildable = false

variable {h : Nat} {o : Object}

theorem IsMadeOf.isMadeBefore {given : Nat → Prop} (made : o.IsMadeOf given h) :
    o.IsMadeBefore h := fun g part => (made g part).1

theorem IsBare.isMadeOf (bare : o.IsBare h) (given : Nat → Prop) : o.IsMadeOf given h := by
  intro g part
  rw [bare.1] at part
  cases part

end Object

namespace Store

/-- What is known is older than the next object. -/
theorem Knows.lt {s : Store} {g : Nat} (known : s.Knows (.object g)) : g < s.next := by
  obtain ⟨o, found⟩ := known rfl
  exact lt_of_get? found

/-- What is older than the next object is known. -/
theorem knows_of_lt {s : Store} {g : Nat} (lt : g < s.next) : s.Knows (.object g) := by
  rintro _ ⟨⟩
  exact exists_get? lt

/-! ### Additions -/

/-- A store has got further objects, which are as they should be with the handles that they have.
All others are as they were. -/
structure Adds (p : Nat → Object → Prop) (s t : Store) : Prop where
  kept : ∀ ⦃h o⦄, s.get? h = some o → t.get? h = some o
  added : ∀ ⦃h o⦄, s.next ≤ h → t.get? h = some o → p h o

namespace Adds

variable {p q : Nat → Object → Prop} {s t u : Store}

theorem refl (s : Store) : s.Adds p s where
  kept _ _ found := found
  added _ _ le found := absurd (lt_of_get? found) (Nat.not_lt.mpr le)

/-- What is behind an old handle is what was there before. -/
theorem get?_eq (adds : s.Adds p t) {h : Nat} (lt : h < s.next) : t.get? h = s.get? h := by
  obtain ⟨o, found⟩ := exists_get? lt
  rw [adds.kept found, found]

theorem trans (first : s.Adds p t) (second : t.Adds p u) : s.Adds p u where
  kept _ _ found := second.kept (first.kept found)
  added h o le found := by
    by_cases lt : h < t.next
    · exact first.added le (second.get?_eq lt ▸ found)
    · exact second.added (Nat.not_lt.mp lt) found

theorem imp (adds : s.Adds p t) (weaker : ∀ h o, p h o → q h o) : s.Adds q t :=
  ⟨adds.kept, fun h o le found => weaker h o (adds.added le found)⟩

theorem push (s : Store) {o : Object} (isSo : p s.next o) : s.Adds p (s.push o) where
  kept h o' found := by rw [get?_push_of_lt (lt_of_get? found), found]
  added h o' le found := by
    have lt : h < s.next + 1 := by simpa using lt_of_get? found
    obtain rfl : h = s.next := Nat.le_antisymm (Nat.lt_succ_iff.mp lt) le
    rw [get?_push_next] at found
    cases found
    exact isSo

theorem grows (adds : s.Adds p t) : s.Grows t :=
  fun _ o found => ⟨o, adds.kept found, .same⟩

theorem next_le (adds : s.Adds p t) : s.next ≤ t.next := adds.grows.next_le

end Adds

/-! ### Containment -/

/-- All objects are made of objects that are there. -/
def IsComplete (s : Store) : Prop := ∀ ⦃h o⦄, s.get? h = some o → o.IsMadeBefore s.next

/-- What an object is made of is known. -/
theorem IsComplete.knows {s : Store} (complete : s.IsComplete) {h : Nat} {o : Object}
    (found : s.get? h = some o) : ∀ v ∈ o.parts, s.Knows v := by
  intro v part
  cases v with
  | atom a mark => exact s.knows_atom a mark
  | object g => exact knows_of_lt (complete found g part)

/-- What is in an object is there. -/
theorem IsComplete.lt_of_contains {s : Store} (complete : s.IsComplete) {h g : Nat}
    (contains : s.Contains h g) : g < s.next := by
  obtain ⟨o, found, part⟩ := contains
  exact complete found _ part

/-- What can be reached from an object that is there is there. -/
theorem IsComplete.lt_of_reaches {s : Store} (complete : s.IsComplete) {h g : Nat} (lt : h < s.next)
    (reaches : ReflTransGen s.Contains h g) : g < s.next := by
  cases reaches with
  | refl => exact lt
  | tail _ contains => exact complete.lt_of_contains contains

/-- A store stays complete when objects are added that are made of older ones. -/
theorem Adds.isComplete {s t : Store} (adds : s.Adds Object.IsMadeBefore t)
    (complete : s.IsComplete) : t.IsComplete := by
  intro h o found g part
  by_cases lt : h < s.next
  · rw [adds.get?_eq lt] at found
    exact Nat.lt_of_lt_of_le (complete found g part) adds.next_le
  · exact Nat.lt_trans (adds.added (Nat.not_lt.mp lt) found g part) (lt_of_get? found)

/-! ### Objects that are apart -/

/-- An object that is there is not a given one, and the given one is not in it. -/
structure Apart (s : Store) (h g : Nat) : Prop where
  lt : g < s.next
  reaches : ¬ ReflTransGen s.Contains g h

namespace Apart

variable {s : Store} {h g i : Nat}

theorem ne (apart : s.Apart h g) : g ≠ h := fun eq => apart.reaches (eq ▸ .refl)

/-- What is in an object is apart if the object is. -/
theorem of_contains (complete : s.IsComplete) (apart : s.Apart h g) (contains : s.Contains g i) :
    s.Apart h i :=
  ⟨complete.lt_of_contains contains, fun reaches => apart.reaches (.head contains reaches)⟩

end Apart

end Store

/-! ### What typed objects are made of -/

section Typed

variable {s : Store}

/-- What a projection is made of is known. -/
theorem Projection.Typed.knows {p : Projection} (typed : p.Typed s) :
    ∀ v ∈ p.parts, s.Knows v := by
  intro v mem
  rcases List.mem_append.mp mem with mem | mem
  · obtain ⟨c, column, rfl⟩ := List.mem_map.mp mem
    cases typed.columns c column with
    | star => exact s.knows_atom _ _
    | bare stands => exact stands.knows
    | named stands _ => exact stands.knows
  · obtain ⟨i, sortItem, rfl⟩ := List.mem_map.mp mem
    exact (typed.sortItems i sortItem).knows

/-- What a clause is made of is known. -/
theorem Clause.Typed.knows {c : Clause} (typed : c.Typed s) : ∀ v ∈ c.parts, s.Knows v := by
  have head : ∀ v ∈ c.head.parts, s.Knows v := by
    have patterns : ∀ v ∈ c.head.patterns.map Value.object, s.Knows v :=
      List.forall_mem_map.mpr fun h mem => (typed.patterns h mem).stands.knows
    cases eq : c.head with
    | read _ _ hs =>
      rw [eq] at patterns
      exact patterns
    | create hs =>
      rw [eq] at patterns
      exact patterns
    | project p => exact (typed.body p eq).knows
  have trailing : ∀ p? : Option Projection, (∀ p, p? = some p → p.Typed s) →
      ∀ v ∈ p?.elim [] Projection.parts, s.Knows v := by
    intro p? typed
    cases p? with
    | none => exact fun v mem => absurd mem List.not_mem_nil
    | some p => exact (typed p rfl).knows
  intro v mem
  simp only [Clause.parts, List.mem_append, Option.mem_toList, List.mem_flatMap] at mem
  rcases mem with ((((mem | mem) | ⟨e, mem, pair⟩) | mem) | mem) | mem
  · exact head v mem
  · exact (typed.filter v mem).knows
  · obtain ⟨target, value⟩ := typed.assignments e mem
    rcases List.mem_pair.mp pair with rfl | rfl
    · exact target.stands.knows
    · exact value.knows
  · exact (typed.removals v mem).stands.knows
  · exact trailing _ typed.passing v mem
  · exact trailing _ typed.returning v mem

end Typed

end GraphQuery
