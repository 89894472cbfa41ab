import GraphQuery.Proofs.Naming.Namespace
import Mathlib.Data.List.Dedup

/-!
What the counter of an environment has counted.

Every number that is used up is that of a name or is passed over, and whoever passes it over tells
of it. Each object has one name in a role. So the counter is at all times the number of objects that
have a label, of those that have a key, and of the numbers that were told of, taken together.

* `Environment.passed`: the numbers that are passed over between two environments.
  `Environment.nameFor_skipped`: asking for a name tells of these and of no others.
* `Environment.Tally`: the names that were given, and the numbers that were passed over, account for
  the counter. `Tally.nameFor` is its step, `Tally.counter_eq_dedup` what it says of the counter.
-/

namespace GraphQuery

/-- The number that is told of when it is passed over. -/
def Event.skipped? : Event → Option Value
  | collision _ index => some index
  | _ => none

namespace Environment

/-- The objects that have a name in a role. -/
def owners (e : Environment) (role : Role) : List Nat :=
  (e.allocations.filter fun a => a.role = role).map (·.owner)

/-- A further allocation adds its owner in its role. -/
theorem owners_recorded (e : Environment) (counter : Nat) (a : Allocation) (role : Role) :
    ((e.moved counter).recorded a).owners role =
      e.owners role ++ if role = a.role then [a.owner] else [] := by
  by_cases same : role = a.role <;> simp [owners, same, eq_comm]

/-- A name belongs to an object in one of the two roles. -/
theorem length_owners (e : Environment) :
    (e.owners .label).length + (e.owners .key).length = e.allocations.length := by
  unfold owners
  induction e.allocations with
  | nil => rfl
  | cons a as ih =>
    simp only [List.length_map] at ih
    cases role : a.role <;> simp [role] <;> omega

/-- Where all names are texts, the objects for which a name is found are those that have one. -/
theorem Worded.find?_eq_none_iff {e : Environment} (h : e.Worded Wording.IsText) (role : Role)
    (owner : Nat) : e.find? role owner = none ↔ owner ∉ e.owners role := by
  simp only [find?, Option.map_eq_none_iff, List.find?_eq_none, owners, List.mem_map,
    List.mem_filter, not_exists]
  constructor
  · rintro absent a ⟨⟨mem, role_eq⟩, rfl⟩
    exact absent a mem (by simpa [(h.names a mem).isNull_eq] using role_eq)
  · intro absent a mem found
    simp only [Bool.and_eq_true, decide_eq_true_eq, beq_iff_eq] at found
    exact absent a ⟨⟨mem, by simpa using found.1.1⟩, found.1.2⟩

/-! ### Numbers that are passed over -/

/-- The numbers that are passed over on the way from an environment to the one that it has become by
giving a further name: all but the last of those that are used up. -/
def passed (e e' : Environment) : List Nat :=
  List.range' e.counter (e'.counter - (e.counter + 1))

/-- Nothing is passed over where nothing happens. -/
@[simp] theorem passed_self (e : Environment) : e.passed e = [] := by
  rw [passed, Nat.sub_eq_zero_of_le (Nat.le_succ _), List.range'_zero]

/-- A numbered name tells of the numbers in front of its own. -/
theorem allocateText_skipped (e : Environment) (role : Role) (owner : Nat) (stem : String)
    (param? : Option Value) :
    let given := e.allocateText role owner stem param?
    given.occurrences.filterMap (fun o => o.event.skipped?) =
      (e.passed given.env).map fun i : Nat => .int i := by
  simp [allocateText, passed, List.filterMap_map, Event.skipped?, List.filterMap_eq_map']

/-- Asking for a name tells of the numbers that are passed over and of no others. -/
theorem nameFor_skipped (e : Environment) (role : Role) (owner : Nat) (stem : Wording)
    (param? : Option Value) :
    let given := e.nameFor role owner stem param?
    given.occurrences.filterMap (fun o => o.event.skipped?) =
      (e.passed given.env).map fun i : Nat => .int i := by
  have next : ∀ e' : Environment, e'.counter = e.counter + 1 →
      [] = (e.passed e').map fun i : Nat => Value.int i := by
    intro e' eq
    rw [passed, eq, Nat.sub_self, List.range'_zero, List.map_nil]
  unfold nameFor
  split
  · simp
  · cases stem with
    | text s => exact e.allocateText_skipped role owner s param?
    | value v written hashable =>
      simp only [allocate]
      split
      · unfold allocateBare
        split <;> exact next _ rfl
      · cases written with
        | ok s => exact e.allocateText_skipped role owner s param?
        | error f => exact next _ rfl

/-! ### The tally -/

/-- The names that an environment has given are those of the objects that were met in each role, and
with the numbers that were passed over on the way they account for its counter. -/
structure Tally (e : Environment) (met : Role → List Nat) (skipped : List Nat) : Prop where
  worded : e.Worded Wording.IsText
  owners : ∀ role, (e.owners role).Nodup
  mem_owners : ∀ role i, i ∈ e.owners role ↔ i ∈ met role
  texts : (e.allocations.map fun a => a.name.word?).Nodup
  untouched : e.counter = 0 → e.allocations = []
  counter_eq : e.counter = e.allocations.length + skipped.length
  ascending : skipped.Pairwise (· < ·)
  below : ∀ i ∈ skipped, i < e.counter

/-- A new environment has counted nothing yet. -/
theorem tally_blank {n : Naming} (texts : ∀ kind, (n.stems kind).text?.isSome)
    (view : ObjectView) (mark : Nat) :
    (n.environment view (.blank mark)).Tally (fun _ => []) [] where
  worded := ⟨fun kind => Wording.isText_ofValue view (texts kind),
    fun _ mem => absurd mem List.not_mem_nil⟩
  owners _ := .nil
  mem_owners _ _ := .rfl
  texts := .nil
  untouched _ := rfl
  counter_eq := rfl
  ascending := .nil
  below _ mem := absurd mem List.not_mem_nil

namespace Tally

variable {e : Environment} {met met' : Role → List Nat} {skipped : List Nat}

/-- The counter has counted the objects that were met, each once in a role, and the numbers that
were passed over. -/
theorem counter_eq_dedup (h : e.Tally met skipped) :
    e.counter = (met .label).dedup.length + (met .key).dedup.length + skipped.length := by
  have once : ∀ role, (e.owners role).length = (met role).dedup.length := by
    intro role
    refine List.Perm.length_eq ((List.perm_ext_iff_of_nodup (h.owners role)
      (List.nodup_dedup _)).mpr fun i => ?_)
    rw [List.mem_dedup, h.mem_owners role]
  rw [h.counter_eq, ← e.length_owners, once, once]

/-- A name that is made anew for an object adds the object in its role, and the numbers in front of
its own come after all that were passed over before. -/
theorem made (h : e.Tally met skipped) {role : Role} {owner index : Nat} {stem name : Wording}
    (isText : stem.IsText) (makes : e.Makes stem index name) (new : owner ∉ e.owners role)
    (param? : Option Value) (noted : ∀ r i, i ∈ met' r ↔ i ∈ met r ∨ r = role ∧ i = owner) :
    ((e.moved (index + 1)).recorded ⟨role, owner, name, param?⟩).Tally met'
      (skipped ++ List.range' e.counter (index - e.counter)) where
  worded := by
    refine ⟨h.worded.stems, fun a mem => ?_⟩
    rcases List.mem_append.mp mem with mem | mem
    · exact h.worded.names a mem
    · rw [List.mem_singleton.mp mem]
      exact makes.worded numbered_isText isText
  owners r := by
    rw [owners_recorded]
    split
    · rename_i same
      rw [same, ← List.concat_eq_append]
      exact (h.owners role).concat new
    · rw [List.append_nil]
      exact h.owners r
  mem_owners r i := by
    rw [owners_recorded, noted, List.mem_append, h.mem_owners]
    split <;> simp_all
  texts := by
    have free := makes.word_not_mem h.untouched
    simpa [List.nodup_append] using ⟨h.texts, by simpa using free⟩
  untouched := by simp
  counter_eq := by
    have from_le := makes.counter_le
    simp only [recorded_counter, moved_counter, recorded_allocations, moved_allocations,
      List.length_append, List.length_singleton, List.length_range', h.counter_eq] at from_le ⊢
    omega
  ascending := by
    refine List.pairwise_append.mpr ⟨h.ascending, List.pairwise_lt_range', ?_⟩
    intro i before j later
    exact Nat.lt_of_lt_of_le (h.below i before) (List.mem_range'_1.mp later).1
  below i mem := by
    have from_le := makes.counter_le
    rw [recorded_counter, moved_counter]
    rcases List.mem_append.mp mem with before | later
    · have := h.below i before
      omega
    · have := (List.mem_range'_1.mp later).2
      omega

/-- Asking for a name adds an object in a role, if it is not there already, and the numbers that are
passed over come after all that were passed over before. -/
theorem nameFor (h : e.Tally met skipped) (role : Role) (owner : Nat) {stem : Wording}
    (isText : stem.IsText) (param? : Option Value)
    (noted : ∀ r i, i ∈ met' r ↔ i ∈ met r ∨ r = role ∧ i = owner) :
    (e.nameFor role owner stem param?).env.Tally met'
      (skipped ++ e.passed (e.nameFor role owner stem param?).env) := by
  cases found : e.find? role owner with
  | some name =>
    rw [nameFor_of_find? found, passed_self, List.append_nil]
    have owned : owner ∈ e.owners role := by
      by_contra absent
      rw [(h.worded.find?_eq_none_iff role owner).mpr absent] at found
      cases found
    refine { h with mem_owners := fun r i => ?_ }
    rw [noted, h.mem_owners, or_iff_left_of_imp]
    rintro ⟨rfl, rfl⟩
    exact (h.mem_owners _ _).mp owned
  | none =>
    have new := (h.worded.find?_eq_none_iff role owner).mp found
    rw [Environment.nameFor, found]
    cases allocate_allocates e role owner stem param? with
    | failed noText _ _ => exact absurd isText noText
    | @named index name makes env _ =>
      have passed_eq : e.passed (e.allocate role owner stem param?).env =
          List.range' e.counter (index - e.counter) := by
        rw [env, passed, recorded_counter, moved_counter, Nat.add_sub_add_right]
      rw [passed_eq, env]
      exact h.made isText makes new param? noted

end Tally

end Environment

end GraphQuery
