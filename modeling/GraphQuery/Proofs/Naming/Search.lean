import GraphQuery.Proofs.Naming.Allocation
import Mathlib.Data.List.Dedup
import Mathlib.Data.List.Perm.Subperm
import Mathlib.Order.Bounds.Defs

/-!
The search for a free name, round by round.

In each round the number that the counter stands at is used up, and the search ends if the name with
this number is free. Nothing in it says how many rounds there will be. But names of different
numbers differ, so every name that is taken can send the search on only once.

* `Environment.round`, `Environment.search`: a round, and as many of them as are allowed.
* `Environment.search_eq`: how many rounds are enough, and what they come to.
* `allocation_takes_first_free`: an allocation ends as the search does, and that is soon.
-/

namespace GraphQuery

namespace Environment

/-! ### Rounds -/

/-- A round of the search for a name behind a stem: the environment with one more number used up,
and the name with that number unless it is taken. -/
def round (e : Environment) (stem : String) : Environment × Option String :=
  let name := numberedName stem e.bareFirst e.counter
  (e.moved (e.counter + 1), if name ∈ e.issued then none else some name)

/-- At most so many rounds, one after another until a name is free. -/
def search (stem : String) : Nat → Environment → Option (Environment × String)
  | 0, _ => none
  | rounds + 1, e =>
    match e.round stem with
    | (next, none) => search stem rounds next
    | (next, some name) => some (next, name)

variable {e : Environment} {stem : String} {index : Nat}

/-- A name that is taken sends the search on. -/
theorem search_of_taken (taken : numberedName stem e.bareFirst e.counter ∈ e.issued)
    (rounds : Nat) :
    e.search stem (rounds + 1) = (e.moved (e.counter + 1)).search stem rounds := by
  simp [search, round, taken]

/-- A name that is free ends the search. -/
theorem search_of_free (free : numberedName stem e.bareFirst e.counter ∉ e.issued)
    (rounds : Nat) :
    e.search stem (rounds + 1) =
      some (e.moved (e.counter + 1), numberedName stem e.bareFirst e.counter) := by
  simp [search, round, free]

/-- The search ends on the first number whose name is free, as soon as its round is allowed. The
induction is on the rounds; what is taken does not change from one to the next. -/
theorem search_eq
    (first : IsLeast {i | e.counter ≤ i ∧ numberedName stem e.bareFirst i ∉ e.issued} index)
    (rounds : Nat) :
    e.search stem rounds = if index < e.counter + rounds then
      some (e.moved (index + 1), numberedName stem e.bareFirst index) else none := by
  obtain ⟨⟨from_le, free⟩, least⟩ := first
  induction rounds generalizing e with
  | zero => rw [search, if_neg (by omega)]
  | succ rounds ih =>
    by_cases here : numberedName stem e.bareFirst e.counter ∈ e.issued
    · have later : e.counter ≠ index := by
        rintro rfl
        exact free here
      have further : e.counter + 1 ≤ index := by omega
      have onward := ih (e := e.moved (e.counter + 1))
        (fun i mem => least ⟨Nat.le_of_succ_le mem.1, mem.2⟩) further free
      rw [search_of_taken here, onward, moved_counter, Nat.add_right_comm, Nat.add_assoc]
      rfl
    · obtain rfl : e.counter = index := Nat.le_antisymm from_le (least ⟨Nat.le_refl _, here⟩)
      rw [search_of_free here, if_pos (by omega)]

/-! ### How many rounds there are -/

/-- The first number from the counter on whose name is free. -/
theorem isLeast_firstFree (e : Environment) (stem : String) :
    IsLeast {i | e.counter ≤ i ∧ numberedName stem e.bareFirst i ∉ e.issued}
      (firstFree (numberedName stem e.bareFirst) e.issued e.counter) := by
  refine ⟨⟨le_firstFree _ _, firstFree_not_mem (numberedName_injective stem _) _ _⟩, ?_⟩
  rintro i ⟨from_le, free⟩
  by_contra before
  exact free (mem_of_lt_firstFree from_le (Nat.lt_of_not_le before))

/-- The numbers that are passed over are no more than the names that are taken. -/
theorem passed_le_issued
    (first : IsLeast {i | e.counter ≤ i ∧ numberedName stem e.bareFirst i ∉ e.issued} index) :
    index - e.counter ≤ e.issued.dedup.length := by
  let passed := (List.range' e.counter (index - e.counter)).map (numberedName stem e.bareFirst)
  have distinct : passed.Nodup :=
    List.Nodup.map (numberedName_injective stem e.bareFirst) List.nodup_range'
  have taken : passed ⊆ e.issued.dedup := by
    intro name mem
    obtain ⟨i, between, rfl⟩ := List.mem_map.mp mem
    obtain ⟨from_le, lt⟩ := List.mem_range'_1.mp between
    by_contra absent
    have := first.2 ⟨from_le, mt List.mem_dedup.mpr absent⟩
    omega
  calc index - e.counter = passed.length := by rw [List.length_map, List.length_range']
    _ ≤ e.issued.dedup.length := (List.subperm_of_subset distinct taken).length_le

/-- A further allocation of a text is one further name in use. -/
theorem issued_recorded (e : Environment) (counter : Nat) (role : Role) (owner : Nat)
    (name : String) (param? : Option Value) :
    ((e.moved counter).recorded ⟨role, owner, .text name, param?⟩).issued = e.issued ++ [name] := by
  simp [issued, Wording.word?]

end Environment

/-- In whatever state an environment is, and whatever text the stem is, the search for a name ends
after at most one round more than there are names in use, and allocating a name comes to what the
search does. The number of the name is the least one, from the counter on, whose name is not in use.
The counter stands behind this number then, and the names in use are the same with this one added.
Each round but the last one is told of. -/
theorem allocation_takes_first_free (e : Environment) (role : Role) (owner : Nat) (stem : String)
    (param? : Option Value) :
    let given := e.allocate role owner (.text stem) param?
    let name := numberedName stem e.bareFirst
    ∃ index rounds : Nat,
      IsLeast {i | e.counter ≤ i ∧ name i ∉ e.issued} index ∧
      given.answer = .ok (.text (name index)) ∧
      given.env.counter = index + 1 ∧
      given.env.issued = e.issued ++ [name index] ∧
      rounds ≤ e.issued.dedup.length + 1 ∧
      given.occurrences.length + 1 = rounds ∧
      (∀ allowed, allowed < rounds → e.search stem allowed = none) ∧
      ∀ allowed, rounds ≤ allowed → ∃ found : Environment,
        e.search stem allowed = some (found, name index) ∧
        given.env = found.recorded ⟨role, owner, .text (name index), param?⟩ := by
  intro given name
  let index := firstFree name e.issued e.counter
  have first : IsLeast {i | e.counter ≤ i ∧ name i ∉ e.issued} index := e.isLeast_firstFree stem
  have from_le : e.counter ≤ index := first.1.1
  refine ⟨index, index - e.counter + 1, first, rfl, rfl,
    e.issued_recorded (index + 1) role owner (name index) param?,
    Nat.succ_le_succ (Environment.passed_le_issued first), ?_, ?_, ?_⟩
  · change (List.map _ (List.range' e.counter (index - e.counter))).length + 1 = _
    rw [List.length_map, List.length_range']
  · intro allowed fewer
    rw [Environment.search_eq first, if_neg (by omega)]
  · intro allowed enough
    refine ⟨e.moved (index + 1), ?_, rfl⟩
    rw [Environment.search_eq first, if_pos (by omega)]

end GraphQuery
