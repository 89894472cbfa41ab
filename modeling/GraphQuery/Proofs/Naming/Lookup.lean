import GraphQuery.Proofs.Naming.Numbering
import GraphQuery.Proofs.Naming.Numeral

/-!
Calls for names, and the numbers that they pass over.

A call asks an environment for the label or the key of an object. As long as the calls pass over no
number, all names are numbered from nought on, so whether the next call passes over one depends on
the stems alone: a new name meets an old one just in case two names with different numbers are the
same text.

* `Lookup`: a call for a name, `Environment.skipped` the names that are passed over in a sequence
  of calls.
* `Environment.Unbroken`: the ledger is numbered without a gap; `Unbroken.put` is its step and
  `Unbroken.after` the run.
* `Unbroken.skipped_eq_nil`, `Unbroken.exists_skipped`: stems that never meet, and stems that do.
-/

namespace GraphQuery

/-! ### Calls for names -/

/-- A call for the name that a reference or a parameter has in a role. -/
structure Lookup where
  role : Role
  bearer : Bearer

namespace Lookup

/-- The kind whose stem a new name has, unless another one is suggested. -/
def kind : Lookup → Kind
  | ⟨.label, b⟩ => b.kind
  | ⟨.key, _⟩ => .param

/-- The value that goes with the name. -/
def param? : Lookup → Option Value
  | ⟨.key, .param p⟩ => some p.value
  | _ => none

/-- Makes the call. -/
def put (e : Environment) : Lookup → Allocated Environment Wording
  | ⟨.label, b⟩ => e.labelFor b
  | ⟨.key, .param p⟩ => e.keyFor p
  | ⟨.key, .reference r⟩ => e.keyForReference r

/-- Two calls are for one name. -/
def Same (a b : Lookup) : Prop := a.role = b.role ∧ a.bearer.id = b.bearer.id

instance (a b : Lookup) : Decidable (a.Same b) := inferInstanceAs (Decidable (_ ∧ _))

/-- The calls for new names up to a further one. -/
def noted (seen : List Lookup) (c : Lookup) : List Lookup :=
  if ∃ b ∈ seen, b.Same c then seen else seen ++ [c]

/-- The calls for new names. -/
def firsts (calls : List Lookup) : List Lookup := calls.foldl noted []

/-- Calls for different names are all for new ones. -/
theorem foldl_noted_of_pairwise {seen calls : List Lookup}
    (apart : (seen ++ calls).Pairwise fun a b => ¬ a.Same b) :
    calls.foldl noted seen = seen ++ calls := by
  induction calls generalizing seen with
  | nil => exact (List.append_nil seen).symm
  | cons c rest ih =>
    have new : ¬ ∃ b ∈ seen, b.Same c := by
      rintro ⟨b, mem, same⟩
      exact (List.pairwise_append.mp apart).2.2 b mem c List.mem_cons_self same
    rw [List.foldl_cons, noted, if_neg new, ih (by simpa using apart), List.append_assoc]
    rfl

/-- What is recorded for a call that is given a name. -/
def entry (c : Lookup) (name : String) : Allocation :=
  ⟨c.role, c.bearer.id, .text name, c.param?⟩

/-- A new object of a kind is asked for its name. -/
def ofKind (kind : Kind) (id : Nat) : Lookup :=
  match kind with
  | .node => ⟨.label, .reference ⟨id, none, .node []⟩⟩
  | .relationship => ⟨.label, .reference ⟨id, none, .relationship none⟩⟩
  | .var => ⟨.label, .reference ⟨id, none, .var⟩⟩
  | .path => ⟨.label, .reference ⟨id, none, .path⟩⟩
  | .param => ⟨.key, .param ⟨id, .null, none⟩⟩

@[simp] theorem ofKind_kind (kind : Kind) (id : Nat) : (ofKind kind id).kind = kind := by
  cases kind <;> rfl

@[simp] theorem ofKind_stem (kind : Kind) (id : Nat) : (ofKind kind id).bearer.stem = none := by
  cases kind <;> rfl

@[simp] theorem ofKind_id (kind : Kind) (id : Nat) : (ofKind kind id).bearer.id = id := by
  cases kind <;> rfl

/-- What a call does to an environment is to ask it for a name. -/
theorem put_eq_nameFor (e : Environment) {c : Lookup} (plain : c.bearer.stem = none) :
    (c.put e).env = (e.nameFor c.role c.bearer.id (e.stems c.kind) c.param?).env ∧
      (c.put e).occurrences =
        (e.nameFor c.role c.bearer.id (e.stems c.kind) c.param?).occurrences := by
  obtain ⟨role, bearer⟩ := c
  have stem : ∀ kind, e.stemFor bearer.stem kind = e.stems kind := by
    intro kind
    rw [plain]
    rfl
  cases role with
  | label =>
    rw [put, Environment.labelFor, stem]
    exact ⟨rfl, rfl⟩
  | key =>
    cases bearer with
    | param p =>
      have stem : e.stemFor p.stem .param = e.stems .param := stem .param
      rw [put, Environment.keyFor, stem]
      exact ⟨rfl, rfl⟩
    | reference r =>
      have stem : e.stemFor r.stem .param = e.stems .param := stem .param
      simp only [put, Environment.keyForReference, Environment.nameFor, kind, param?, stem,
        Bearer.id]
      constructor
      · cases e.find? .key r.id <;> rfl
      · cases e.find? .key r.id <;> rfl

end Lookup

namespace Environment

/-- The environment after a sequence of calls. -/
def called (e : Environment) (calls : List Lookup) : Environment :=
  calls.foldl (fun e c => (c.put e).env) e

/-- The names that are passed over in a sequence of calls. -/
def skipped (e : Environment) : List Lookup → List (Occurrence Environment)
  | [] => []
  | c :: rest => (c.put e).occurrences ++ skipped (c.put e).env rest

theorem skipped_append (e : Environment) (calls further : List Lookup) :
    e.skipped (calls ++ further) = e.skipped calls ++ (e.called calls).skipped further := by
  induction calls generalizing e with
  | nil => rfl
  | cons c rest ih =>
    simp only [List.cons_append, skipped, ih, List.append_assoc]
    rfl

/-! ### One call -/

/-- A new name passes over a number just in case the name with the next number is in use. -/
theorem allocateText_occurrences_eq_nil_iff (e : Environment) (role : Role) (owner : Nat)
    (stem : String) (param? : Option Value) :
    (e.allocateText role owner stem param?).occurrences = [] ↔
      numberedName stem e.bareFirst e.counter ∉ e.issued := by
  have occurrences : (e.allocateText role owner stem param?).occurrences = [] ↔
      firstFree (numberedName stem e.bareFirst) e.issued e.counter - e.counter = 0 := by
    simp [allocateText]
  rw [occurrences, firstFree]
  split
  · rename_i taken
    have beyond : e.counter + 1 ≤ firstFree (numberedName stem e.bareFirst)
        (e.issued.erase (numberedName stem e.bareFirst e.counter)) (e.counter + 1) :=
      le_firstFree _ _
    simp only [taken, not_true_eq_false, iff_false]
    omega
  · rename_i free
    simp [free]

/-- All names of an environment are made of the stems of the kinds, and numbered from nought on in
the order of the calls. -/
structure Unbroken (stems : Kind → String) (e : Environment) (seen : List Lookup) : Prop where
  stems_eq : ∀ kind, e.stems kind = .text (stems kind)
  counter_eq : e.counter = seen.length
  allocations_eq : e.allocations =
    seen.mapIdx fun k c => c.entry (numberedName (stems c.kind) e.bareFirst k)

namespace Unbroken

variable {stems : Kind → String} {e : Environment} {seen : List Lookup}

/-- The texts in use are the numbered names of the calls. -/
theorem mem_issued_iff (h : Unbroken stems e seen) {name : String} :
    name ∈ e.issued ↔
      ∃ k, ∃ lt : k < seen.length, name = numberedName (stems seen[k].kind) e.bareFirst k := by
  have issued : e.issued =
      seen.mapIdx fun k c => numberedName (stems c.kind) e.bareFirst k := by
    unfold issued
    rw [h.allocations_eq]
    simp only [List.mapIdx_eq_zipIdx_map, List.filterMap_map]
    exact List.filterMap_eq_map_iff_forall_eq_some.mpr fun _ _ => rfl
  rw [issued, List.mem_mapIdx]
  constructor
  · rintro ⟨k, lt, rfl⟩
    exact ⟨k, lt, rfl⟩
  · rintro ⟨k, lt, rfl⟩
    exact ⟨k, lt, rfl⟩

/-- A name is found just in case there was a call for it. -/
theorem find?_isSome_iff (h : Unbroken stems e seen) (c : Lookup) :
    (e.find? c.role c.bearer.id).isSome ↔ ∃ b ∈ seen, b.Same c := by
  unfold find?
  rw [Option.isSome_map, List.find?_isSome, h.allocations_eq]
  constructor
  · rintro ⟨a, mem, same⟩
    obtain ⟨k, lt, rfl⟩ := List.mem_mapIdx.mp mem
    simp only [Bool.and_eq_true, beq_iff_eq] at same
    exact ⟨seen[k], List.getElem_mem lt, of_decide_eq_true same.1.1, same.1.2⟩
  · rintro ⟨b, mem, same⟩
    obtain ⟨k, lt, rfl⟩ := List.getElem_of_mem mem
    refine ⟨_, List.mem_mapIdx.mpr ⟨k, lt, rfl⟩, ?_⟩
    simp [Lookup.entry, same.1, same.2, Wording.isNull]

/-- A call for a known name changes nothing. -/
theorem put_of_known (h : Unbroken stems e seen) {c : Lookup} (plain : c.bearer.stem = none)
    (known : ∃ b ∈ seen, b.Same c) : (c.put e).env = e ∧ (c.put e).occurrences = [] := by
  obtain ⟨name, found⟩ := Option.isSome_iff_exists.mp ((h.find?_isSome_iff c).mpr known)
  obtain ⟨env, occurrences⟩ := c.put_eq_nameFor e plain
  rw [env, occurrences, nameFor_of_find? found]
  exact ⟨rfl, rfl⟩

/-- A call for a new name makes it of the stem of its kind. -/
theorem put_of_new (h : Unbroken stems e seen) {c : Lookup} (plain : c.bearer.stem = none)
    (new : ¬ ∃ b ∈ seen, b.Same c) :
    (c.put e).env = (e.allocateText c.role c.bearer.id (stems c.kind) c.param?).env ∧
      (c.put e).occurrences =
        (e.allocateText c.role c.bearer.id (stems c.kind) c.param?).occurrences := by
  have absent : e.find? c.role c.bearer.id = none := by
    rw [← Option.not_isSome_iff_eq_none, h.find?_isSome_iff]
    exact new
  obtain ⟨env, occurrences⟩ := c.put_eq_nameFor e plain
  rw [env, occurrences, nameFor, absent, h.stems_eq]
  exact ⟨rfl, rfl⟩

/-- A call for a new name passes over a number just in case the numbered name is in use. -/
theorem occurrences_eq_nil_iff (h : Unbroken stems e seen) {c : Lookup}
    (plain : c.bearer.stem = none) (new : ¬ ∃ b ∈ seen, b.Same c) :
    (c.put e).occurrences = [] ↔
      numberedName (stems c.kind) e.bareFirst seen.length ∉ e.issued := by
  rw [(h.put_of_new plain new).2, allocateText_occurrences_eq_nil_iff, h.counter_eq]

/-- A call that passes over no number leaves no gap. -/
theorem put (h : Unbroken stems e seen) {c : Lookup} (plain : c.bearer.stem = none)
    (smooth : (c.put e).occurrences = []) :
    Unbroken stems (c.put e).env (Lookup.noted seen c) ∧
      (c.put e).env.bareFirst = e.bareFirst := by
  unfold Lookup.noted
  split
  · rename_i known
    rw [(h.put_of_known plain known).1]
    exact ⟨h, rfl⟩
  · rename_i new
    obtain ⟨env, occurrences⟩ := h.put_of_new plain new
    rw [env, allocateText_of_smooth (occurrences ▸ smooth)]
    refine ⟨⟨h.stems_eq, ?_, ?_⟩, rfl⟩
    · simp [h.counter_eq]
    · simp [h.allocations_eq, h.counter_eq, List.mapIdx_append, Lookup.entry]

/-- Calls that pass over no number leave no gap. -/
theorem after (h : Unbroken stems e seen) {calls : List Lookup}
    (plain : ∀ c ∈ calls, c.bearer.stem = none) (smooth : e.skipped calls = []) :
    Unbroken stems (e.called calls) (calls.foldl Lookup.noted seen) ∧
      (e.called calls).bareFirst = e.bareFirst := by
  induction calls generalizing e seen with
  | nil => exact ⟨h, rfl⟩
  | cons c rest ih =>
    obtain ⟨first, others⟩ := List.append_eq_nil_iff.mp smooth
    obtain ⟨step, same⟩ := h.put (plain c (by simp)) first
    obtain ⟨run, same'⟩ := ih step (fun c mem => plain c (List.mem_cons_of_mem _ mem)) others
    exact ⟨run, same'.trans same⟩

/-! ### Stems that are not ambiguous -/

/-- Where no stem is another one followed by digits, a call passes over no number. -/
theorem smooth_of_unambiguous (h : Unbroken stems e seen)
    (unambiguous : ∀ k k', isNumbered (stems k) (stems k') = false) {c : Lookup}
    (plain : c.bearer.stem = none) : (c.put e).occurrences = [] := by
  by_cases known : ∃ b ∈ seen, b.Same c
  · exact (h.put_of_known plain known).2
  · rw [h.occurrences_eq_nil_iff plain known, h.mem_issued_iff]
    rintro ⟨k, lt, eq⟩
    rcases isNumbered_of_numberedName_eq lt eq.symm with numbered | numbered
    · rw [unambiguous] at numbered
      cases numbered
    · rw [unambiguous] at numbered
      cases numbered

/-- Where no stem is another one followed by digits, no number is ever passed over. -/
theorem skipped_eq_nil (h : Unbroken stems e seen)
    (unambiguous : ∀ k k', isNumbered (stems k) (stems k') = false) {calls : List Lookup}
    (plain : ∀ c ∈ calls, c.bearer.stem = none) : e.skipped calls = [] := by
  induction calls generalizing e seen with
  | nil => rfl
  | cons c rest ih =>
    have smooth := h.smooth_of_unambiguous unambiguous (plain c (by simp))
    have step := (h.put (plain c (by simp)) smooth).1
    simp only [skipped, smooth, List.nil_append]
    exact ih step fun c mem => plain c (List.mem_cons_of_mem _ mem)

/-! ### Stems that are ambiguous -/

/-- After enough calls the next name of a kind is that of the very first call. -/
theorem exists_skipped (h : Unbroken stems e []) {kind kind' : Kind} {count : Nat}
    (pos : 0 < count) (meets : numberedName (stems kind') e.bareFirst 0 =
      numberedName (stems kind) e.bareFirst count) :
    ∃ calls : List Lookup, (∀ c ∈ calls, c.bearer.stem = none ∧ (c.kind = kind ∨ c.kind = kind')) ∧
      e.skipped calls ≠ [] := by
  obtain ⟨more, rfl⟩ := Nat.exists_eq_add_one.mpr pos
  let before := Lookup.ofKind kind' 0 :: (List.range' 1 more).map (Lookup.ofKind kind)
  let last := Lookup.ofKind kind (more + 1)
  have kinds : ∀ c ∈ before ++ [last],
      c.bearer.stem = none ∧ (c.kind = kind ∨ c.kind = kind') := by
    intro c mem
    simp only [before, last, List.mem_append, List.mem_cons, List.mem_map, List.not_mem_nil,
      or_false] at mem
    rcases mem with (rfl | ⟨id, -, rfl⟩) | rfl <;> simp
  -- The handles of the objects are the numbers from nought on.
  have handles : (before ++ [last]).map (·.bearer.id) = List.range' 0 (more + 2) := by
    rw [List.range'_succ, List.range'_concat]
    simp [before, last, Function.comp_def, Nat.add_comm]
  have apart : (before ++ [last]).Pairwise fun a b => ¬ a.Same b := by
    have distinct : ((before ++ [last]).map (·.bearer.id)).Nodup := by
      rw [handles]
      exact List.nodup_range'
    exact (List.pairwise_map.mp distinct).imp fun ne same => ne same.2
  refine ⟨before ++ [last], kinds, ?_⟩
  intro smooth
  rw [skipped_append, List.append_eq_nil_iff] at smooth
  obtain ⟨smooth, final⟩ := smooth
  obtain ⟨run, same⟩ :=
    h.after (fun c mem => (kinds c (List.mem_append_left _ mem)).1) smooth
  rw [Lookup.foldl_noted_of_pairwise (List.pairwise_append.mp apart).1, List.nil_append] at run
  have new : ¬ ∃ b ∈ before, b.Same last := by
    rintro ⟨b, mem, same⟩
    exact (List.pairwise_append.mp apart).2.2 b mem last List.mem_cons_self same
  have free := (run.occurrences_eq_nil_iff (kinds last (by simp)).1 new).mp
    (List.append_eq_nil_iff.mp final).1
  refine free (run.mem_issued_iff.mpr ⟨0, Nat.zero_lt_succ _, ?_⟩)
  rw [same]
  simpa [before, last] using meets.symm

end Unbroken

end Environment

end GraphQuery
