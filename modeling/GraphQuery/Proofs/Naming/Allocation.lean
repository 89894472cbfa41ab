import GraphQuery.Environment
import Mathlib.Data.List.Infix

/-!
What one allocation does.

Everything that an environment does to its ledger is an allocation of a name or nothing at all, so
this module says once what an allocation can do and derives from it how environments grow.

* `numberedName_injective`, `firstFree_not_mem`, `mem_of_lt_firstFree`: names of different numbers
  differ, so the search for a free one ends on the least number whose name is free.
* `Environment.Allocates`: the ways in which an allocation can end, `Environment.allocate_allocates`
  that these are all.
* `Environment.Extends`: an environment goes on from another one. Every name and every parameter
  that was there is there still (`Extends.find?_eq`, `Extends.params_grow`).
-/

namespace GraphQuery

/-! ### Numbered names -/

/-- The decimal digits of a number tell which number it is. -/
theorem toString_nat_injective : Function.Injective (toString : Nat → String) := by
  intro i j h
  have digits : Nat.toDigits 10 i = Nat.toDigits 10 j := by
    have lists := congrArg String.toList h
    rwa [Nat.toString_eq_repr, Nat.toString_eq_repr, Nat.toList_repr, Nat.toList_repr] at lists
  have parsed := congrArg (fun ds => Nat.ofDigitChars 10 ds 0) digits
  simpa using parsed

/-- Behind one stem, names of different numbers differ. The bare stem is no exception, since all
other names are longer. -/
theorem numberedName_injective (stem : String) (bareFirst : Bool) :
    Function.Injective (numberedName stem bareFirst) := by
  have longer : ∀ i : Nat, stem ≠ stem ++ toString i := by
    intro i h
    have empty : toString i = "" := by
      rw [← String.append_right_inj stem, ← h, String.append_empty]
    exact Nat.repr_ne_empty empty
  intro i j h
  unfold numberedName at h
  split at h <;> split at h
  · omega
  · exact absurd h (longer j)
  · exact absurd h.symm (longer i)
  · exact toString_nat_injective ((String.append_right_inj stem).mp h)

section FirstFree

variable {name : Nat → String}

/-- Where nothing is taken, the search ends at once. -/
@[simp] theorem firstFree_nil (index : Nat) : firstFree name [] index = index := by
  rw [firstFree, if_neg List.not_mem_nil]

/-- The search never goes back. -/
theorem le_firstFree (taken : List String) (index : Nat) : index ≤ firstFree name taken index := by
  fun_induction firstFree name taken index with
  | case1 taken index _ ih => exact Nat.le_of_succ_le ih
  | case2 => exact Nat.le_refl _

/-- The name that the search ends on is free. -/
theorem firstFree_not_mem (inj : Function.Injective name) (taken : List String) (index : Nat) :
    name (firstFree name taken index) ∉ taken := by
  fun_induction firstFree name taken index with
  | case1 taken index _ ih =>
    -- The one name that was struck off belongs to an index the search has left behind.
    have passed : name (firstFree name (taken.erase (name index)) (index + 1)) ≠ name index := by
      intro h
      have := @le_firstFree name (taken.erase (name index)) (index + 1)
      have := inj h
      omega
    rwa [List.mem_erase_of_ne passed] at ih
  | case2 _ _ free => exact free

/-- Every name that the search passes over is taken. -/
theorem mem_of_lt_firstFree {taken : List String} {index i : Nat} (from_le : index ≤ i)
    (lt : i < firstFree name taken index) : name i ∈ taken := by
  fun_induction firstFree name taken index with
  | case1 taken index mem ih =>
    rcases Nat.eq_or_lt_of_le from_le with rfl | further
    · exact mem
    · exact List.mem_of_mem_erase (ih further lt)
  | case2 => omega

end FirstFree

/-! ### Wordings that are texts -/

namespace Wording

/-- The wording is a text: it has one in running text and on its own, and can be a key. -/
def IsText : Wording → Prop
  | text _ => True
  | value v written hashable => v.text?.isSome ∧ written.toOption.isSome ∧ hashable

/-- A text has a word. -/
theorem IsText.exists_word {w : Wording} (h : w.IsText) : ∃ s, w.word? = some s := by
  cases w with
  | text s => exact ⟨s, rfl⟩
  | value v written hashable => exact Option.isSome_iff_exists.mp h.1

/-- A text is something. -/
theorem IsText.isNull_eq {w : Wording} (h : w.IsText) : w.isNull = false := by
  cases w with
  | text s => rfl
  | value v written hashable =>
    obtain ⟨isSome, -⟩ := h
    cases v with
    | object _ => rfl
    | atom a mark =>
      cases a <;> simp_all [isNull, Value.isNull, Value.text?, Value.name?, Atom.name?]

/-- What is handed out for a wording is the same text. -/
@[simp] theorem handed_text? (mark : Nat) (w : Wording) : (w.handed mark).text? = w.word? := by
  cases w with
  | text s => rfl
  | value v written hashable => rfl

/-- What stands for a value that is a text is a text. -/
theorem isText_ofValue (view : ObjectView) {v : Value} (h : v.text?.isSome) :
    (ofValue view v).IsText := by
  cases v with
  | object _ => simp [Value.text?, Value.name?] at h
  | atom a mark =>
    cases a <;> simp_all [ofValue, IsText, Value.text?, Value.name?, Atom.name?, Value.plain,
      Value.hashable, Except.toOption]

/-- What stands for a value that is something is something. -/
theorem isNull_ofValue (view : ObjectView) {v : Value} (h : v.isNull = false) :
    (ofValue view v).isNull = false := by
  unfold ofValue
  split
  · rfl
  · exact h

/-- What stands for a name is a text. -/
theorem isText_ofName (n : Name) : (ofName n).IsText := by
  cases n <;> simp [ofName, IsText, Value.text?, Value.name?, Value.direction, Atom.name?,
    Except.toOption]

end Wording

namespace Environment

/-! ### Steps of the ledger -/

@[simp] theorem moved_allocations (e : Environment) (n : Nat) :
    (e.moved n).allocations = e.allocations := rfl

@[simp] theorem moved_counter (e : Environment) (n : Nat) : (e.moved n).counter = n := rfl

@[simp] theorem moved_mark (e : Environment) (n : Nat) : (e.moved n).mark = e.mark := rfl

@[simp] theorem moved_stems (e : Environment) (n : Nat) : (e.moved n).stems = e.stems := rfl

@[simp] theorem moved_bareFirst (e : Environment) (n : Nat) :
    (e.moved n).bareFirst = e.bareFirst := rfl

@[simp] theorem moved_separator (e : Environment) (n : Nat) :
    (e.moved n).separator = e.separator := rfl

@[simp] theorem recorded_allocations (e : Environment) (a : Allocation) :
    (e.recorded a).allocations = e.allocations ++ [a] := rfl

@[simp] theorem recorded_counter (e : Environment) (a : Allocation) :
    (e.recorded a).counter = e.counter := rfl

@[simp] theorem recorded_mark (e : Environment) (a : Allocation) :
    (e.recorded a).mark = e.mark := rfl

@[simp] theorem recorded_stems (e : Environment) (a : Allocation) :
    (e.recorded a).stems = e.stems := rfl

@[simp] theorem recorded_bareFirst (e : Environment) (a : Allocation) :
    (e.recorded a).bareFirst = e.bareFirst := rfl

@[simp] theorem recorded_separator (e : Environment) (a : Allocation) :
    (e.recorded a).separator = e.separator := rfl

/-- A name that an environment makes of a stem: the stem alone as the very first name, or the first
free one among the stems with a number behind them. A text that stands alone counts as the latter.
-/
inductive Makes (e : Environment) (stem : Wording) : Nat → Wording → Prop where
  | bare : e.counter = 0 → e.bareFirst = true → Makes e stem 0 stem
  | numbered {s : String} {index : Nat} : stem.written = .ok s →
      (e.counter = 0 → e.bareFirst = true → stem = .text s) → e.counter ≤ index →
      numberedName s e.bareFirst index ∉ e.issued →
      (∀ i, e.counter ≤ i → i < index → numberedName s e.bareFirst i ∈ e.issued) →
      Makes e stem index (.text (numberedName s e.bareFirst index))

/-- How an allocation ends: with a name, which is recorded, or with a fault, which costs a number
all the same. Only a stem that is no text leads to a fault. -/
inductive Allocates (e : Environment) (role : Role) (owner : Nat) (stem : Wording)
    (param? : Option Value) (given : Allocated Environment Wording) : Prop where
  | named {index : Nat} {name : Wording} : Makes e stem index name →
      given.env = (e.moved (index + 1)).recorded ⟨role, owner, name, param?⟩ →
      given.answer = .ok name → Allocates e role owner stem param? given
  | failed {f : Fault} : ¬ stem.IsText → given.env = e.moved (e.counter + 1) →
      given.answer = .error f → Allocates e role owner stem param? given

/-- What stands behind a text is the first numbered name that is free. -/
theorem allocateText_allocates (e : Environment) (role : Role) (owner : Nat) {stem : Wording}
    {s : String} (written : stem.written = .ok s)
    (alone : e.counter = 0 → e.bareFirst = true → stem = .text s) (param? : Option Value) :
    Allocates e role owner stem param? (e.allocateText role owner s param?) := by
  refine .named (.numbered written alone (le_firstFree _ _) ?_ ?_) rfl rfl
  · exact firstFree_not_mem (numberedName_injective s e.bareFirst) _ _
  · exact fun i from_le lt => mem_of_lt_firstFree from_le lt

/-- Every allocation ends in one of these ways. -/
theorem allocate_allocates (e : Environment) (role : Role) (owner : Nat) (stem : Wording)
    (param? : Option Value) :
    Allocates e role owner stem param? (e.allocate role owner stem param?) := by
  cases stem with
  | text s => exact allocateText_allocates e role owner rfl (fun _ _ => rfl) param?
  | value v written hashable =>
    simp only [allocate]
    split
    · rename_i first
      cases hashable with
      | true =>
        refine .named (.bare first.1 first.2) ?_ rfl
        simp [allocateBare, first.1]
      | false => exact .failed (by simp [Wording.IsText]) rfl rfl
    · rename_i later
      cases written with
      | ok s =>
        exact allocateText_allocates e role owner rfl (fun zero bare => absurd ⟨zero, bare⟩ later)
          param?
      | error f => exact .failed (by simp [Wording.IsText, Except.toOption]) rfl rfl

/-! ### Environments that go on -/

/-- An environment goes on from another one: it has given further names and moved its counter on,
and everything else is as it was. -/
structure Extends (e e' : Environment) : Prop where
  counter_le : e.counter ≤ e'.counter
  allocations_grow : e.allocations <+: e'.allocations
  mark_eq : e'.mark = e.mark
  stems_eq : e'.stems = e.stems
  bareFirst_eq : e'.bareFirst = e.bareFirst
  separator_eq : e'.separator = e.separator

namespace Extends

variable {e e' e'' : Environment}

theorem refl (e : Environment) : e.Extends e :=
  ⟨Nat.le_refl _, List.prefix_refl _, rfl, rfl, rfl, rfl⟩

theorem trans (h : e.Extends e') (h' : e'.Extends e'') : e.Extends e'' where
  counter_le := Nat.le_trans h.counter_le h'.counter_le
  allocations_grow := h.allocations_grow.trans h'.allocations_grow
  mark_eq := h'.mark_eq.trans h.mark_eq
  stems_eq := h'.stems_eq.trans h.stems_eq
  bareFirst_eq := h'.bareFirst_eq.trans h.bareFirst_eq
  separator_eq := h'.separator_eq.trans h.separator_eq

/-- A name that was given is still given. -/
theorem find?_eq (h : e.Extends e') {role : Role} {owner : Nat} {name : Wording}
    (found : e.find? role owner = some name) : e'.find? role owner = some name := by
  obtain ⟨further, eq⟩ := h.allocations_grow
  unfold find? at found ⊢
  rw [← eq, List.find?_append]
  obtain ⟨a, found, named⟩ := Option.map_eq_some_iff.mp found
  simp [found, named]

/-- The keys that were there are the first ones still, with the values that they stood for. -/
theorem params_grow (h : e.Extends e') : e.params <+: e'.params := by
  unfold params
  rw [h.mark_eq]
  exact h.allocations_grow.filterMap _

end Extends

/-- The number of a new name is none that was used up. -/
theorem Makes.counter_le {e : Environment} {stem name : Wording} {index : Nat}
    (h : e.Makes stem index name) : e.counter ≤ index := by
  cases h with
  | bare first _ => omega
  | numbered _ _ from_le _ _ => exact from_le

/-- An environment goes on from where it stood before an allocation. -/
theorem Allocates.extends {e : Environment} {role : Role} {owner : Nat} {stem : Wording}
    {param? : Option Value} {given : Allocated Environment Wording}
    (h : e.Allocates role owner stem param? given) : e.Extends given.env := by
  cases h with
  | named makes env _ =>
    rw [env]
    exact ⟨by have := makes.counter_le; simp; omega, List.prefix_append _ _, rfl, rfl, rfl, rfl⟩
  | failed _ env _ =>
    rw [env]
    exact ⟨by simp, List.prefix_refl _, rfl, rfl, rfl, rfl⟩

/-- Whoever asks for a name leaves the environment as it is or allocates. -/
theorem nameFor_extends (e : Environment) (role : Role) (owner : Nat) (stem : Wording)
    (param? : Option Value) : e.Extends (e.nameFor role owner stem param?).env := by
  unfold nameFor
  split
  · exact .refl e
  · exact (allocate_allocates e role owner stem param?).extends

/-- A name that has been given is given again, and nothing else happens. -/
theorem nameFor_of_find? {e : Environment} {role : Role} {owner : Nat} {name : Wording}
    (found : e.find? role owner = some name) (stem : Wording) (param? : Option Value) :
    e.nameFor role owner stem param? = ⟨e, [], .ok name⟩ := by
  simp [nameFor, found]

/-! ### Properties of all names -/

/-- The stems of an environment and the names that it has given have a property in common. -/
structure Worded (P : Wording → Prop) (e : Environment) : Prop where
  stems : ∀ kind, P (e.stems kind)
  names : ∀ a ∈ e.allocations, P a.name

/-- Neither the stems of an environment nor the names that it has given are nothing. -/
abbrev Named (e : Environment) : Prop := e.Worded fun w => w.isNull = false

/-- A number behind a stem does not take the property away. -/
def Numbered (P : Wording → Prop) : Prop :=
  ∀ ⦃stem : Wording⦄ ⦃s : String⦄, P stem → stem.written = .ok s →
    ∀ bareFirst index, P (.text (numberedName s bareFirst index))

section Worded

variable {P : Wording → Prop} {e : Environment}

/-- A stem that is suggested or configured has the property of all names. -/
theorem Worded.stemFor (h : e.Worded P) {suggested : Option Name}
    (suggests : ∀ n, suggested = some n → P (.ofName n)) (kind : Kind) :
    P (e.stemFor suggested kind) := by
  cases suggested with
  | none => exact h.stems kind
  | some n => exact suggests n rfl

/-- A name has the property of the stem that it is made of. -/
theorem Makes.worded (numbered : Numbered P) {stem name : Wording} {index : Nat}
    (h : e.Makes stem index name) (worded : P stem) : P name := by
  cases h with
  | bare _ _ => exact worded
  | numbered written _ _ _ _ => exact numbered worded written _ _

/-- Asking for a name keeps the property of all names. -/
theorem Worded.nameFor (numbered : Numbered P) (h : e.Worded P) (role : Role) (owner : Nat)
    {stem : Wording} (worded : P stem) (param? : Option Value) :
    (e.nameFor role owner stem param?).env.Worded P := by
  unfold Environment.nameFor
  split
  · exact h
  · cases allocate_allocates e role owner stem param? with
    | named makes env _ =>
      rw [env]
      refine ⟨h.stems, fun a mem => ?_⟩
      rcases List.mem_append.mp mem with mem | mem
      · exact h.names a mem
      · rw [List.mem_singleton.mp mem]
        exact makes.worded numbered worded
    | failed _ env _ =>
      rw [env]
      exact ⟨h.stems, h.names⟩

end Worded

/-- A name with a number is something. -/
theorem numbered_isNull : Numbered fun w => w.isNull = false := fun _ _ _ _ _ _ => rfl

/-- A name with a number is a text. -/
theorem numbered_isText : Numbered Wording.IsText := fun _ _ _ _ _ _ => trivial

/-- Names of the library are something. -/
theorem isNull_ofName (n : Name) : (Wording.ofName n).isNull = false :=
  (Wording.isText_ofName n).isNull_eq

/-- In an environment whose names are something, so are the stems of new ones. -/
theorem Named.stemFor {e : Environment} (h : e.Named) (suggested : Option Name) (kind : Kind) :
    (e.stemFor suggested kind).isNull = false :=
  Worded.stemFor h (fun n _ => isNull_ofName n) kind

/-- A name that is something and was answered is found from then on. -/
theorem find?_of_nameFor {e : Environment} {role : Role} {owner : Nat} {stem name : Wording}
    (something : stem.isNull = false) {param? : Option Value}
    (answered : (e.nameFor role owner stem param?).answer = .ok name) :
    (e.nameFor role owner stem param?).env.find? role owner = some name := by
  unfold nameFor at answered ⊢
  split at answered
  · rename_i found
    simp_all
  · rename_i absent
    cases allocate_allocates e role owner stem param? with
    | named makes env answer =>
      rw [answer] at answered
      cases answered
      rw [env]
      have unseen : (e.allocations.find? fun a =>
          a.role = role && a.owner == owner && !a.name.isNull) = none := by
        simpa [find?] using absent
      simp only [find?, moved_allocations, recorded_allocations, List.find?_append, unseen]
      simp [makes.worded numbered_isNull something]
    | failed _ _ answer => simp [answer] at answered

end Environment

end GraphQuery
