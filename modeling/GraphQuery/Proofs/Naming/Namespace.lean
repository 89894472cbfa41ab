import GraphQuery.Proofs.Naming.Allocation
import GraphQuery.Store.View
import Mathlib.Data.List.Forall2
import Mathlib.Data.List.Nodup

/-!
The namespace of one build.

Labels of references and keys of parameters are asked for in any order and as often as one likes.
What an environment has to show for it is its ledger, one entry for each instance that was asked
about, in the order of the first questions. No two entries have the same text, so a text belongs to
one instance alone.

* `Ask`: a question for a name, `Environment.after` what a sequence of them leaves behind.
* `Accounts`: the ledger is that of a sequence of questions; `Accounts.put` is its step.
* `one_text_per_instance`: two questions are answered the same text just in case they are about the
  same instance, and what else is to be known about the namespace.
-/

namespace GraphQuery

/-! ### Questions -/

/-- A question for a name: for the label of a reference or for the key of a parameter. -/
inductive Ask where
  | label (r : Reference)
  | key (p : Param)
  deriving DecidableEq

namespace Ask

/-- The role of the name that is asked for. -/
def role : Ask → Role
  | label _ => .label
  | key _ => .key

/-- The handle of the instance that is asked about. -/
def id : Ask → Nat
  | label r => r.id
  | key p => p.id

/-- The value that goes with the name. -/
def param? : Ask → Option Value
  | label _ => none
  | key p => some p.value

/-- The parameter whose key is asked for. -/
def sought? : Ask → Option Param
  | label _ => none
  | key p => some p

/-- The stem that a new name would have. -/
def stem (e : Environment) : Ask → Wording
  | label r => e.stemFor r.stem r.kind
  | key p => e.stemFor p.stem .param

/-- Two questions are about the same instance. -/
def Same (a b : Ask) : Prop := a.role = b.role ∧ a.id = b.id

instance (a b : Ask) : Decidable (a.Same b) := inferInstanceAs (Decidable (_ ∧ _))

theorem Same.trans {a b c : Ask} (h : a.Same b) (h' : b.Same c) : a.Same c :=
  ⟨h.1.trans h'.1, h.2.trans h'.2⟩

/-- Puts a question to an environment. -/
def put (e : Environment) : Ask → Allocated Environment Wording
  | label r => e.labelFor (.reference r)
  | key p => e.keyFor p

/-- The text that an environment answers. -/
def text? (e : Environment) (a : Ask) : Option String :=
  (a.put e).answer.toOption.bind Wording.word?

theorem put_eq_nameFor (e : Environment) (a : Ask) :
    a.put e = e.nameFor a.role a.id (a.stem e) a.param? := by
  cases a <;> rfl

/-- The questions up to a further one, each instance only once. -/
def noted (seen : List Ask) (a : Ask) : List Ask :=
  if ∃ b ∈ seen, b.Same a then seen else seen ++ [a]

/-- The first questions about each instance, in their order. -/
def firsts (asks : List Ask) : List Ask := asks.foldl noted []

/-- The parameters whose keys are asked for, in the order of the first questions. -/
def params (asks : List Ask) : List Param := (firsts asks).filterMap sought?

/-- Every instance that was asked about has a first question. -/
theorem exists_same_firsts {asks : List Ask} {a : Ask} (mem : a ∈ asks) :
    ∃ b ∈ firsts asks, b.Same a := by
  induction asks using List.reverseRecOn with
  | nil => cases mem
  | append_singleton asks c ih =>
    simp only [firsts, List.foldl_append, List.foldl_cons, List.foldl_nil]
    change ∃ b ∈ noted (firsts asks) c, b.Same a
    unfold noted
    rcases List.mem_append.mp mem with mem | mem
    · obtain ⟨b, first, same⟩ := ih mem
      split
      · exact ⟨b, first, same⟩
      · exact ⟨b, List.mem_append_left _ first, same⟩
    · obtain rfl := List.mem_singleton.mp mem
      split
      · assumption
      · exact ⟨a, by simp, rfl, rfl⟩

/-- A first question about an instance was asked. -/
theorem mem_of_mem_firsts {asks : List Ask} {a : Ask} (mem : a ∈ firsts asks) : a ∈ asks := by
  induction asks using List.reverseRecOn with
  | nil => cases mem
  | append_singleton asks c ih =>
    simp only [firsts, List.foldl_append, List.foldl_cons, List.foldl_nil] at mem
    change a ∈ noted (firsts asks) c at mem
    unfold noted at mem
    split at mem
    · exact List.mem_append_left _ (ih mem)
    · rcases List.mem_append.mp mem with mem | mem
      · exact List.mem_append_left _ (ih mem)
      · exact List.mem_append_right _ mem

end Ask

namespace Environment

/-- The environment after a sequence of questions. -/
def after (e : Environment) (asks : List Ask) : Environment :=
  asks.foldl (fun e a => (a.put e).env) e

@[simp] theorem after_nil (e : Environment) : e.after [] = e := rfl

@[simp] theorem after_cons (e : Environment) (a : Ask) (asks : List Ask) :
    e.after (a :: asks) = (a.put e).env.after asks := rfl

theorem after_append (e : Environment) (asks further : List Ask) :
    e.after (asks ++ further) = (e.after asks).after further :=
  List.foldl_append

/-- An environment goes on from where it stood before a question. -/
theorem put_extends (e : Environment) (a : Ask) : e.Extends (a.put e).env := by
  rw [Ask.put_eq_nameFor]
  exact e.nameFor_extends _ _ _ _

/-- An environment goes on from where it stood before a sequence of questions. -/
theorem after_extends (e : Environment) (asks : List Ask) : e.Extends (e.after asks) := by
  induction asks generalizing e with
  | nil => exact .refl e
  | cons a asks ih => exact (e.put_extends a).trans (ih _)

/-! ### The ledger of a sequence of questions -/

/-- Lists whose items yield the same in turn yield the same. -/
theorem filterMap_eq_of_forall₂ {α β γ : Type} {f : α → Option γ} {g : β → Option γ} {l : List α}
    {l' : List β} (h : List.Forall₂ (fun a b => f a = g b) l l') :
    l.filterMap f = l'.filterMap g := by
  induction h with
  | nil => rfl
  | cons eq _ ih => rw [List.filterMap_cons, List.filterMap_cons, eq, ih]

/-- An entry of the ledger is the one made for a question. -/
structure MadeFor (a : Allocation) (ask : Ask) : Prop where
  role_eq : a.role = ask.role
  owner_eq : a.owner = ask.id
  param_eq : a.param? = ask.param?

/-- A name that is made anew is none that is in the ledger. The very first name cannot meet another
one. -/
theorem Makes.word_not_mem {e : Environment} {stem name : Wording} {index : Nat}
    (h : e.Makes stem index name) (untouched : e.counter = 0 → e.allocations = []) :
    name.word? ∉ e.allocations.map fun a => a.name.word? := by
  cases h with
  | bare first _ => simp [untouched first]
  | numbered _ _ _ free _ =>
    intro mem
    obtain ⟨x, mem, word⟩ := List.mem_map.mp mem
    exact free (List.mem_filterMap.mpr ⟨x, mem, word⟩)

/-- The keys of parameters are texts if all names are. -/
theorem exists_text_of_mem_params {e : Environment} (isText : ∀ a ∈ e.allocations, a.name.IsText)
    {entry : Value × Value} (mem : entry ∈ e.params) : ∃ s, entry.1.text? = some s := by
  obtain ⟨x, x_mem, eq⟩ := List.mem_filterMap.mp mem
  obtain ⟨v, -, rfl⟩ := Option.map_eq_some_iff.mp eq
  obtain ⟨s, word⟩ := (isText x x_mem).exists_word
  exact ⟨s, (Wording.handed_text? e.mark x.name).trans word⟩

/-- No two parameters have one key if no two names are the same text. -/
theorem nodup_params {e : Environment} (texts : (e.allocations.map fun a => a.name.word?).Nodup) :
    (e.params.map fun entry => entry.1.text?).Nodup := by
  have keys : e.params.map (fun entry => entry.1.text?) =
      (e.allocations.filter fun a => a.param?.isSome).map fun a => a.name.word? := by
    unfold params
    induction e.allocations with
    | nil => rfl
    | cons a as ih =>
      rw [List.filterMap_cons, List.filter_cons]
      cases a.param? with
      | none => exact ih
      | some v => simp [ih]
  rw [keys]
  exact texts.sublist (List.filter_sublist.map _)

/-- The ledger has an entry for each of the questions and no other, and no text twice. -/
structure Accounts (e : Environment) (seen : List Ask) : Prop where
  entries : List.Forall₂ MadeFor e.allocations seen
  owners : (e.allocations.map fun a => (a.role, a.owner)).Nodup
  texts : (e.allocations.map fun a => a.name.word?).Nodup
  isText : ∀ a ∈ e.allocations, a.name.IsText
  stems : ∀ kind, (e.stems kind).IsText
  /-- The very first name cannot meet another one. -/
  untouched : e.counter = 0 → e.allocations = []

namespace Accounts

variable {e : Environment} {seen : List Ask}

/-- The stem of an instance is a text. -/
theorem stem (h : e.Accounts seen) (a : Ask) : (a.stem e).IsText := by
  have either : ∀ (suggested : Option Name) kind, (e.stemFor suggested kind).IsText := by
    intro suggested kind
    cases suggested with
    | none => exact h.stems kind
    | some n => exact Wording.isText_ofName n
  cases a with
  | label r => exact either r.stem r.kind
  | key p => exact either p.stem .param

/-- What is found for an instance is the name in its entry. -/
theorem find?_eq (h : e.Accounts seen) {a : Allocation} (mem : a ∈ e.allocations) :
    e.find? a.role a.owner = some a.name := by
  unfold find?
  have found : (e.allocations.find? fun b =>
      b.role = a.role && b.owner == a.owner && !b.name.isNull).isSome := by
    rw [List.find?_isSome]
    exact ⟨a, mem, by simp [(h.isText a mem).isNull_eq]⟩
  obtain ⟨b, found⟩ := Option.isSome_iff_exists.mp found
  have same := List.find?_some found
  simp only [Bool.and_eq_true, decide_eq_true_eq, beq_iff_eq] at same
  have := List.inj_on_of_nodup_map h.owners (List.mem_of_find?_eq_some found) mem
    (Prod.ext same.1.1 same.1.2)
  simp [found, this]

/-- The entry of an instance that has been asked about. -/
theorem exists_entry (h : e.Accounts seen) {a : Ask} (asked : ∃ b ∈ seen, b.Same a) :
    ∃ x ∈ e.allocations, x.role = a.role ∧ x.owner = a.id := by
  obtain ⟨b, mem, same⟩ := asked
  obtain ⟨i, lt, rfl⟩ := List.getElem_of_mem mem
  have lt' : i < e.allocations.length := h.entries.length_eq ▸ lt
  have made := h.entries.get lt' lt
  refine ⟨e.allocations[i], List.getElem_mem lt', ?_, ?_⟩
  · exact made.role_eq.trans same.1
  · exact made.owner_eq.trans same.2

/-- No instance has an entry unless it has been asked about. -/
theorem asked_of_entry (h : e.Accounts seen) {a : Ask} {x : Allocation} (mem : x ∈ e.allocations)
    (role_eq : x.role = a.role) (owner_eq : x.owner = a.id) : ∃ b ∈ seen, b.Same a := by
  obtain ⟨i, lt, rfl⟩ := List.getElem_of_mem mem
  have lt' : i < seen.length := h.entries.length_eq ▸ lt
  have made := h.entries.get lt lt'
  refine ⟨seen[i], List.getElem_mem lt', ?_, ?_⟩
  · exact made.role_eq.symm.trans role_eq
  · exact made.owner_eq.symm.trans owner_eq

/-- A question that was put before is answered from the ledger, and nothing else happens. -/
theorem put_of_asked (h : e.Accounts seen) {a : Ask} (asked : ∃ b ∈ seen, b.Same a) :
    ∃ x ∈ e.allocations, x.role = a.role ∧ x.owner = a.id ∧ a.put e = ⟨e, [], .ok x.name⟩ := by
  obtain ⟨x, mem, role_eq, owner_eq⟩ := h.exists_entry asked
  refine ⟨x, mem, role_eq, owner_eq, ?_⟩
  rw [Ask.put_eq_nameFor]
  apply nameFor_of_find?
  rw [← role_eq, ← owner_eq]
  exact h.find?_eq mem

/-- Nothing is found for a new instance. -/
theorem find?_eq_none (h : e.Accounts seen) {a : Ask} (new : ¬ ∃ b ∈ seen, b.Same a) :
    e.find? a.role a.id = none := by
  unfold find?
  rw [Option.map_eq_none_iff, List.find?_eq_none]
  intro x mem found
  simp only [Bool.and_eq_true, decide_eq_true_eq, beq_iff_eq] at found
  exact new (h.asked_of_entry mem found.1.1 found.1.2)

/-- A question about a new instance adds an entry for it. -/
theorem put_of_new (h : e.Accounts seen) {a : Ask} (new : ¬ ∃ b ∈ seen, b.Same a) :
    ∃ index name, Makes e (a.stem e) index name ∧
      (a.put e).env = (e.moved (index + 1)).recorded ⟨a.role, a.id, name, a.param?⟩ ∧
      (a.put e).answer = .ok name := by
  rw [Ask.put_eq_nameFor, nameFor, h.find?_eq_none new]
  cases allocate_allocates e a.role a.id (a.stem e) a.param? with
  | named makes env answer => exact ⟨_, _, makes, env, answer⟩
  | failed noText _ _ => exact absurd (h.stem a) noText

/-- What one question does to the ledger. -/
theorem put (h : e.Accounts seen) (a : Ask) : (a.put e).env.Accounts (Ask.noted seen a) := by
  unfold Ask.noted
  split
  · rename_i asked
    obtain ⟨_, _, _, _, eq⟩ := h.put_of_asked asked
    rw [eq]
    exact h
  · rename_i new
    obtain ⟨index, name, makes, env, -⟩ := h.put_of_new new
    have isText := makes.worded numbered_isText (h.stem a)
    have free := makes.word_not_mem h.untouched
    have unowned : (a.role, a.id) ∉ e.allocations.map fun x => (x.role, x.owner) := by
      intro mem
      obtain ⟨x, mem, eq⟩ := List.mem_map.mp mem
      exact new (h.asked_of_entry mem (congrArg Prod.fst eq) (congrArg Prod.snd eq))
    rw [env]
    constructor
    · exact List.rel_append h.entries (.cons ⟨rfl, rfl, rfl⟩ .nil)
    · simpa [List.nodup_append] using ⟨h.owners, by simpa using unowned⟩
    · simpa [List.nodup_append] using ⟨h.texts, by simpa using free⟩
    · intro x mem
      rcases List.mem_append.mp mem with mem | mem
      · exact h.isText x mem
      · rw [List.mem_singleton.mp mem]
        exact isText
    · exact h.stems
    · simp

/-- What a sequence of questions does to the ledger. -/
theorem after (h : e.Accounts []) (asks : List Ask) :
    (e.after asks).Accounts (Ask.firsts asks) := by
  induction asks using List.reverseRecOn with
  | nil => exact h
  | append_singleton asks a ih =>
    rw [after_append]
    simpa [Ask.firsts] using ih.put a

/-- Every question is answered with the name in an entry of the ledger. -/
theorem exists_answer (h : e.Accounts seen) (a : Ask) :
    ∃ x ∈ (a.put e).env.allocations, x.role = a.role ∧ x.owner = a.id ∧
      (a.put e).answer = .ok x.name := by
  by_cases asked : ∃ b ∈ seen, b.Same a
  · obtain ⟨x, mem, role_eq, owner_eq, eq⟩ := h.put_of_asked asked
    rw [eq]
    exact ⟨x, mem, role_eq, owner_eq, rfl⟩
  · obtain ⟨index, name, -, env, answer⟩ := h.put_of_new asked
    rw [env, answer]
    exact ⟨⟨a.role, a.id, name, a.param?⟩, by simp, rfl, rfl, rfl⟩

/-- The entries of two instances have one text just in case the instances are the same. -/
theorem word_eq_iff (h : e.Accounts seen) {x y : Allocation} (x_mem : x ∈ e.allocations)
    (y_mem : y ∈ e.allocations) :
    x.name.word? = y.name.word? ↔ x.role = y.role ∧ x.owner = y.owner := by
  constructor
  · intro eq
    obtain rfl := List.inj_on_of_nodup_map h.texts x_mem y_mem eq
    exact ⟨rfl, rfl⟩
  · rintro ⟨role_eq, owner_eq⟩
    have eq := List.inj_on_of_nodup_map h.owners x_mem y_mem (Prod.ext role_eq owner_eq)
    rw [eq]

/-- The parameters of the ledger are those that were asked about, with their keys. -/
theorem params_eq (h : e.Accounts seen) :
    e.params.map (fun entry => (entry.1.text?, entry.2)) =
      (seen.filterMap Ask.sought?).map fun p => ((Ask.key p).text? e, p.value) := by
  have entries := (List.forall₂_and_left _ _).mpr
    ⟨fun _ mem => h.find?_eq mem, h.entries⟩
  unfold params
  rw [List.map_filterMap, List.map_filterMap]
  refine filterMap_eq_of_forall₂ (entries.imp fun x ask ⟨found, made⟩ => ?_)
  cases ask with
  | label r => simp [made.param_eq, Ask.param?, Ask.sought?]
  | key p =>
    rw [made.role_eq, made.owner_eq] at found
    simp [made.param_eq, Ask.param?, Ask.sought?, Ask.text?, Ask.put_eq_nameFor,
      nameFor_of_find? found, Except.toOption]

/-- The keys of parameters are texts. -/
theorem exists_text (h : e.Accounts seen) {entry : Value × Value} (mem : entry ∈ e.params) :
    ∃ s, entry.1.text? = some s :=
  exists_text_of_mem_params h.isText mem

/-- No two parameters have one key. -/
theorem params_nodup (h : e.Accounts seen) :
    (e.params.map fun entry => entry.1.text?).Nodup :=
  nodup_params h.texts

end Accounts

/-- The text of a key that has been given. -/
theorem text?_of_find? {e : Environment} {p : Param} {name : String}
    (found : e.find? .key p.id = some (.text name)) : (Ask.key p).text? e = some name := by
  unfold Ask.text?
  rw [Ask.put_eq_nameFor]
  change (e.nameFor .key p.id _ _).answer.toOption.bind _ = _
  rw [nameFor_of_find? found]
  rfl

/-- A new environment has given no name yet. -/
theorem accounts_blank {n : Naming} (texts : ∀ kind, (n.stems kind).text?.isSome)
    (view : ObjectView) (mark : Nat) : (n.environment view (.blank mark)).Accounts [] where
  entries := .nil
  owners := List.nodup_nil
  texts := List.nodup_nil
  isText _ mem := absurd mem List.not_mem_nil
  stems kind := Wording.isText_ofValue view (texts kind)
  untouched _ := rfl

end Environment

/-! ### The namespace -/

/-- In a new environment whose stems are texts, questions are put in any order and any number. Two
of them are answered one text just in case they are about the same instance; a question that was put
before changes nothing; the parameters are those asked about, in the order of the first questions
and each with its value; and later they only become more. -/
theorem one_text_per_instance (n : Naming) (view : ObjectView) (mark : Nat)
    (texts : ∀ kind, (n.stems kind).text?.isSome) :
    let e := n.environment view (.blank mark)
    (∀ (before : List Ask) (a : Ask) (between : List Ask) (b : Ask), ∃ s t,
      a.text? (e.after before) = some s ∧
      b.text? (e.after (before ++ a :: between)) = some t ∧ (s = t ↔ a.Same b)) ∧
    (∀ (before : List Ask) (a : Ask), (∃ b ∈ before, b.Same a) →
      (a.put (e.after before)).env = e.after before ∧
        (a.put (e.after before)).occurrences = []) ∧
    (∀ asks : List Ask, (e.after asks).params.map (fun entry => (entry.1.text?, entry.2)) =
      (Ask.params asks).map fun p => ((Ask.key p).text? (e.after asks), p.value)) ∧
    ∀ asks further : List Ask, (e.after asks).params <+: (e.after (asks ++ further)).params := by
  intro e
  have accounts : ∀ asks, (e.after asks).Accounts (Ask.firsts asks) :=
    (Environment.accounts_blank texts view mark).after
  refine ⟨?_, ?_, ?_, ?_⟩
  · intro before a between b
    obtain ⟨x, x_mem, x_role, x_owner, x_answer⟩ := (accounts before).exists_answer a
    obtain ⟨y, y_mem, y_role, y_owner, y_answer⟩ :=
      (accounts (before ++ a :: between)).exists_answer b
    have final := (accounts (before ++ a :: between)).put b
    -- The first entry is still there when the second question has been answered.
    have x_kept : x ∈ (b.put (e.after (before ++ a :: between))).env.allocations := by
      have later := (e.after (before ++ a :: between)).put_extends b
      refine later.allocations_grow.mem ?_
      rw [Environment.after_append, Environment.after_cons]
      exact ((a.put (e.after before)).env.after_extends between).allocations_grow.mem x_mem
    obtain ⟨s, x_word⟩ := (final.isText x x_kept).exists_word
    obtain ⟨t, y_word⟩ := (final.isText y y_mem).exists_word
    refine ⟨s, t, ?_, ?_, ?_⟩
    · simp [Ask.text?, x_answer, Except.toOption, x_word]
    · simp [Ask.text?, y_answer, Except.toOption, y_word]
    · have same := final.word_eq_iff x_kept y_mem
      rw [x_word, y_word, x_role, y_role, x_owner, y_owner, Option.some_inj] at same
      exact same
  · intro before a asked
    obtain ⟨b, mem, same⟩ := asked
    obtain ⟨c, first, same'⟩ := Ask.exists_same_firsts mem
    obtain ⟨_, _, _, _, eq⟩ := (accounts before).put_of_asked ⟨c, first, same'.trans same⟩
    rw [eq]
    exact ⟨rfl, rfl⟩
  · intro asks
    exact (accounts asks).params_eq
  · intro asks further
    rw [Environment.after_append]
    exact ((e.after asks).after_extends further).params_grow

/-- A node whose name is to begin with `n1` gets that very name; a node after it that is named in
the usual way does not get the same name. -/
theorem one_text_per_instance_clash :
    let naming : Naming := ⟨fun _ => .text "n", .bool true, .text " "⟩
    let e := naming.environment Store.empty.view (.blank 0)
    let first := Ask.label ⟨0, some (.text "n1"), .node []⟩
    ∃ s t, first.text? (e.after []) = some s ∧
      (Ask.label ⟨1, none, .node []⟩).text? (e.after ([] ++ first :: [])) = some t ∧ s ≠ t := by
  intro naming e first
  obtain ⟨s, t, answered, answered', same⟩ :=
    (one_text_per_instance naming Store.empty.view 0 (fun _ => rfl)).1 [] first []
      (.label ⟨1, none, .node []⟩)
  exact ⟨s, t, answered, answered', fun eq => absurd (same.mp eq) (by decide)⟩

end GraphQuery
