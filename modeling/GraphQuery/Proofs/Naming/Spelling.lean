import GraphQuery.Proofs.Naming.Numbering
import GraphQuery.Proofs.Text.Token
import GraphQuery.Settings.Basic

/-!
How names are spelt where all stems are identifiers.

An identifier can be given as a text or as a direction, whose word is one; a direction is written
with a point in it. A name is such an identifier, with the digits of a number behind it unless it is
the bare stem that is the very first name. So names are words, and no two of them are spelt alike.

* `Wording.IsStem`: an identifier, whichever way it is given.
* `Wording.IsFormed`: a name that is made of an identifier.
* `Environment.Spells`: all stems are identifiers, and all names are made of them. Questions keep
  this: `Environment.Spells.put`.
* `Environment.spelling`: how the answer to a question is spelt. `Environment.Spells.spelling_inj`:
  instances that have been asked about are told apart by it.
-/

namespace GraphQuery

/-! ### Digits -/

/-- A direction is not written with a digit at its end. -/
theorem Direction.running_ne_append_digits (d : Direction) (s : String) (i : Nat) :
    d.running ≠ s ++ toString i := by
  intro eq
  have last : (toString i).toList.getLast? = d.running.toList.getLast? := by
    have nonempty : (toString i).toList ≠ [] := by
      rw [Nat.toString_eq_repr, Nat.toList_repr]
      exact Nat.toDigits_ne_nil
    rw [eq, String.toList_append, List.getLast?_append_of_ne_nil _ nonempty]
  have digits : ∀ c ∈ (toString i).toList.getLast?, c.isDigit := by
    rw [Nat.toString_eq_repr, Nat.toList_repr]
    exact fun c mem => Nat.isDigit_of_mem_toDigits (by decide) (by decide)
      (List.mem_of_getLast? mem)
  have noDigit : d.running.toList.getLast?.any (fun c => !c.isDigit) = true := by
    cases d <;> decide
  obtain ⟨c, mem, noDigit⟩ := (Option.any_eq_true _ _).mp noDigit
  rw [digits c (last ▸ mem)] at noDigit
  cases noDigit

/-- Digits behind a word make a word. -/
theorem Text.IsWord.append_digits {s : String} (h : IsWord s) (i : Nat) :
    IsWord (s ++ toString i) := by
  have digit : ∀ c : Char, c.isDigit → isWordChar c := by
    intro c isDigit
    simp only [Char.isDigit, Bool.and_eq_true, decide_eq_true_eq] at isDigit
    refine isWordChar_of_isNameChar ?_
    simp only [isNameChar, Bool.or_eq_true, Bool.and_eq_true, decide_eq_true_eq]
    exact .inr isDigit
  constructor
  · rw [String.toList_append]
    exact List.append_ne_nil_of_left_ne_nil h.nonempty _
  · rw [String.toList_append, Nat.toString_eq_repr, Nat.toList_repr]
    refine List.forall_mem_append.mpr ⟨h.chars, fun c mem => digit c ?_⟩
    exact Nat.isDigit_of_mem_toDigits (by decide) (by decide) mem

/-! ### Stems and names -/

namespace Wording

/-- The wording is an identifier, whichever way it is given. -/
def IsStem (w : Wording) : Prop :=
  w.IsText ∧ ∃ n : Name, Text.isIdentifier n.word ∧ w.written = .ok n.running ∧
    w.word? = some n.word

theorem isStem_ofName {n : Name} (h : Text.isIdentifier n.word) : (ofName n).IsStem := by
  refine ⟨isText_ofName n, n, h, ?_, ?_⟩ <;> cases n <;> rfl

/-- A value that is an identifier stands for one. -/
theorem isStem_ofValue (view : ObjectView) {v : Value} {n : Name} (isName : v.name? = some n)
    (h : Text.isIdentifier n.word) : (ofValue view v).IsStem := by
  refine ⟨isText_ofValue view (by simp [Value.text?, isName]), n, h, ?_⟩
  cases v with
  | object _ => cases isName
  | atom a mark =>
    cases a <;> cases isName
    · exact ⟨rfl, rfl⟩
    · exact ⟨rfl, rfl⟩

/-- The wording is made of an identifier: it is the identifier alone, which only the very first name
can be, or there are the digits of a number behind it. -/
inductive IsFormed (bareFirst : Bool) : Wording → Prop where
  | alone {w : Wording} : bareFirst = true → w.IsStem → IsFormed bareFirst w
  | numbered {n : Name} (index : Nat) : Text.isIdentifier n.word →
      IsFormed bareFirst (.text (n.running ++ toString index))

variable {bareFirst : Bool} {w w' : Wording}

/-- What is made of an identifier is a word. -/
theorem IsFormed.exists_isWord (h : w.IsFormed bareFirst) :
    ∃ s, w.written = .ok s ∧ Text.IsWord s := by
  cases h with
  | alone _ isStem =>
    obtain ⟨-, n, identifier, written, -⟩ := isStem
    exact ⟨n.running, written, n.isWord_running identifier⟩
  | @numbered n index identifier =>
    exact ⟨_, rfl, (n.isWord_running identifier).append_digits index⟩

/-- Identifiers with digits behind them are written on their own as in running text. Those without
are so unless they are directions. -/
theorem IsFormed.word?_of_written (h : w.IsFormed bareFirst) {s : String}
    (written : w.written = .ok s) :
    w.word? = some s ∨ ∃ d : Direction, s = d.running ∧ w.word? = some d.word := by
  cases h with
  | alone _ isStem =>
    obtain ⟨-, n, -, written', word⟩ := isStem
    obtain rfl : n.running = s := Except.ok.inj (written'.symm.trans written)
    cases n with
    | text s => exact .inl word
    | direction d => exact .inr ⟨d, rfl, word⟩
  | numbered index _ =>
    cases written
    exact .inl rfl

/-- What is written like a direction is one. -/
theorem IsFormed.word?_of_direction (h : w.IsFormed bareFirst) {d : Direction}
    (written : w.written = .ok d.running) : w.word? = some d.word := by
  cases h with
  | alone _ isStem =>
    obtain ⟨-, n, identifier, written', word⟩ := isStem
    have eq : n.running = d.running := Except.ok.inj (written'.symm.trans written)
    cases n with
    | text s => exact absurd eq.symm (d.running_ne_of_isIdentifier identifier)
    | direction d' =>
      rw [word]
      cases d <;> cases d' <;> first | rfl | exact absurd eq (by decide)
  | numbered index _ =>
    exact absurd (Except.ok.inj written).symm (d.running_ne_append_digits _ index)

/-- What is spelt alike in running text is so on its own. -/
theorem IsFormed.word?_eq (h : w.IsFormed bareFirst) (h' : w'.IsFormed bareFirst) {s : String}
    (written : w.written = .ok s) (written' : w'.written = .ok s) : w.word? = w'.word? := by
  rcases h.word?_of_written written with word | ⟨d, rfl, word⟩
  · rcases h'.word?_of_written written' with word' | ⟨d, rfl, word'⟩
    · rw [word, word']
    · rw [h.word?_of_direction written, word']
  · rw [word, h'.word?_of_direction written']

end Wording

/-- Where no field is given the stems are identifiers. -/
theorem Settings.defaults_stems (kind : Kind) :
    ∃ m, ((defaults.naming [] none none).stems kind).name? = some m ∧
      Text.isIdentifier m.word := by
  cases kind <;> exact ⟨_, rfl, by decide⟩

/-! ### Environments -/

/-- The stem that is suggested for an instance, if one is, is an identifier. -/
def Ask.Identifies (a : Ask) : Prop :=
  ∀ n, (match a with
    | .label r => r.stem
    | .key p => p.stem) = some n → Text.isIdentifier n.word

namespace Environment

/-- All stems are identifiers, and all names are made of identifiers. -/
structure Spells (e : Environment) : Prop where
  stems : ∀ kind, (e.stems kind).IsStem
  names : ∀ a ∈ e.allocations, a.name.IsFormed e.bareFirst

variable {e : Environment}

/-- A name that is made of an identifier is formed. -/
theorem Makes.isFormed {stem name : Wording} {index : Nat} (h : e.Makes stem index name)
    (isStem : stem.IsStem) : name.IsFormed e.bareFirst := by
  cases h with
  | bare _ bareFirst => exact .alone bareFirst isStem
  | @numbered s _ written alone counter_le _ _ =>
    obtain ⟨isText, n, identifier, written', word⟩ := isStem
    obtain rfl : n.running = s := Except.ok.inj (written'.symm.trans written)
    unfold numberedName
    split
    · rename_i first
      have counter : e.counter = 0 := by omega
      rw [← alone counter first.2]
      exact .alone first.2 ⟨isText, n, identifier, written', word⟩
    · exact .numbered index identifier

namespace Spells

/-- The stem of an instance is an identifier. -/
theorem stem (h : e.Spells) {a : Ask} (identifies : a.Identifies) : (a.stem e).IsStem := by
  have either : ∀ (suggested : Option Name) kind,
      (∀ n, suggested = some n → Text.isIdentifier n.word) →
        (e.stemFor suggested kind).IsStem := by
    intro suggested kind identifies
    cases suggested with
    | none => exact h.stems kind
    | some n => exact Wording.isStem_ofName (identifies n rfl)
  cases a with
  | label r => exact either r.stem r.kind identifies
  | key p => exact either p.stem .param identifies

/-- A question is answered with a name that is made of an identifier, and all names still are. -/
theorem put (h : e.Spells) {a : Ask} (identifies : a.Identifies) :
    (a.put e).env.Spells ∧
      ∃ name, (a.put e).answer = .ok name ∧ name.IsFormed e.bareFirst := by
  have isStem := h.stem identifies
  rw [Ask.put_eq_nameFor]
  unfold nameFor
  split
  · rename_i name found
    obtain ⟨x, x_found, rfl⟩ := Option.map_eq_some_iff.mp found
    exact ⟨h, x.name, rfl, h.names x (List.mem_of_find?_eq_some x_found)⟩
  · cases allocate_allocates e a.role a.id (a.stem e) a.param? with
    | @named index name makes env answer =>
      have formed := makes.isFormed isStem
      rw [env]
      refine ⟨⟨h.stems, fun x mem => ?_⟩, name, answer, formed⟩
      rcases List.mem_append.mp mem with mem | mem
      · exact h.names x mem
      · rw [List.mem_singleton.mp mem]
        exact formed
    | failed noText _ _ => exact absurd isStem.1 noText

theorem after (h : e.Spells) {asks : List Ask} (identify : ∀ a ∈ asks, a.Identifies) :
    (e.after asks).Spells := by
  induction asks generalizing e with
  | nil => exact h
  | cons a rest ih =>
    obtain ⟨first, others⟩ := List.forall_mem_cons.mp identify
    exact ih (h.put first).1 others

end Spells

/-- Where the stems that names are formed with are identifiers, they are so in a new environment. -/
theorem spells_blank {n : Naming}
    (identify : ∀ kind, ∃ m, (n.stems kind).name? = some m ∧ Text.isIdentifier m.word)
    (view : ObjectView) (mark : Nat) : (n.environment view (.blank mark)).Spells := by
  refine ⟨fun kind => ?_, fun _ mem => absurd mem List.not_mem_nil⟩
  obtain ⟨m, isName, identifier⟩ := identify kind
  exact Wording.isStem_ofValue view isName identifier

/-! ### Spellings -/

/-- How the answer to a question is spelt in running text. -/
def spelling (e : Environment) (a : Ask) : String :=
  ((a.put e).answer.toOption.bind fun name => name.written.toOption).getD ""

namespace Spells

/-- The answer to a question has a spelling. -/
theorem exists_answer (h : e.Spells) {a : Ask} (identifies : a.Identifies) :
    ∃ name, (a.put e).answer = .ok name ∧ name.IsFormed e.bareFirst ∧
      name.written = .ok (e.spelling a) := by
  obtain ⟨-, name, answer, formed⟩ := h.put identifies
  obtain ⟨s, written, -⟩ := formed.exists_isWord
  refine ⟨name, answer, formed, ?_⟩
  simp [spelling, answer, written, Except.toOption]

/-- The answer to a question is spelt as a word. -/
theorem isWord_spelling (h : e.Spells) {a : Ask} (identifies : a.Identifies) :
    Text.IsWord (e.spelling a) := by
  obtain ⟨name, -, formed, written⟩ := h.exists_answer identifies
  obtain ⟨s, written', isWord⟩ := formed.exists_isWord
  obtain rfl : s = e.spelling a := Except.ok.inj (written'.symm.trans written)
  exact isWord

/-- Instances that have been asked about are the same if they are spelt alike. -/
theorem spelling_inj (h : e.Spells) {seen : List Ask} (accounts : e.Accounts seen) {a b : Ask}
    (identifies : a.Identifies) (identifies' : b.Identifies) (asked : ∃ c ∈ seen, c.Same a)
    (asked' : ∃ c ∈ seen, c.Same b) (eq : e.spelling a = e.spelling b) : a.Same b := by
  obtain ⟨x, x_mem, x_role, x_owner, x_put⟩ := accounts.put_of_asked asked
  obtain ⟨y, y_mem, y_role, y_owner, y_put⟩ := accounts.put_of_asked asked'
  obtain ⟨name, answer, formed, written⟩ := h.exists_answer identifies
  obtain ⟨name', answer', formed', written'⟩ := h.exists_answer identifies'
  rw [x_put] at answer
  rw [y_put] at answer'
  cases answer
  cases answer'
  rw [← eq] at written'
  have same := (accounts.word_eq_iff x_mem y_mem).mp (formed.word?_eq formed' written written')
  rw [x_role, y_role, x_owner, y_owner] at same
  exact same

end Spells

end Environment

end GraphQuery
