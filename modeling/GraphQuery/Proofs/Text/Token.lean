import GraphQuery.Proofs.Text.Placeholder
import Mathlib.Data.List.Chain

/-!
The words, quoted names and marks of a text.

A reader goes through the text from left to right. What stands between backticks is one name, and
two backticks in it are one of its characters. Outside of backticks, characters that words are made
of are read together for as long as there are any, and every other character is a mark by itself.

* `Text.Token`: a word, a quoted name or a mark.
* `Text.Token.chars`: the characters it is written as.
* `Text.tokens`: the tokens of a text.
* `Text.Phrase`: tokens that cannot run into each other.
* `Text.Phrase.tokens_eq`: they are read back as they were written.
-/

namespace GraphQuery.Text

/-! ### Words -/

/-- A character of words: of an identifier, the point, or the line feed that is let pass behind an
identifier. -/
def isWordChar (c : Char) : Bool := isNameChar c || c == '.' || c == '\n'

/-- The text is a word. -/
structure IsWord (s : String) : Prop where
  nonempty : s.toList ≠ []
  chars : ∀ c ∈ s.toList, isWordChar c

instance (s : String) : Decidable (IsWord s) :=
  decidable_of_iff (s.toList ≠ [] ∧ s.toList.all isWordChar = true)
    ⟨fun h => ⟨h.1, List.all_eq_true.mp h.2⟩,
      fun h => ⟨h.nonempty, List.all_eq_true.mpr h.chars⟩⟩

theorem isWordChar_of_isNameChar {c : Char} (h : isNameChar c) : isWordChar c := by
  simp [isWordChar, h]

theorem isWordChar_backtick : isWordChar backtick = false := by decide

/-- A character of an identifier is one of names or a line feed. -/
theorem chars_of_isIdentifier {s : String} (h : isIdentifier s) :
    s.toList ≠ [] ∧ ∀ c ∈ s.toList, isNameChar c ∨ c = '\n' := by
  simp only [isIdentifier, Bool.or_eq_true, Bool.and_eq_true, beq_iff_eq] at h
  rcases h with plain | ⟨last, plain⟩
  · refine ⟨fun nil => ?_, fun c mem => .inl (all_of_isPlainName plain c mem)⟩
    rw [nil] at plain
    cases plain
  · obtain ⟨front, eq⟩ := List.getLast?_eq_some_iff.mp last
    rw [eq, List.dropLast_concat] at plain
    rw [eq]
    refine ⟨List.append_ne_nil_of_right_ne_nil _ (List.cons_ne_nil _ _), fun c mem => ?_⟩
    rcases List.mem_append.mp mem with mem | mem
    · exact .inl (all_of_isPlainName plain c mem)
    · exact .inr (List.mem_singleton.mp mem)

/-- An identifier is a word. -/
theorem isWord_of_isIdentifier {s : String} (h : isIdentifier s) : IsWord s := by
  obtain ⟨nonempty, chars⟩ := chars_of_isIdentifier h
  refine ⟨nonempty, fun c mem => ?_⟩
  rcases chars c mem with name | rfl
  · exact isWordChar_of_isNameChar name
  · decide

/-- There is no point in an identifier. -/
theorem point_not_mem_of_isIdentifier {s : String} (h : isIdentifier s) : '.' ∉ s.toList := by
  intro mem
  rcases (chars_of_isIdentifier h).2 _ mem with name | eq
  · revert name
    decide
  · revert eq
    decide

/-! ### Tokens -/

/-- A word, a quoted name or a mark. -/
inductive Token where
  | word (s : String)
  | quoted (s : String)
  | mark (c : Char)
  deriving DecidableEq

namespace Token

/-- The characters that a token is written as. -/
def chars : Token → List Char
  | word s => s.toList
  | quoted s => backtick :: s.toList.flatMap escapedChar ++ [backtick]
  | mark c => [c]

/-- The token is read as what it is: a word is one, and a mark cannot be taken for anything else. -/
def Fits : Token → Prop
  | word s => IsWord s
  | quoted _ => True
  | mark c => isWordChar c = false ∧ c ≠ backtick

instance (c : Char) : Decidable (mark c).Fits :=
  inferInstanceAs (Decidable (isWordChar c = false ∧ c ≠ backtick))

/-- The tokens do not run into each other. -/
def Apart : Token → Token → Prop
  | word _, word _ | quoted _, quoted _ => False
  | _, _ => True

end Token

/-- What is being read: a word with the characters so far, a quoted name with the characters so far,
or such a name behind a backtick that either ends it or is the first of two. -/
inductive Reading where
  | word (soFar : List Char)
  | inside (soFar : List Char)
  | closing (soFar : List Char)

/-- The word that has been read, if it has any characters, in front of tokens. -/
def flush (soFar : List Char) (rest : List Token) : List Token :=
  if soFar = [] then rest else .word (String.ofList soFar) :: rest

/-- The tokens of the rest of a text. -/
def tokensFrom : Reading → List Char → List Token
  | .word soFar, [] => flush soFar []
  | .word soFar, c :: cs =>
    if isWordChar c then tokensFrom (.word (soFar ++ [c])) cs
    else flush soFar
      (if c = backtick then tokensFrom (.inside []) cs else .mark c :: tokensFrom (.word []) cs)
  | .inside _, [] => []
  | .inside soFar, c :: cs =>
    if c = backtick then tokensFrom (.closing soFar) cs
    else tokensFrom (.inside (soFar ++ [c])) cs
  | .closing soFar, [] => [.quoted (String.ofList soFar)]
  | .closing soFar, c :: cs =>
    if c = backtick then tokensFrom (.inside (soFar ++ [c])) cs
    else .quoted (String.ofList soFar) ::
      if isWordChar c then tokensFrom (.word [c]) cs else .mark c :: tokensFrom (.word []) cs

/-- The tokens of a text. -/
def tokens (s : String) : List Token := tokensFrom (.word []) s.toList

/-! ### Reading what was written -/

/-- The characters of a word are read together. -/
theorem tokensFrom_word {cs : List Char} (chars : ∀ c ∈ cs, isWordChar c)
    (soFar rest : List Char) :
    tokensFrom (.word soFar) (cs ++ rest) = tokensFrom (.word (soFar ++ cs)) rest := by
  induction cs generalizing soFar with
  | nil => simp
  | cons c cs ih =>
    obtain ⟨first, others⟩ := List.forall_mem_cons.mp chars
    rw [List.cons_append, tokensFrom, if_pos first, ih others, List.append_assoc]
    rfl

/-- A word ends where a character is none of words. -/
theorem tokensFrom_flush {rest : List Char} (stops : ∀ c ∈ rest.head?, isWordChar c = false)
    (soFar : List Char) :
    tokensFrom (.word soFar) rest = flush soFar (tokensFrom (.word []) rest) := by
  cases rest with
  | nil => simp [tokensFrom, flush]
  | cons c cs =>
    have stops : ¬ isWordChar c = true := by simpa using stops c rfl
    simp only [tokensFrom, if_neg stops]
    simp [flush]

/-- The characters of a quoted name are read together, up to the backtick that ends it. -/
theorem tokensFrom_inside (cs soFar rest : List Char) :
    tokensFrom (.inside soFar) (cs.flatMap escapedChar ++ backtick :: rest) =
      tokensFrom (.closing (soFar ++ cs)) rest := by
  induction cs generalizing soFar with
  | nil => simp [tokensFrom]
  | cons c cs ih =>
    rw [List.flatMap_cons, List.append_assoc, List.append_cons soFar c cs, ← ih]
    unfold escapedChar
    split
    · rename_i isBacktick
      subst isBacktick
      simp [tokensFrom]
    · rename_i other
      simp [tokensFrom, other]

/-- A quoted name ends on a backtick that is not followed by another one. -/
theorem tokensFrom_closing {rest : List Char} (stops : ∀ c ∈ rest.head?, c ≠ backtick)
    (soFar : List Char) :
    tokensFrom (.closing soFar) rest =
      .quoted (String.ofList soFar) :: tokensFrom (.word []) rest := by
  cases rest with
  | nil => simp [tokensFrom, flush]
  | cons c cs =>
    have stops : c ≠ backtick := stops c rfl
    simp [tokensFrom, stops, flush]

/-- The characters that tokens are written as. -/
def print (ts : List Token) : List Char := ts.flatMap Token.chars

@[simp] theorem print_nil : print [] = [] := rfl

@[simp] theorem print_cons (t : Token) (ts : List Token) :
    print (t :: ts) = t.chars ++ print ts := List.flatMap_cons

@[simp] theorem print_append (ts us : List Token) : print (ts ++ us) = print ts ++ print us :=
  List.flatMap_append

/-- What a token that fits begins with. -/
theorem Token.Fits.exists_head {t : Token} (fits : t.Fits) (rest : List Char) :
    ∃ c cs, t.chars ++ rest = c :: cs ∧
      (isWordChar c = true ↔ ∃ s, t = word s) ∧ (c = backtick ↔ ∃ s, t = quoted s) := by
  cases t with
  | word s =>
    obtain ⟨nonempty, chars⟩ := fits
    obtain ⟨c, cs, eq⟩ := List.exists_cons_of_ne_nil nonempty
    have isWord : isWordChar c = true := chars c (eq ▸ List.mem_cons_self)
    refine ⟨c, cs ++ rest, by simp [Token.chars, eq], by simp [isWord], ?_⟩
    have noBacktick : c ≠ backtick := by
      rintro rfl
      simp [isWordChar_backtick] at isWord
    simp [noBacktick]
  | quoted s =>
    exact ⟨backtick, _, rfl, by simp [isWordChar_backtick], by simp⟩
  | mark c => exact ⟨c, rest, rfl, by simp [fits.1], by simp [fits.2]⟩

/-- Tokens that fit and do not run into each other are read back as they were written. -/
theorem tokensFrom_print {ts : List Token} (fit : ∀ t ∈ ts, t.Fits)
    (apart : ts.IsChain Token.Apart) : tokensFrom (.word []) (print ts) = ts := by
  induction ts with
  | nil => rfl
  | cons t ts ih =>
    obtain ⟨first, others⟩ := List.forall_mem_cons.mp fit
    have ih := ih others apart.tail
    have separate : ∀ u ∈ ts.head?, t.Apart u := fun u mem => apart.rel_head? mem
    -- What the rest begins with tells what the next token is.
    have next : ∀ c ∈ (print ts).head?,
        (isWordChar c = true → ∃ s, Token.word s ∈ ts.head?) ∧
        (c = backtick → ∃ s, Token.quoted s ∈ ts.head?) := by
      cases ts with
      | nil => exact fun c mem => by cases mem
      | cons u us =>
        obtain ⟨d, ds, eq, isWord, isQuoted⟩ :=
          (others u List.mem_cons_self).exists_head (print us)
        rw [print_cons, eq]
        rintro c ⟨⟩
        exact ⟨fun h => (isWord.mp h).imp fun s hs => congrArg some hs,
          fun h => (isQuoted.mp h).imp fun s hs => congrArg some hs⟩
    cases t with
    | word s =>
      have stops : ∀ c ∈ (print ts).head?, isWordChar c = false := by
        intro c mem
        refine Bool.eq_false_iff.mpr fun isWord => ?_
        obtain ⟨s', head⟩ := (next c mem).1 isWord
        exact separate _ head
      rw [print_cons, Token.chars, tokensFrom_word first.chars, tokensFrom_flush stops, ih]
      simp [flush, first.nonempty, String.ofList_toList]
    | quoted s =>
      have stops : ∀ c ∈ (print ts).head?, c ≠ backtick := by
        rintro c mem rfl
        obtain ⟨s', head⟩ := (next _ mem).2 rfl
        exact separate _ head
      simp only [print_cons, Token.chars, List.cons_append, List.append_assoc, List.nil_append,
        tokensFrom, isWordChar_backtick, tokensFrom_inside, tokensFrom_closing stops, ih]
      simp [flush, String.ofList_toList]
    | mark c =>
      simp [print_cons, Token.chars, tokensFrom, first.1, first.2, flush, ih]

/-! ### Tokens one after another -/

/-- Tokens that fit and do not run into each other. -/
structure Phrase (ts : List Token) : Prop where
  fits : ∀ t ∈ ts, t.Fits
  apart : ts.IsChain Token.Apart

/-- Tokens of a phrase that may stand behind any others: if there are any, the first one is a
mark. -/
structure Block (ts : List Token) : Prop extends Phrase ts where
  begins : ∀ t ∈ ts.head?, ∃ c, t = .mark c

variable {ts us : List Token}

theorem apart_mark_left (c : Char) (t : Token) : Token.Apart (.mark c) t := by
  cases t <;> trivial

theorem apart_mark_right (t : Token) (c : Char) : t.Apart (.mark c) := by
  cases t <;> trivial

theorem block_nil : Block [] :=
  ⟨⟨fun _ mem => absurd mem List.not_mem_nil, .nil⟩, fun _ mem => by cases mem⟩

/-- A block goes on with whatever has been written. -/
theorem Phrase.append (h : Phrase ts) (h' : Block us) : Phrase (ts ++ us) := by
  refine ⟨List.forall_mem_append.mpr ⟨h.fits, h'.fits⟩, h.apart.append h'.apart ?_⟩
  intro t _ u mem
  obtain ⟨c, rfl⟩ := h'.begins u mem
  exact apart_mark_right t c

theorem Phrase.cons {t : Token} (fits : t.Fits) (h : Block ts) : Phrase (t :: ts) :=
  Phrase.append ⟨List.forall_mem_singleton.mpr fits, .singleton t⟩ h

/-- Anything may stand behind a mark. -/
theorem Phrase.mark {c : Char} (h : Phrase ts) (fits : (Token.mark c).Fits := by decide) :
    Block (.mark c :: ts) :=
  ⟨⟨List.forall_mem_cons.mpr ⟨fits, h.fits⟩, h.apart.cons fun t _ => apart_mark_left c t⟩,
    fun _ mem => ⟨c, (Option.some.inj mem).symm⟩⟩

theorem Block.append (h : Block ts) (h' : Block us) : Block (ts ++ us) := by
  refine ⟨h.toPhrase.append h', fun t mem => ?_⟩
  cases ts with
  | nil => exact h'.begins t mem
  | cons u ts => exact h.begins t mem

theorem Block.flatMap {α : Type} {f : α → List Token} {as : List α}
    (h : ∀ a ∈ as, Block (f a)) : Block (as.flatMap f) := by
  induction as with
  | nil => exact block_nil
  | cons a as ih =>
    obtain ⟨first, others⟩ := List.forall_mem_cons.mp h
    exact first.append (ih others)

/-- A text that tokens are written as has these tokens. -/
theorem Phrase.tokens_eq (h : Phrase ts) : tokens (String.ofList (print ts)) = ts := by
  rw [tokens, String.toList_ofList]
  exact tokensFrom_print h.fits h.apart

end GraphQuery.Text

namespace GraphQuery

/-! ### Names of the library -/

/-- A direction is written as a word. -/
theorem Direction.isWord_running (d : Direction) : Text.IsWord d.running := by
  cases d <;> decide

/-- No direction is written like an identifier: there is a point in it. -/
theorem Direction.running_ne_of_isIdentifier {s : String} (h : Text.isIdentifier s)
    (d : Direction) : d.running ≠ s := by
  rintro rfl
  have point : '.' ∈ d.running.toList := by cases d <;> decide
  exact Text.point_not_mem_of_isIdentifier h point

/-- An identifier that is a name of the library is written as a word. -/
theorem Name.isWord_running {n : Name} (h : Text.isIdentifier n.word) : Text.IsWord n.running := by
  cases n with
  | text s => exact Text.isWord_of_isIdentifier h
  | direction d => exact d.isWord_running

end GraphQuery
