import GraphQuery.Proofs.Text.Token

/-!
The words and groups of a predicate.

Blanks put words apart. A parenthesis where no word has begun opens a group; one that stands right
behind a word opens a list of arguments, and up to the parenthesis that closes it everything is part
of that word. So is everything between backticks. What counts as a blank is left open.

* `Text.Lexeme`, `Text.lexemes`: the words of a text and the parentheses around groups.
* `Text.IsLevel`: a text that can stand in a list of arguments.
* `Text.IsAtomic`: a text that is one word.
-/

namespace GraphQuery.Text

/-- A word, or a parenthesis around a group. -/
inductive Lexeme where
  | word (s : String)
  | opens
  | closes
  deriving DecidableEq

section Reading

variable (blank : Char → Bool)

/-- The word that has been read, if there is one, in front of what comes next. -/
def ending (word : List Char) (rest : List Lexeme) : List Lexeme :=
  if word = [] then rest else .word (String.ofList word) :: rest

/-- The lexemes of the rest of a text, behind the beginning of a word. The depth is how many
parentheses are open in the word, and in a quoted name nothing but its backtick counts. -/
def lexemesFrom : (word : List Char) → (depth : Nat) → (quoted : Bool) → List Char → List Lexeme
  | word, _, _, [] => ending word []
  | word, depth, true, c :: cs => lexemesFrom (word ++ [c]) depth (c != backtick) cs
  | word, depth + 1, false, c :: cs =>
    let depth := if c = '(' then depth + 2 else if c = ')' then depth else depth + 1
    lexemesFrom (word ++ [c]) depth (c == backtick) cs
  | word, 0, false, c :: cs =>
    if blank c then ending word (lexemesFrom [] 0 false cs)
    else if c = ')' then ending word (.closes :: lexemesFrom [] 0 false cs)
    else if c = '(' then
      if word = [] then .opens :: lexemesFrom [] 0 false cs
      else lexemesFrom (word ++ [c]) 1 false cs
    else lexemesFrom (word ++ [c]) 0 (c == backtick) cs

/-- The lexemes of a text. -/
def lexemes (s : String) : List Lexeme := lexemesFrom blank [] 0 false s.toList

/-- What puts words apart is white space, and the space does. -/
structure Spaces : Prop where
  space : blank ' ' = true
  white : ∀ c, blank c = true → blanks.holds c = true

/-- The characters can stand in a list of arguments, which they leave where they met it. -/
def IsLevel (x : List Char) : Prop := ∀ word depth rest,
  lexemesFrom blank word (depth + 1) false (x ++ rest) =
    lexemesFrom blank (word ++ x) (depth + 1) false rest

/-- The characters go on with a word that has begun. -/
def GoesOn (x : List Char) : Prop := ∀ word rest, word ≠ [] →
  lexemesFrom blank word 0 false (x ++ rest) = lexemesFrom blank (word ++ x) 0 false rest

/-- The characters are a word. -/
structure IsAtomic (x : List Char) : Prop where
  nonempty : x ≠ []
  reads : ∀ rest, lexemesFrom blank [] 0 false (x ++ rest) = lexemesFrom blank x 0 false rest

/-- Nothing goes on with a word: there is a blank, a parenthesis that closes, or nothing at all. -/
def Stops (rest : List Char) : Prop := ∀ c ∈ rest.head?, blank c = true ∨ c = ')'

end Reading

/-- The character is no parenthesis and no backtick. -/
def isPlainChar (c : Char) : Bool := c != '(' && c != ')' && c != backtick

/-- There are no parentheses and no backticks in the text. -/
def isPlain (s : String) : Bool := s.toList.all isPlainChar

/-- The text has characters, none of which is a parenthesis, a backtick or white space. -/
def isSolid (s : String) : Bool :=
  !s.toList.isEmpty && s.toList.all fun c => isPlainChar c && !blanks.holds c

variable {blank : Char → Bool} {x y : List Char}

/-! ### Lists of arguments -/

theorem isLevel_nil : IsLevel blank [] := fun word depth rest => by simp

theorem IsLevel.append (h : IsLevel blank x) (h' : IsLevel blank y) : IsLevel blank (x ++ y) := by
  intro word depth rest
  rw [List.append_assoc, h, h', List.append_assoc]

theorem isLevel_char {c : Char} (plain : isPlainChar c) : IsLevel blank [c] := by
  intro word depth rest
  simp only [isPlainChar, Bool.and_eq_true, bne_iff_ne] at plain
  have noBacktick : (c == backtick) = false := beq_false_of_ne plain.2
  simp [lexemesFrom, plain.1, noBacktick]

/-- Texts without parentheses and backticks are level. -/
theorem isLevel_of_plain (plain : ∀ c ∈ x, isPlainChar c) : IsLevel blank x := by
  induction x with
  | nil => exact isLevel_nil
  | cons c cs ih =>
    obtain ⟨first, others⟩ := List.forall_mem_cons.mp plain
    exact (isLevel_char first).append (ih others)

theorem isLevel_of_isPlain {s : String} (plain : isPlain s) : IsLevel blank s.toList :=
  isLevel_of_plain (List.all_eq_true.mp plain)

theorem isPlain_append (s t : String) : isPlain (s ++ t) = (isPlain s && isPlain t) := by
  rw [isPlain, String.toList_append, List.all_append]
  rfl

/-- What is level is so in parentheses. -/
theorem IsLevel.group (h : IsLevel blank x) : IsLevel blank ('(' :: x ++ [')']) := by
  intro word depth rest
  have inner := h (word ++ ['(']) (depth + 1) (')' :: rest)
  simp [lexemesFrom, backtick, inner]

section Blanks

variable (spaces : Spaces blank)
include spaces

theorem not_blank {c : Char} (h : blanks.holds c = false) : blank c = false := by
  refine Bool.eq_false_iff.mpr fun isBlank => ?_
  rw [spaces.white c isBlank] at h
  cases h

/-- The rest of a quoted name is part of the word. -/
theorem lexemesFrom_quoted (s word : List Char) (depth : Nat) (rest : List Char) :
    lexemesFrom blank word depth true (s.flatMap escapedChar ++ backtick :: rest) =
      lexemesFrom blank (word ++ (s.flatMap escapedChar ++ [backtick])) depth false rest := by
  have noBlank := not_blank spaces (c := backtick) (by decide)
  induction s generalizing word with
  | nil => simp [lexemesFrom]
  | cons c cs ih =>
    rw [List.flatMap_cons, List.append_assoc, List.append_assoc, ← List.append_assoc word, ← ih]
    unfold escapedChar
    split
    · rename_i isBacktick
      subst isBacktick
      cases depth with
      | zero =>
        have open_ne : backtick ≠ '(' := by decide
        have close_ne : backtick ≠ ')' := by decide
        simp [lexemesFrom, noBlank, open_ne, close_ne]
      | succ depth => simp [lexemesFrom, backtick]
    · rename_i other
      have inside : (c != backtick) = true := bne_iff_ne.mpr other
      simp only [List.cons_append, List.nil_append, lexemesFrom, inside]

/-- A quoted name is level. -/
theorem isLevel_quoted (s : List Char) :
    IsLevel blank (backtick :: s.flatMap escapedChar ++ [backtick]) := by
  intro word depth rest
  have inner := lexemesFrom_quoted spaces s (word ++ [backtick]) (depth + 1) rest
  have open_ne : backtick ≠ '(' := by decide
  have close_ne : backtick ≠ ')' := by decide
  simp [lexemesFrom, open_ne, close_ne, inner]

end Blanks

/-! ### Characters of words -/

theorem isPlainChar_of_isWordChar {c : Char} (h : isWordChar c) : isPlainChar c := by
  simp only [isPlainChar, Bool.and_eq_true, bne_iff_ne]
  refine ⟨⟨?_, ?_⟩, ?_⟩
  all_goals
    rintro rfl
    revert h
    decide

/-- A character of words is no blank, unless it is a line feed. -/
theorem not_white_of_isWordChar {c : Char} (h : isWordChar c) (noFeed : c ≠ '\n') :
    blanks.holds c = false := by
  refine Bool.eq_false_iff.mpr fun white => ?_
  simp only [isWordChar, isNameChar_of_blank white, Bool.false_or, Bool.or_eq_true, beq_iff_eq,
    noFeed, or_false] at h
  subst h
  revert white
  decide

/-- A word is level. -/
theorem IsWord.isLevel {s : String} (h : IsWord s) : IsLevel blank s.toList :=
  isLevel_of_plain fun c mem => isPlainChar_of_isWordChar (h.chars c mem)

section Blanks

variable (spaces : Spaces blank)
include spaces

/-- A name as it stands in a query is level. -/
theorem isLevel_escaped (s : String) : IsLevel blank (escaped s).toList := by
  unfold escaped
  split
  · rename_i identifier
    exact (isWord_of_isIdentifier identifier).isLevel
  · rw [String.toList_ofList]
    exact isLevel_quoted spaces s.toList

end Blanks

/-! ### Words -/

theorem goesOn_nil : GoesOn blank [] := fun word rest _ => by simp

theorem GoesOn.append (h : GoesOn blank x) (h' : GoesOn blank y) : GoesOn blank (x ++ y) := by
  intro word rest begun
  rw [List.append_assoc, h _ _ begun, h' _ _ (List.append_ne_nil_of_left_ne_nil begun _),
    List.append_assoc]

/-- The character is plain and no blank. -/
def IsSolid (blank : Char → Bool) (c : Char) : Prop := isPlainChar c ∧ blank c = false

theorem goesOn_of_solid (solid : ∀ c ∈ x, IsSolid blank c) : GoesOn blank x := by
  induction x with
  | nil => exact goesOn_nil
  | cons c cs ih =>
    obtain ⟨⟨plain, noBlank⟩, others⟩ := List.forall_mem_cons.mp solid
    have single : GoesOn blank [c] := by
      intro word rest _
      simp only [isPlainChar, Bool.and_eq_true, bne_iff_ne] at plain
      have noBacktick : (c == backtick) = false := beq_false_of_ne plain.2
      simp [lexemesFrom, noBlank, plain.1, noBacktick]
    exact single.append (ih others)

/-- A list of arguments behind a word is part of it. -/
theorem IsLevel.goesOn_group (h : IsLevel blank x) (spaces : Spaces blank) :
    GoesOn blank ('(' :: x ++ [')']) := by
  intro word rest begun
  have noBlank := not_blank spaces (c := '(') (by decide)
  have inner := h (word ++ ['(']) 0 (')' :: rest)
  simp [lexemesFrom, begun, noBlank, backtick, inner]

/-- A quoted name behind a word is part of it. -/
theorem goesOn_quoted (spaces : Spaces blank) (s : List Char) :
    GoesOn blank (backtick :: s.flatMap escapedChar ++ [backtick]) := by
  intro word rest _
  have noBlank := not_blank spaces (c := backtick) (by decide)
  have inner := lexemesFrom_quoted spaces s (word ++ [backtick]) 0 rest
  have open_ne : backtick ≠ '(' := by decide
  have close_ne : backtick ≠ ')' := by decide
  simp [lexemesFrom, noBlank, open_ne, close_ne, inner]

/-- A character of words is solid, unless it is a line feed that is a blank. -/
theorem isSolid_of_isWordChar (spaces : Spaces blank) {c : Char} (h : isWordChar c)
    (feed : blank '\n' = true → c ≠ '\n') : IsSolid blank c := by
  refine ⟨isPlainChar_of_isWordChar h, ?_⟩
  by_cases isFeed : c = '\n'
  · subst isFeed
    exact Bool.eq_false_iff.mpr fun isBlank => feed isBlank rfl
  · exact not_blank spaces (not_white_of_isWordChar h isFeed)

/-- A name behind a word is part of it, unless it ends in a line feed that is a blank. -/
theorem goesOn_escaped (spaces : Spaces blank) (s : String)
    (feed : blank '\n' = true → s.toList.getLast? ≠ some '\n') :
    GoesOn blank (escaped s).toList := by
  unfold escaped
  split
  · rename_i identifier
    refine goesOn_of_solid fun c mem => ?_
    refine isSolid_of_isWordChar spaces ((isWord_of_isIdentifier identifier).chars c mem) ?_
    rintro isBlank rfl
    simp only [isIdentifier, Bool.or_eq_true, Bool.and_eq_true, beq_iff_eq] at identifier
    rcases identifier with plain | ⟨last, -⟩
    · have isName := all_of_isPlainName plain _ mem
      revert isName
      decide
    · exact feed isBlank last
  · rw [String.toList_ofList]
    exact goesOn_quoted spaces s.toList

/-- Solid characters are a word. -/
theorem isAtomic_of_solid (nonempty : x ≠ []) (solid : ∀ c ∈ x, IsSolid blank c) :
    IsAtomic blank x := by
  obtain ⟨c, cs, rfl⟩ := List.exists_cons_of_ne_nil nonempty
  obtain ⟨⟨plain, noBlank⟩, others⟩ := List.forall_mem_cons.mp solid
  refine ⟨nonempty, fun rest => ?_⟩
  simp only [isPlainChar, Bool.and_eq_true, bne_iff_ne] at plain
  have noBacktick : (c == backtick) = false := beq_false_of_ne plain.2
  have rest := goesOn_of_solid others [c] rest (List.cons_ne_nil _ _)
  simp [lexemesFrom, noBlank, plain.1, noBacktick, rest]

/-- A solid text is made of solid characters. -/
theorem isSolid_chars (spaces : Spaces blank) {s : String} (solid : isSolid s) :
    s.toList ≠ [] ∧ ∀ c ∈ s.toList, IsSolid blank c := by
  simp only [isSolid, Bool.and_eq_true, Bool.not_eq_true', List.isEmpty_eq_false_iff,
    List.all_eq_true] at solid
  exact ⟨solid.1, fun c mem => ⟨(solid.2 c mem).1, not_blank spaces (solid.2 c mem).2⟩⟩

/-- A solid text is a word. -/
theorem isAtomic_of_isSolid (spaces : Spaces blank) {s : String} (solid : isSolid s) :
    IsAtomic blank s.toList :=
  isAtomic_of_solid (isSolid_chars spaces solid).1 (isSolid_chars spaces solid).2

/-- A solid text behind a word is part of it. -/
theorem goesOn_of_isSolid (spaces : Spaces blank) {s : String} (solid : isSolid s) :
    GoesOn blank s.toList :=
  goesOn_of_solid (isSolid_chars spaces solid).2

/-- A word that goes on is one word. -/
theorem IsAtomic.append (h : IsAtomic blank x) (h' : GoesOn blank y) : IsAtomic blank (x ++ y) := by
  refine ⟨List.append_ne_nil_of_left_ne_nil h.nonempty _, fun rest => ?_⟩
  rw [List.append_assoc, h.reads, h' _ _ h.nonempty]

/-! ### Where words end -/

/-- A word ends where nothing goes on with it. -/
theorem lexemesFrom_ending {rest : List Char} (stops : Stops blank rest) (word : List Char) :
    lexemesFrom blank word 0 false rest = ending word (lexemesFrom blank [] 0 false rest) := by
  cases rest with
  | nil => simp [lexemesFrom, ending]
  | cons c cs =>
    by_cases isBlank : blank c
    · simp [lexemesFrom, isBlank, ending]
    · have closing : c = ')' := (stops c rfl).resolve_left isBlank
      subst closing
      simp [lexemesFrom, isBlank, ending]

/-- A word is read. -/
theorem IsAtomic.lexemesFrom {rest : List Char} (h : IsAtomic blank x) (stops : Stops blank rest) :
    lexemesFrom blank [] 0 false (x ++ rest) =
      .word (String.ofList x) :: Text.lexemesFrom blank [] 0 false rest := by
  rw [h.reads, lexemesFrom_ending stops, ending, if_neg h.nonempty]

theorem stops_nil : Stops blank [] := fun _ mem => by cases mem

theorem stops_close (rest : List Char) : Stops blank (')' :: rest) := by
  rintro _ ⟨⟩
  exact .inr rfl

section Blanks

variable (spaces : Spaces blank)
include spaces

theorem stops_space (rest : List Char) : Stops blank (' ' :: rest) := by
  rintro _ ⟨⟩
  exact .inl spaces.space

/-- A space is passed over. -/
theorem lexemesFrom_space (rest : List Char) :
    lexemesFrom blank [] 0 false (' ' :: rest) = lexemesFrom blank [] 0 false rest := by
  simp [lexemesFrom, spaces.space, ending]

/-- A group is opened. -/
theorem lexemesFrom_open (rest : List Char) :
    lexemesFrom blank [] 0 false ('(' :: rest) = .opens :: lexemesFrom blank [] 0 false rest := by
  simp [lexemesFrom, not_blank spaces (c := '(') (by decide)]

/-- A group is closed. -/
theorem lexemesFrom_close (rest : List Char) :
    lexemesFrom blank [] 0 false (')' :: rest) = .closes :: lexemesFrom blank [] 0 false rest := by
  simp [lexemesFrom, not_blank spaces (c := ')') (by decide), ending]

end Blanks

end GraphQuery.Text
