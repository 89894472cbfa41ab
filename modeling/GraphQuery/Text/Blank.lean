import GraphQuery.Text.CharSet

/-!
White space: the characters that separate words in any script, together with the control
characters that separate lines and records. Words are what stands between them.
-/

namespace GraphQuery.Text

/-- Tabulation to carriage return, the four separators and the space, the next line, and every
character of the space, line and paragraph separator categories. -/
def blanks : CharSet :=
  [(0x9, 0xD), (0x1C, 0x20), (0x85, 0x85), (0xA0, 0xA0), (0x1680, 0x1680), (0x2000, 0x200A),
   (0x2028, 0x2029), (0x202F, 0x202F), (0x205F, 0x205F), (0x3000, 0x3000)]

/-- The text is white space throughout, and not empty. -/
def isBlank (s : String) : Bool :=
  blanks.covers s

/-- The characters without the white space around them. -/
def stripped (cs : List Char) : List Char :=
  ((cs.dropWhile blanks.holds).reverse.dropWhile blanks.holds).reverse

/-- The words of a text: its longest runs of characters that are no white space. `word` is what has
been read of the present one, the last character first. -/
def wordsFrom (word : List Char) : List Char → List (List Char)
  | [] => if word.isEmpty then [] else [word.reverse]
  | c :: cs =>
    if !blanks.holds c then wordsFrom (c :: word) cs
    else if word.isEmpty then wordsFrom [] cs
    else word.reverse :: wordsFrom [] cs

/-- The words of a text. -/
def words (cs : List Char) : List (List Char) := wordsFrom [] cs

/-- What counts as white space among the seven-bit characters counts as blank. -/
theorem blanks_holds_of_isWhitespace {c : Char} (h : c.isWhitespace) : blanks.holds c := by
  simp only [Char.isWhitespace, Bool.or_eq_true, decide_eq_true_eq] at h
  rcases h with (((rfl | rfl) | rfl) | rfl) <;> decide

end GraphQuery.Text
