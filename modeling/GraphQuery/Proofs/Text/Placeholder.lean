import GraphQuery.Environment
import GraphQuery.Text.Blank

/-!
The names of parameters in the text of a query.

A reader goes through the text from left to right. Whatever stands between backticks is passed over;
outside of them, the name behind the sign `$` is that of a parameter. A name goes on as far as it
can, so it has to be followed by something that is no part of a name.

* `Text.placeholders`: the names that are met.
* `Text.IsQuiet`: a text that begins and ends outside of backticks and has no such sign there.
  Labels, types and property names are quiet as they stand in a query, whatever is in them.
* `Text.Delimits`: what a text begins with ends a name in front of it.
* `Text.namesFrom_append`, `Text.namesFrom_sign`: reading a quiet text, and reading a name.
-/

namespace GraphQuery.Text

/-- The names of parameters in the rest of a text, read inside backticks or outside of them. -/
def namesFrom : Bool → List Char → List String
  | _, [] => []
  | inside, c :: cs =>
    if c = backtick then namesFrom (!inside) cs
    else if c = '$' ∧ inside = false then
      String.ofList (cs.takeWhile isNameChar) :: namesFrom inside cs
    else namesFrom inside cs

/-- The names of parameters in a text. -/
def placeholders (s : String) : List String := namesFrom false s.toList

/-! ### Quiet texts -/

/-- Reading goes on to the outside of backticks and meets no sign of a parameter there. -/
def isQuietFrom : Bool → List Char → Bool
  | inside, [] => !inside
  | inside, c :: cs =>
    if c = backtick then isQuietFrom (!inside) cs
    else (inside || c != '$') && isQuietFrom inside cs

/-- The text begins and ends outside of backticks and has no sign of a parameter there. -/
def IsQuiet (s : String) : Prop := isQuietFrom false s.toList

instance (s : String) : Decidable (IsQuiet s) := inferInstanceAs (Decidable (_ = true))

/-- Nothing is met in quiet characters. -/
theorem namesFrom_append {inside : Bool} {cs : List Char} (quiet : isQuietFrom inside cs)
    (rest : List Char) : namesFrom inside (cs ++ rest) = namesFrom false rest := by
  induction cs generalizing inside with
  | nil =>
    cases inside with
    | false => rfl
    | true => cases quiet
  | cons c cs ih =>
    unfold isQuietFrom at quiet
    rw [List.cons_append, namesFrom]
    split
    · rename_i eq
      rw [if_pos eq] at quiet
      exact ih quiet
    · rename_i ne
      rw [if_neg ne, Bool.and_eq_true] at quiet
      have noSign : ¬ (c = '$' ∧ inside = false) := by
        rintro ⟨rfl, rfl⟩
        simp at quiet
      rw [if_neg noSign]
      exact ih quiet.2

/-- Quiet characters after others are quiet. -/
theorem isQuietFrom_append {inside : Bool} {cs ds : List Char} (quiet : isQuietFrom inside cs)
    (quiet' : isQuietFrom false ds) : isQuietFrom inside (cs ++ ds) := by
  induction cs generalizing inside with
  | nil =>
    cases inside with
    | false => exact quiet'
    | true => cases quiet
  | cons c cs ih =>
    unfold isQuietFrom at quiet
    rw [List.cons_append]
    unfold isQuietFrom
    split
    · rename_i eq
      rw [if_pos eq] at quiet
      exact ih quiet
    · rename_i ne
      rw [if_neg ne, Bool.and_eq_true] at quiet
      rw [quiet.1, Bool.true_and]
      exact ih quiet.2

theorem IsQuiet.append {s t : String} (h : IsQuiet s) (h' : IsQuiet t) : IsQuiet (s ++ t) := by
  unfold IsQuiet
  rw [String.toList_append]
  exact isQuietFrom_append h h'

/-- Texts that are quiet one by one are so together. -/
theorem isQuiet_join {texts : List String} (h : ∀ s ∈ texts, IsQuiet s) :
    IsQuiet (String.join texts) := by
  induction texts with
  | nil => decide
  | cons s texts ih =>
    rw [String.join_cons]
    exact (h s List.mem_cons_self).append (ih fun t mem => h t (List.mem_cons_of_mem s mem))

/-- Characters without backticks and signs are quiet. -/
theorem isQuietFrom_of_forall {cs : List Char} (h : ∀ c ∈ cs, c ≠ backtick ∧ c ≠ '$') :
    isQuietFrom false cs := by
  induction cs with
  | nil => rfl
  | cons c cs ih =>
    obtain ⟨noQuote, noSign⟩ := h c List.mem_cons_self
    unfold isQuietFrom
    rw [if_neg noQuote, Bool.false_or, Bool.and_eq_true, bne_iff_ne]
    exact ⟨noSign, ih fun d mem => h d (List.mem_cons_of_mem c mem)⟩

/-- The characters of names are neither backticks nor signs. -/
theorem ne_of_isNameChar {c : Char} (h : isNameChar c) : c ≠ backtick ∧ c ≠ '$' := by
  constructor <;> rintro rfl <;> revert h <;> decide

/-- White space is no part of a name. -/
theorem isNameChar_of_blank {c : Char} (h : blanks.holds c) : isNameChar c = false := by
  rw [Bool.eq_false_iff]
  intro name
  have bounds : 48 ≤ c.toNat ∧ c.toNat ≤ 122 := by
    simp only [isNameChar, isNameStart, Bool.or_eq_true, Bool.and_eq_true, decide_eq_true_eq,
      beq_iff_eq] at name
    rcases name with ((⟨low, high⟩ | ⟨low, high⟩) | rfl) | ⟨low, high⟩
    · exact ⟨Nat.le_trans (by decide) low, Nat.le_trans high (by decide)⟩
    · exact ⟨Nat.le_trans (by decide) low, Nat.le_trans high (by decide)⟩
    · decide
    · exact ⟨Nat.le_trans (by decide) low, Nat.le_trans high (by decide)⟩
  simp only [CharSet.holds, blanks, List.any_cons, List.any_nil, Bool.or_eq_true,
    Bool.and_eq_true, decide_eq_true_eq, Bool.false_eq_true, or_false] at h
  omega

/-- White space is neither a backtick nor a sign. -/
theorem ne_of_blank {c : Char} (h : blanks.holds c) : c ≠ backtick ∧ c ≠ '$' := by
  constructor <;> rintro rfl <;> revert h <;> decide

/-! ### Names in quotes -/

/-- Whatever stands between backticks, it is quiet together with the closing one. -/
theorem isQuietFrom_escaped (cs : List Char) :
    isQuietFrom true (cs.flatMap escapedChar ++ [backtick]) := by
  induction cs with
  | nil => decide
  | cons c cs ih =>
    rw [List.flatMap_cons, List.append_assoc]
    unfold escapedChar
    split
    · rw [List.cons_append, List.cons_append, isQuietFrom, if_pos rfl, isQuietFrom, if_pos rfl]
      exact ih
    · rename_i ne
      rw [List.cons_append, isQuietFrom, if_neg ne, Bool.true_or, Bool.true_and]
      exact ih

/-- The characters of a plain name. -/
theorem all_of_isPlainName {cs : List Char} (h : isPlainName cs) : ∀ c ∈ cs, isNameChar c := by
  cases cs with
  | nil => cases h
  | cons c cs =>
    simp only [isPlainName, Bool.and_eq_true, List.all_eq_true] at h
    intro d mem
    rcases List.mem_cons.mp mem with rfl | mem
    · simp [isNameChar, h.1]
    · exact h.2 d mem

/-- A plain name is quiet. -/
theorem isQuietFrom_of_isPlainName {cs : List Char} (h : isPlainName cs) : isQuietFrom false cs :=
  isQuietFrom_of_forall fun c mem => ne_of_isNameChar (all_of_isPlainName h c mem)

/-- An identifier is quiet, with a line feed after it or without. -/
theorem isQuiet_of_isIdentifier {s : String} (h : isIdentifier s) : IsQuiet s := by
  unfold isIdentifier at h
  rw [Bool.or_eq_true, Bool.and_eq_true, beq_iff_eq] at h
  rcases h with plain | ⟨last, plain⟩
  · exact isQuietFrom_of_isPlainName plain
  · obtain ⟨front, eq⟩ := List.getLast?_eq_some_iff.mp last
    unfold IsQuiet
    rw [eq, List.dropLast_concat] at plain
    rw [eq]
    exact isQuietFrom_append (isQuietFrom_of_isPlainName plain) (by decide)

/-- A label, type or property name is quiet as it stands in a query. -/
theorem isQuiet_escaped (s : String) : IsQuiet (escaped s) := by
  unfold escaped
  split
  · exact isQuiet_of_isIdentifier (by assumption)
  · unfold IsQuiet
    rw [String.toList_ofList, List.cons_append, isQuietFrom, if_pos rfl]
    exact isQuietFrom_escaped s.toList

/-- The stem with a number behind it is a plain name if the stem is. -/
theorem isPlainName_numberedName {stem : String} (h : isPlainName stem.toList) (bareFirst : Bool)
    (index : Nat) : isPlainName (numberedName stem bareFirst index).toList := by
  have digit : ∀ c : Char, c.isDigit → isNameChar c := by
    intro c isDigit
    simp only [Char.isDigit, Bool.and_eq_true, decide_eq_true_eq] at isDigit
    simp only [isNameChar, Bool.or_eq_true, Bool.and_eq_true, decide_eq_true_eq]
    exact .inr isDigit
  unfold numberedName
  split
  · exact h
  · rw [String.toList_append]
    cases chars : stem.toList with
    | nil =>
      rw [chars] at h
      cases h
    | cons c cs =>
      rw [chars] at h
      simp only [isPlainName, Bool.and_eq_true, List.cons_append, List.all_append] at h ⊢
      refine ⟨h.1, h.2, ?_⟩
      rw [List.all_eq_true, Nat.toString_eq_repr, Nat.toList_repr]
      exact fun d mem => digit d (Nat.isDigit_of_mem_toDigits (by decide) (by decide) mem)

/-! ### Names behind a sign -/

/-- The characters do not go on with a name in front of them. -/
def Delimits : List Char → Prop
  | [] => True
  | c :: _ => isNameChar c = false

/-- Behind a sign, a name that is delimited is met as a whole. -/
theorem namesFrom_sign {name rest : List Char} (chars : ∀ c ∈ name, isNameChar c)
    (delimits : Delimits rest) :
    namesFrom false ('$' :: name ++ rest) = String.ofList name :: namesFrom false rest := by
  have taken : (name ++ rest).takeWhile isNameChar = name := by
    rw [List.takeWhile_append_of_pos chars]
    cases rest with
    | nil => simp
    | cons c cs =>
      have stops : isNameChar c = false := delimits
      simp [stops]
  have quiet := isQuietFrom_of_forall fun c mem => ne_of_isNameChar (chars c mem)
  rw [List.cons_append, namesFrom, if_neg (by decide), if_pos ⟨rfl, rfl⟩, taken,
    namesFrom_append quiet]

/-! ### Texts one after another -/

/-- Nothing is met in a quiet text. -/
theorem placeholders_append {s : String} (quiet : IsQuiet s) (t : String) :
    placeholders (s ++ t) = placeholders t := by
  unfold placeholders
  rw [String.toList_append]
  exact namesFrom_append quiet _

/-- A plain name behind a sign is met, if what follows delimits it. -/
theorem placeholders_sign {name : String} (plain : isPlainName name.toList) {t : String}
    (delimits : Delimits t.toList) :
    placeholders ("$" ++ name ++ t) = name :: placeholders t := by
  unfold placeholders
  rw [String.toList_append, String.toList_append]
  refine (namesFrom_sign (all_of_isPlainName plain) delimits).trans ?_
  rw [String.ofList_toList]

/-- The text begins with something that is no part of a name. -/
def parts (s : String) : Bool := s.toList.head?.any fun c => !isNameChar c

theorem parts_append {s : String} (h : parts s) (t : String) : parts (s ++ t) := by
  unfold parts at h ⊢
  rw [String.toList_append]
  cases chars : s.toList with
  | nil => simp [chars] at h
  | cons c cs => simpa [chars] using h

/-- A text that begins so delimits a name in front of it. -/
theorem delimits_of_parts {s : String} (h : parts s) : Delimits s.toList := by
  unfold parts at h
  cases chars : s.toList with
  | nil => trivial
  | cons c cs => simpa [chars, Delimits] using h

/-- White space is quiet. -/
theorem isQuiet_of_isBlank {s : String} (h : isBlank s) : IsQuiet s := by
  simp only [isBlank, CharSet.covers, Bool.and_eq_true, List.all_eq_true] at h
  exact isQuietFrom_of_forall fun c mem => ne_of_blank (h.2 c mem)

/-- White space begins with something that is no part of a name. -/
theorem parts_of_isBlank {s : String} (h : isBlank s) : parts s := by
  simp only [isBlank, CharSet.covers, Bool.and_eq_true, List.all_eq_true] at h
  unfold parts
  cases chars : s.toList with
  | nil => simp_all
  | cons c cs =>
    have first := isNameChar_of_blank (h.2 c (by rw [chars]; exact List.mem_cons_self))
    simp [first]

end GraphQuery.Text
