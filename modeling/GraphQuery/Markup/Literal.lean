import GraphQuery.Markup.Colour

/-!
Literals: the values that a tag can hand to the action that it names.

A literal is a number, a sum of a real and an imaginary number, a text or byte string, a word for a
value there is one of, or a collection of literals in parentheses, brackets or braces. Here it is
only found out whether a text is one; what it stands for means nothing to console text.

* `Literal.holds`: the characters are a literal, or several with commas between them.
-/

namespace GraphQuery.Markup

/-- What is asked of a literal where it stands inside another one. -/
inductive Literal where
  | real (signed : Bool)
  | imaginary (signed : Bool)
  /-- Another value, which can be a key. -/
  | fixed
  /-- A value that can change, or that holds one; it cannot be a key. -/
  | changing
  deriving DecidableEq, Repr

namespace Literal

/-- The literal can be a key. -/
def isKey (l : Literal) : Bool := l ≠ changing

/-- A literal that holds others. -/
def holding (items : List Literal) : Literal := if items.all isKey then fixed else changing

/-- A number with a sign in front, which it must not have yet. -/
def withSign : Literal → Option Literal
  | real false => some (real true)
  | imaginary false => some (imaginary true)
  | _ => none

/-! ### Blanks -/

/-- The character ends a line. -/
def endsLine (c : Char) : Bool := c == '\n' || c == '\r'

/-- What follows blanks and remarks. Lines end only inside a collection. -/
def skip (nested remark : Bool) : List Char → List Char
  | [] => []
  | c :: cs =>
    if endsLine c && nested then skip nested false cs
    else if remark && !endsLine c then skip nested true cs
    else if c == ' ' || c == '\t' || c == '\x0c' then skip nested false cs
    else if c == '#' then skip nested true cs
    else c :: cs

/-! ### Numbers -/

/-- A character that can stand in a word. -/
def isWordChar (c : Char) : Bool := c.isAlphanum || c == '_' || 0x80 ≤ c.toNat

/-- The characters are digits, with single underscores between them. -/
def areDigits (isDigit : Char → Bool) : List Char → Bool
  | [] => false
  | [c] => isDigit c
  | c :: '_' :: cs => isDigit c && areDigits isDigit cs
  | c :: cs => isDigit c && areDigits isDigit cs

/-- Digits and underscores in front, and what follows them. -/
def digitRun (cs : List Char) : List Char × List Char :=
  let isPart := fun c : Char => c.isDigit || c == '_'
  (cs.takeWhile isPart, cs.dropWhile isPart)

/-- The digits of a base other than ten, by the letter that stands for it. -/
def baseDigit? (letter : Char) : Option (Char → Bool) :=
  match letter.toLower with
  | 'x' => some fun c => Colour.isHexDigit c.toLower
  | 'o' => some fun c => '0' ≤ c && c ≤ '7'
  | 'b' => some fun c => c == '0' || c == '1'
  | _ => none

/-- A whole number in a base other than ten, behind the nought and the letter. -/
def ofBase (isDigit : Char → Bool) (cs : List Char) : Option (Literal × List Char) :=
  let digits := cs.takeWhile isWordChar
  let digits := if digits.head? == some '_' then digits.tail else digits
  if areDigits isDigit digits then some (real false, cs.dropWhile isWordChar) else none

/-- The places of a number behind its point, and what follows them. -/
def places (cs : List Char) : Option (List Char × List Char) :=
  match cs with
  | '.' :: cs =>
    let (digits, rest) := digitRun cs
    if digits.isEmpty || areDigits Char.isDigit digits then some ('.' :: digits, rest) else none
  | cs => some ([], cs)

/-- The power of ten of a number, and what follows it. -/
def power (cs : List Char) : Option (List Char × List Char) :=
  match cs with
  | e :: cs =>
    if e.toLower == 'e' then
      let cs := if cs.head? == some '-' || cs.head? == some '+' then cs.tail else cs
      let (digits, rest) := digitRun cs
      if areDigits Char.isDigit digits then some (digits, rest) else none
    else some ([], e :: cs)
  | [] => some ([], [])

/-- The digits of a whole number do not begin with a nought, unless they are all noughts. -/
def isPlainWhole (digits : List Char) : Bool :=
  digits.head? != some '0' || digits.all fun c => c == '0' || c == '_'

/-- A number in base ten. -/
def ofTen (cs : List Char) : Option (Literal × List Char) := do
  let (whole, rest) := digitRun cs
  if !whole.isEmpty && !areDigits Char.isDigit whole then failure
  let (places, rest) ← places rest
  if whole.isEmpty && places.length < 2 then failure
  let (power, rest) ← power rest
  match rest with
  | j :: rest =>
    if j.toLower == 'j' then return (imaginary false, rest)
    if places.isEmpty && power.isEmpty && !isPlainWhole whole then failure
    return (real false, j :: rest)
  | [] =>
    if places.isEmpty && power.isEmpty && !isPlainWhole whole then failure
    return (real false, [])

/-- A number, which no word may follow directly. -/
def number (cs : List Char) : Option (Literal × List Char) := do
  let (l, rest) ← match cs with
    | '0' :: letter :: rest => (baseDigit? letter).elim (ofTen cs) (ofBase · rest)
    | cs => ofTen cs
  if rest.head?.any isWordChar then failure
  return (l, rest)

/-! ### Texts -/

/-- How a text is quoted: its quote, whether that is written three times, whether backslashes stand
for themselves, and whether the text is a byte string. -/
structure Quotation where
  quote : Char
  triple : Bool
  raw : Bool
  bytes : Bool

/-- The letters in front of a quote, in small ones, that say how it is meant: whether backslashes
stand for themselves, and whether it is a byte string. -/
def quotationMarks : List (String × Bool × Bool) :=
  [("", false, false), ("u", false, false), ("r", true, false), ("b", false, true),
    ("br", true, true), ("rb", true, true)]

/-- The beginning of a text, and what is between its quotes and behind. -/
def opening (cs : List Char) : Option (Quotation × List Char) := do
  let (raw, bytes) ← quotationMarks.lookup
    (String.ofList ((cs.takeWhile Char.isAlpha).map Char.toLower))
  match cs.dropWhile Char.isAlpha with
  | a :: b :: c :: rest =>
    if a != '"' && a != '\'' then failure
    if a = b ∧ b = c then return (⟨a, true, raw, bytes⟩, rest)
    return (⟨a, false, raw, bytes⟩, b :: c :: rest)
  | a :: rest =>
    if a != '"' && a != '\'' then failure
    return (⟨a, false, raw, bytes⟩, rest)
  | [] => failure

/-- The first characters are hexadecimal digits, so many of them. -/
def beginsHex (count : Nat) (cs : List Char) : Bool :=
  count ≤ cs.length && (cs.take count).all fun c => Colour.isHexDigit c.toLower

/-- A backslash is followed by what has a meaning there. The eight digits of a number must not go
beyond the last character. -/
def isMeant (q : Quotation) : List Char → Bool
  | [] => false
  | c :: cs =>
    if q.raw then true
    else if c == 'x' then beginsHex 2 cs
    else if q.bytes then true
    else if c == 'u' then beginsHex 4 cs
    else if c == 'U' then
      beginsHex 8 cs && (cs.take 2).all (· == '0') && ((cs.drop 2).head? == some '0'
        || (cs.drop 2).take 2 == ['1', '0'])
    else if c == 'N' then cs.head? == some '\x7b' && cs.tail.contains '\x7d'
    else true

/-- What follows the end of a text. `escaped` tells that a backslash stands in front. -/
def afterText (q : Quotation) : Bool → List Char → Option (List Char)
  | _, [] => none
  | escaped, c :: cs =>
    if q.bytes && 0x80 ≤ c.toNat then none
    else if escaped then afterText q false cs
    else if c == '\\' then if isMeant q cs then afterText q true cs else none
    else if c == q.quote && !q.triple then some cs
    else if c == q.quote && cs.take 2 == [q.quote, q.quote] then some (cs.drop 2)
    else if endsLine c && !q.triple then none
    else afterText q false cs

/-- Texts one behind another, which are one text, all of them of the class of the first. At most
`tries` of them are read. -/
def texts (nested : Bool) (bytes? : Option Bool) : Nat → List Char → Option (List Char)
  | 0, _ => none
  | tries + 1, cs =>
    match opening cs with
    | some (q, rest) => do
      if bytes?.any (· != q.bytes) then failure
      texts nested (some q.bytes) tries (skip nested false (← afterText q false rest))
    | none => if bytes?.isSome then some cs else none

/-! ### Words -/

/-- The words that stand for values of their own. -/
def valueWords : List String := ["None", "True", "False"]

/-- A word for a value, or a call for the empty set. -/
def ofWord (nested : Bool) (cs : List Char) : Option (Literal × List Char) :=
  let word := String.ofList (cs.takeWhile isWordChar)
  let rest := skip nested false (cs.dropWhile isWordChar)
  if valueWords.contains word then some (fixed, rest)
  else
    match word, rest with
    | "set", '(' :: rest =>
      match skip true false rest with
      | ')' :: rest => some (changing, rest)
      | _ => none
    | _, _ => none

/-! ### Collections -/

/-- A literal without parts. -/
def atom (nested : Bool) (cs : List Char) : Option (Literal × List Char) :=
  match cs with
  | '.' :: '.' :: '.' :: rest => some (fixed, rest)
  | _ =>
    match texts nested none (cs.length + 1) cs with
    | some rest => some (fixed, rest)
    | none =>
      if cs.head?.any fun c => c.isDigit || c == '.' then number cs else ofWord nested cs

mutual

/-- A literal without a sign, nested at most `depth` deep. -/
def unsigned (nested : Bool) : Nat → List Char → Option (Literal × List Char)
  | 0, _ => none
  | depth + 1, '(' :: cs => do
    let (items, commas, rest) ← items depth ')' (skip true false cs)
    match items, commas with
    | [l], false => return (l, rest)
    | _, _ => return (holding items, rest)
  | depth + 1, '[' :: cs => do
    let (_, _, rest) ← items depth ']' (skip true false cs)
    return (changing, rest)
  | depth + 1, '\x7b' :: cs => do
    return (changing, ← members depth none (skip true false cs))
  | _ + 1, cs => atom nested cs

/-- A literal: one without a sign, a number with one, or the sum of a real number and an imaginary
one. -/
def single (nested : Bool) : Nat → List Char → Option (Literal × List Char)
  | 0, _ => none
  | depth + 1, cs => do
    let (first, rest) ←
      if cs.head?.any fun c => c == '-' || c == '+' then
        (unsigned nested depth (skip nested false cs.tail)).bind fun r =>
          r.1.withSign.map (·, r.2)
      else unsigned nested depth cs
    match first, skip nested false rest with
    | real _, c :: rest =>
      if c == '-' || c == '+' then
        match ← unsigned nested depth (skip nested false rest) with
        | (imaginary false, rest) => return (fixed, rest)
        | _ => failure
      else return (first, c :: rest)
    | _, rest => return (first, rest)

/-- The literals up to the character that closes a collection, whether there is a comma behind one
of them, and what follows. -/
def items : Nat → Char → List Char → Option (List Literal × Bool × List Char)
  | 0, _, _ => none
  | depth + 1, closing, cs =>
    if cs.head? == some closing then some ([], false, cs.tail)
    else do
      let (l, rest) ← single true depth cs
      match skip true false rest with
      | ',' :: rest =>
        let (others, _, rest) ← items depth closing (skip true false rest)
        return (l :: others, true, rest)
      | c :: rest => if c = closing then return ([l], false, rest) else failure
      | [] => failure

/-- What follows the members of a collection in braces: single literals, or entries of a key and a
value with a colon between them. `keyed?` tells which of the two the ones before are. -/
def members : Nat → Option Bool → List Char → Option (List Char)
  | 0, _, _ => none
  | depth + 1, keyed?, cs =>
    if cs.head? == some '\x7d' then some cs.tail
    else do
      let (first, rest) ← single true depth cs
      if !first.isKey then failure
      let (keyed, rest) ← match skip true false rest with
        | ':' :: rest => (single true depth (skip true false rest)).map fun r => (true, r.2)
        | rest => some (false, rest)
      if keyed?.any (· != keyed) then failure
      match skip true false rest with
      | ',' :: rest => members depth (some keyed) (skip true false rest)
      | '\x7d' :: rest => return rest
      | _ => failure

end

/-- Literals with commas between them, up to the end of the text. -/
def sequence : Nat → List Char → Bool
  | 0, _ => false
  | depth + 1, cs =>
    match single false (4 * cs.length + 4) cs with
    | none => false
    | some (_, rest) =>
      match skip false false rest with
      | ',' :: rest =>
        (skip true false rest).isEmpty || sequence depth (skip false false rest)
      | rest => (skip true false rest).isEmpty

/-- The characters are a literal, or several with commas between them. -/
def holds (cs : List Char) : Bool :=
  !cs.contains '\x00' && sequence (cs.length + 1) (skip true false cs)

end Literal

end GraphQuery.Markup
