import GraphQuery.Markup.Colour
import GraphQuery.Text.Blank

/-!
Styles: how a stretch of console text is asked to look.

A style is asked for in words: traits, some of them by a letter as well, traits that are
switched off, a colour, a colour of the background, and a link. Different words can ask for the same
style, so a style has a normal form, by which two of them are compared. Words that ask for no style
stand for themselves.

* `Style.ofWords`: the style that words ask for.
* `Style.normal`: the normal form of what is asked for.
-/

namespace GraphQuery.Markup

/-- A style: the traits that are switched on or off, the latest first, the colours, and where a
link leads. -/
structure Style where
  switches : List (String × Bool)
  colour? : Option String
  background? : Option String
  link? : Option String
  deriving DecidableEq, Repr

namespace Style

/-- The style that asks for nothing. -/
def plain : Style := ⟨[], none, none, none⟩

/-- The traits, in the order in which the normal form tells them. -/
def traits : List String :=
  ["bold", "dim", "italic", "underline", "blink", "blink2", "reverse", "conceal", "strike",
    "underline2", "frame", "encircle", "overline"]

/-- The short words for traits. -/
def shortWords : List (String × String) :=
  [("d", "dim"), ("b", "bold"), ("i", "italic"), ("u", "underline"), ("r", "reverse"),
    ("c", "conceal"), ("s", "strike"), ("uu", "underline2"), ("o", "overline")]

/-- The trait that a word stands for. -/
def trait? (word : String) : Option String :=
  if traits.contains word then some word else shortWords.lookup word

/-- The style with a trait switched on or off. -/
def switched (s : Style) (word : String) (on : Bool) : Style :=
  { s with switches := (word, on) :: s.switches }

/-- The style with a single word more: a trait, or else a colour. -/
def withWord (s : Style) (word : String) : Except Fault (Option Style) := do
  match trait? (Text.lowercase word) with
  | some name => return some (s.switched name true)
  | none => return (← Colour.ofWord word).map fun name => { s with colour? := some name }

/-- A word that says what the next one is for. -/
inductive Lead where
  | background
  | off
  | link
  deriving DecidableEq, Repr

/-- What a word says of the next one. -/
def lead? (word : String) : Option Lead :=
  match Text.lowercase word with
  | "on" => some .background
  | "not" => some .off
  | "link" => some .link
  | _ => none

/-- The style with a word more, for what the word in front of it said. -/
def withLed (s : Style) (lead : Lead) (word : String) : Except Fault (Option Style) := do
  match lead with
  | .background => return (← Colour.ofWord word).map fun name => { s with background? := some name }
  | .off => return (trait? word).map (s.switched · false)
  | .link => return some { s with link? := some word }

/-- The style that words ask for on top of another, if they do. -/
def withWords (s : Style) : List String → Except Fault (Option Style)
  | [] => return some s
  | [word] => if (lead? word).isSome then return none else s.withWord word
  | word :: next :: rest => do
    match lead? word with
    | some lead =>
      match ← s.withLed lead next with
      | some s => s.withWords rest
      | none => return none
    | none =>
      match ← s.withWord word with
      | some s => s.withWords (next :: rest)
      | none => return none

/-- The style that words ask for, if they do. A colour of which a part is left out is a fault. -/
def ofWords (words : List String) : Except Fault (Option Style) := plain.withWords words

/-- The words that ask for a style in the normal form: the traits in their order, the colour,
the background and the link. -/
def words (s : Style) : List String :=
  traits.flatMap (fun word =>
      match s.switches.lookup word with
      | some true => [word]
      | some false => ["not", word]
      | none => [])
    ++ s.colour?.toList
    ++ (s.background?.map fun name => ["on", name]).getD []
    ++ (s.link?.map fun target => ["link", target]).getD []

/-- The normal form of a text that asks for a style. A text that asks for none stands for itself, in
small letters and without the white space around it. -/
def normal (s : String) : Except Fault String := do
  match ← ofWords ((Text.words s.toList).map String.ofList) with
  | some style => return " ".intercalate style.words
  | none => return Text.lowercase (String.ofList (Text.stripped s.toList))

end Style

end GraphQuery.Markup
