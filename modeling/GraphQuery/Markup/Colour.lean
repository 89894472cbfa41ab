import GraphQuery.Fault
import GraphQuery.Text.Lowercase
import GraphQuery.Value.Decimal

/-!
Colours: what can be asked for as a colour in a style of console text.

A colour has a name, or is given by its number, by its three parts, or by six hexadecimal digits.
Letter case does not matter. Two colours are told apart by how they are written, in small letters.
-/

namespace GraphQuery.Markup

namespace Colour

/-- The shades of grey, by the percentage that their names end in. -/
def greyShades : List String :=
  ["0", "3", "7", "11", "15", "19", "23", "27", "30", "35", "37", "39", "42", "46", "50", "53",
    "54", "58", "62", "63", "66", "69", "70", "74", "78", "82", "84", "85", "89", "93", "100"]

/-- The colours whose names come with numbers: the name, and what can stand behind it. -/
def families : List (String × List String) :=
  [("grey", greyShades), ("gray", greyShades), ("red", ["", "1", "3"]),
    ("green", ["", "1", "3", "4"]), ("yellow", ["", "1", "2", "3", "4"]), ("blue", ["", "1", "3"]),
    ("magenta", ["", "1", "2", "3"]), ("cyan", ["", "1", "2", "3"]),
    ("deep_sky_blue", ["1", "2", "3", "4"]), ("dodger_blue", ["1", "2", "3"]),
    ("spring_green", ["1", "2", "3", "4"]), ("turquoise", ["2", "4"]),
    ("deep_pink", ["1", "2", "3", "4"]), ("purple", ["", "3", "4"]), ("orange", ["1", "3", "4"]),
    ("medium_purple", ["", "1", "2", "3", "4"]), ("slate_blue", ["1", "3"]), ("royal_blue", ["1"]),
    ("chartreuse", ["1", "2", "3", "4"]), ("dark_sea_green", ["", "1", "2", "3", "4"]),
    ("pale_turquoise", ["1", "4"]), ("steel_blue", ["", "1", "3"]), ("sky_blue", ["1", "2", "3"]),
    ("pale_green", ["1", "3"]), ("sea_green", ["1", "2", "3"]), ("aquamarine", ["1", "3"]),
    ("dark_slate_gray", ["1", "2", "3"]), ("light_pink", ["1", "3", "4"]),
    ("plum", ["1", "2", "3", "4"]), ("wheat", ["1", "4"]), ("dark_olive_green", ["1", "2", "3"]),
    ("light_sky_blue", ["1", "3"]), ("dark_orange", ["", "3"]), ("indian_red", ["", "1"]),
    ("hot_pink", ["", "2", "3"]), ("medium_orchid", ["", "1", "3"]), ("light_salmon", ["1", "3"]),
    ("gold", ["1", "3"]), ("navajo_white", ["1", "3"]), ("light_steel_blue", ["", "1", "3"]),
    ("light_cyan", ["1", "3"]), ("orchid", ["", "1", "2"]), ("pink", ["1", "3"]),
    ("light_goldenrod", ["1", "2", "3"]), ("misty_rose", ["1", "3"]), ("thistle", ["1", "3"]),
    ("khaki", ["1", "3"]), ("light_yellow", ["3"]), ("honeydew", ["2"]), ("orange_red", ["1"]),
    ("salmon", ["1"]), ("pale_violet_red", ["1"]), ("cornsilk", ["1"])]

/-- The colours whose names stand alone. -/
def singles : List String :=
  ["default", "black", "white", "bright_black", "bright_red", "bright_green", "bright_yellow",
    "bright_blue", "bright_magenta", "bright_cyan", "bright_white", "navy_blue", "dark_blue",
    "dark_green", "dark_cyan", "light_sea_green", "dark_turquoise", "medium_spring_green",
    "dark_red", "blue_violet", "cornflower_blue", "cadet_blue", "medium_turquoise", "dark_magenta",
    "dark_violet", "light_slate_grey", "light_slate_gray", "light_slate_blue", "light_green",
    "medium_violet_red", "dark_goldenrod", "rosy_brown", "dark_khaki", "green_yellow", "violet",
    "tan", "light_coral", "sandy_brown"]

/-- The text is the name of a colour. -/
def isNamed (s : String) : Bool :=
  singles.contains s || families.any fun f => f.2.any fun ending => f.1 ++ ending == s

/-- A hexadecimal digit in small letters. -/
def isHexDigit (c : Char) : Bool := c.isDigit || ('a' ≤ c && c ≤ 'f')

/-- The largest number of a colour, and of a part of one. -/
def largest : Nat := 255

/-- What stands between a word with an opening parenthesis and the closing one. -/
def argument? (word : String) (cs : List Char) : Option (List Char) :=
  let opening := word.toList ++ ['(']
  if opening.isPrefixOf cs && cs.getLast? == some ')' then some (cs.drop opening.length).dropLast
  else none

/-- The characters are the number of a colour: up to three digits. -/
def isNumber (cs : List Char) : Bool :=
  !cs.isEmpty && cs.length ≤ 3 && cs.all Char.isDigit && Decimal.natOfDigits cs ≤ largest

/-- The characters are the three parts of a colour, with commas between them. A part that is left
out is no number. -/
def areParts (cs : List Char) : Except Fault Bool :=
  let parts := cs.splitOn ','
  if !cs.all (fun c => c.isDigit || c == ',') || parts.length != 3 then .ok false
  else if parts.any List.isEmpty then .error .wrongValue
  else .ok (parts.all fun part => Decimal.natOfDigits part ≤ largest)

/-- Characters in small letters are a colour. -/
def isColour (cs : List Char) : Except Fault Bool :=
  match cs, argument? "color" cs, argument? "rgb" cs with
  | '#' :: digits, _, _ => .ok (digits.length == 6 && digits.all isHexDigit)
  | _, some number, _ => .ok (isNumber number)
  | _, _, some parts => areParts parts
  | cs, none, none => .ok (isNamed (String.ofList cs))

/-- The colour that a word asks for, as it is told apart from others. -/
def ofWord (word : String) : Except Fault (Option String) := do
  let name := Text.lowercase word
  return if ← isColour name.toList then some name else none

end Colour

end GraphQuery.Markup
