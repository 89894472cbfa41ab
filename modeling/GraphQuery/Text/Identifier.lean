/-!
Names in a query: which ones stand as they are, and how the others are quoted.

* An identifier is a letter or underscore followed by letters, digits and underscores of the
  seven-bit set; one line feed after it is let pass.
* Any other name is put between backticks, and a backtick inside it is doubled.
-/

namespace GraphQuery.Text

/-- A letter of the seven-bit set, or the underscore. -/
def isNameStart (c : Char) : Bool :=
  ('A' ≤ c && c ≤ 'Z') || ('a' ≤ c && c ≤ 'z') || c == '_'

/-- A letter or digit of the seven-bit set, or the underscore. -/
def isNameChar (c : Char) : Bool :=
  isNameStart c || ('0' ≤ c && c ≤ '9')

/-- The characters are those of an identifier with nothing after it. -/
def isPlainName : List Char → Bool
  | [] => false
  | c :: rest => isNameStart c && rest.all isNameChar

/-- The text is an identifier, with at most one line feed after it. -/
def isIdentifier (s : String) : Bool :=
  isPlainName s.toList || (s.toList.getLast? == some '\n' && isPlainName s.toList.dropLast)

/-- The quote around a name that is no identifier. -/
def backtick : Char := '\x60'

/-- The characters between the backticks for one character of the name. -/
def escapedChar (c : Char) : List Char :=
  if c = backtick then [backtick, backtick] else [c]

/-- A label, relationship type or property name as it stands in a query. -/
def escaped (s : String) : String :=
  if isIdentifier s then s
  else String.ofList (backtick :: s.toList.flatMap escapedChar ++ [backtick])

end GraphQuery.Text
