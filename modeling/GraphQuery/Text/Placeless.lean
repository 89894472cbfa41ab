/-!
Texts without places: where an object lies in memory means nothing, so the digits of a place are
left out of what a message shows.
-/

namespace GraphQuery.Text

/-- What stands in front of the digits of a place. -/
def placeMark : List Char := " at 0x".toList

/-- A lower-case hexadecimal digit. -/
def isPlaceDigit (c : Char) : Bool := c.isDigit || ('a' ≤ c && c ≤ 'f')

/-- The characters without the digits of places. `matched` tells how much of the mark of a place the
characters in front end with, and `none` that the digits of a place are being passed over. -/
def withoutPlaces : Option (List Char) → List Char → List Char
  | _, [] => []
  | none, c :: cs =>
    if isPlaceDigit c then withoutPlaces none cs
    else c :: withoutPlaces (if c = ' ' then some placeMark.tail else some placeMark) cs
  | some awaited, c :: cs =>
    if awaited.head? == some c then
      c :: withoutPlaces (if awaited.tail.isEmpty then none else some awaited.tail) cs
    else c :: withoutPlaces (if c = ' ' then some placeMark.tail else some placeMark) cs

/-- A text without the digits of places. -/
def placeless (s : String) : String :=
  String.ofList (withoutPlaces (some placeMark) s.toList)

end GraphQuery.Text
