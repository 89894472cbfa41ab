/-!
Floating-point numbers given by their shortest decimal text: reading the text, and the whole
number that such a number is exactly, if it is one.
-/

namespace GraphQuery

/-- The number `± digits · 10 ^ exponent`. -/
structure Decimal where
  negative : Bool
  digits : Nat
  exponent : Int
  deriving DecidableEq, Repr

namespace Decimal

/-- The number that a run of digits writes. -/
def natOfDigits (cs : List Char) : Nat :=
  cs.foldl (fun n c => 10 * n + (c.toNat - '0'.toNat)) 0

/-- The number that digits with an optional sign write. -/
def intOfDigits : List Char → Int
  | '-' :: cs => - natOfDigits cs
  | '+' :: cs => natOfDigits cs
  | cs => natOfDigits cs

/-- Reads a decimal text such as `-1.5` or `1e-07`; infinities and the undefined number have
none. -/
def ofText? (s : String) : Option Decimal :=
  let (negative, cs) := match s.toList with
    | '-' :: cs => (true, cs)
    | cs => (false, cs)
  let whole := cs.takeWhile Char.isDigit
  if whole.isEmpty then none
  else
    let (places, rest) := match cs.dropWhile Char.isDigit with
      | '.' :: cs => (cs.takeWhile Char.isDigit, cs.dropWhile Char.isDigit)
      | cs => ([], cs)
    let power := match rest with
      | 'e' :: cs => intOfDigits cs
      | _ => 0
    some ⟨negative, natOfDigits (whole ++ places), power - places.length⟩

/-- The number is nought, of either sign. -/
def isZero (d : Decimal) : Bool := d.digits == 0

/-- The nearest floating-point number to the absolute value, as `m · 2 ^ q`. -/
def binary (d : Decimal) : Nat × Int :=
  let x := Float.ofScientific d.digits (d.exponent < 0) d.exponent.natAbs
  let bits := x.toBits.toNat
  let fraction : Nat := bits % Nat.pow 2 52
  let power : Nat := bits / Nat.pow 2 52 % Nat.pow 2 11
  if power = 0 then (fraction, -1074) else (Nat.pow 2 52 + fraction, (power : Int) - 1075)

/-- The number is too large for a floating-point number. -/
def isInfinite (d : Decimal) : Bool :=
  (Float.ofScientific d.digits (d.exponent < 0) d.exponent.natAbs).isInf

/-- The whole part of the floating-point number. -/
def truncated (d : Decimal) : Int :=
  let (m, q) := d.binary
  let magnitude : Nat := if 0 ≤ q then m * Nat.pow 2 q.toNat else m / Nat.pow 2 q.natAbs
  if d.negative then - (magnitude : Int) else magnitude

/-- The whole number that the floating-point number is exactly, if it is one. -/
def toInt? (d : Decimal) : Option Int :=
  let (m, q) := d.binary
  if 0 ≤ q ∨ m % Nat.pow 2 q.natAbs = 0 then some d.truncated else none

/-- The floating-point number is at most a whole number. -/
def atMost (d : Decimal) (i : Int) : Bool :=
  if d.negative ∨ d.toInt?.isSome then d.truncated ≤ i else d.truncated < i

end Decimal

end GraphQuery
