import GraphQuery.Value.Decimal

/-!
Numbers rounded to a number of digits: with fixed places, with an exponent, or in the shorter form
of the two.

The number that is rounded is the exact floating-point number, as a fraction of whole numbers. What
lies in the middle between two neighbours goes to the even one.
-/

namespace GraphQuery

namespace Decimal

/-- The fraction rounded to a whole number; a half goes to the even neighbour. -/
def roundedHalfEven (num den : Nat) : Nat :=
  let whole := num / den
  let rest := num % den
  if 2 * rest < den ∨ (2 * rest = den ∧ whole % 2 = 0) then whole else whole + 1

/-- How many digits a whole number has. -/
def digitCount (n : Nat) : Nat := (Nat.toDigits 10 n).length

/-- The greatest power of ten that a positive fraction is not less than. -/
def magnitude (num den : Nat) : Int :=
  if den ≤ num then (digitCount (num / den) : Int) - 1
  else
    let places := digitCount (den / num)
    if num * Nat.pow 10 (places - 1) = den then 1 - (places : Int) else - (places : Int)

/-- The fraction with some number of significant digits: those digits as a whole number, and the
power of ten of the first one. -/
def significant (num den digits : Nat) : Nat × Int :=
  if num = 0 then (0, 0)
  else
    let power := magnitude num den
    let shift := (digits : Int) - 1 - power
    let n :=
      if 0 ≤ shift then roundedHalfEven (num * Nat.pow 10 shift.toNat) den
      else roundedHalfEven num (den * Nat.pow 10 shift.natAbs)
    if n = Nat.pow 10 digits then (n / 10, power + 1) else (n, power)

/-- The absolute value as a fraction. -/
def fraction (d : Decimal) : Nat × Nat :=
  let (m, q) := d.binary
  if 0 ≤ q then (m * Nat.pow 2 q.toNat, 1) else (m, Nat.pow 2 q.natAbs)

/-- Digits, at least as many as asked for. -/
def paddedDigits (width n : Nat) : List Char :=
  let digits := Nat.toDigits 10 n
  List.replicate (width - digits.length) '0' ++ digits

/-- Digits with a point before the last ones; without digits behind it, the point stands only on
demand. -/
def pointed (keepPoint : Bool) (places : Nat) (digits : List Char) : List Char :=
  let whole := digits.take (digits.length - places)
  let rest := digits.drop (digits.length - places)
  whole ++ (if rest.isEmpty && !keepPoint then [] else '.' :: rest)

/-- The exponent, with its sign and at least two digits. -/
def exponentText (power : Int) : List Char :=
  ['e', if power < 0 then '-' else '+'] ++ paddedDigits 2 power.natAbs

/-- A fraction with fixed places. -/
def fixedText (keepPoint : Bool) (places num den : Nat) : List Char :=
  pointed keepPoint places
    (paddedDigits (places + 1) (roundedHalfEven (num * Nat.pow 10 places) den))

/-- A fraction with an exponent. -/
def exponentialText (keepPoint : Bool) (places num den : Nat) : List Char :=
  let (n, power) := significant num den (places + 1)
  pointed keepPoint places (paddedDigits (places + 1) n) ++ exponentText power

/-- Digits without the noughts at their end; the first digit stays. -/
def withoutNoughts : List Char → List Char
  | [] => []
  | c :: cs => c :: (cs.reverse.dropWhile (· == '0')).reverse

/-- A fraction with some number of significant digits, in the form that suits its size. The noughts
at the end are left out unless the point is to be kept. -/
def generalText (keepPoint : Bool) (precision num den : Nat) : List Char :=
  let precision := max 1 precision
  let (n, power) := significant num den precision
  let digits := paddedDigits precision n
  let digits := if keepPoint then digits else withoutNoughts digits
  if power < -4 ∨ (precision : Int) ≤ power then
    pointed keepPoint (digits.length - 1) digits ++ exponentText power
  else if power < 0 then
    '0' :: '.' :: List.replicate (power.natAbs - 1) '0' ++ digits
  else
    let whole := power.toNat + 1
    let digits := digits ++ List.replicate (whole - digits.length) '0'
    pointed keepPoint (digits.length - whole) digits

end Decimal

end GraphQuery
