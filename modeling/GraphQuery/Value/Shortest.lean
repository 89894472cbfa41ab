import GraphQuery.Value.Basic
import GraphQuery.Value.Rounded

/-!
The shortest text of a floating-point number: the fewest digits that read back as the same number,
written out in full unless the number is very small or very large.

* `Decimal.shortest`: the digits.
* `Decimal.text`: how they are laid out.
* `Value.next?`: the number after a number, which is what a counter takes when it is moved on.
-/

namespace GraphQuery

namespace Decimal

/-- The decimal of some number of significant digits that is nearest to `m · 2 ^ q`. -/
def nearest (negative : Bool) (m : Nat) (q : Int) (digits : Nat) : Decimal :=
  let (num, den) := if 0 ≤ q then (m * Nat.pow 2 q.toNat, 1) else (m, Nat.pow 2 q.natAbs)
  let (n, power) := significant num den digits
  ⟨negative, n, power + 1 - digits⟩

/-- The decimal of the fewest digits that reads back as `± m · 2 ^ q`. Seventeen digits always
do. -/
def shortest (negative : Bool) (m : Nat) (q : Int) : Decimal :=
  (((List.range' 1 16).map (nearest negative m q)).find? fun d => d.binary == (m, q)).getD
    (nearest negative m q 17)

/-- The text of a decimal: written out from a ten-thousandth up to below ten to the sixteenth, with
an exponent beyond. What is written out has at least one place. -/
def text (d : Decimal) : String :=
  let digits := Nat.toDigits 10 d.digits
  let power := d.exponent + digits.length - 1
  let sign := if d.negative then "-" else ""
  if power < -4 ∨ 16 ≤ power then
    sign ++ String.ofList (pointed false (digits.length - 1) digits ++ exponentText power)
  else if power < 0 then
    sign ++ "0." ++ String.ofList (List.replicate (power.natAbs - 1) '0' ++ digits)
  else
    let whole := power.toNat + 1
    let digits := digits ++ List.replicate (whole + 1 - digits.length) '0'
    sign ++ String.ofList (pointed false (digits.length - whole) digits)

/-- The floating-point number after a floating-point number: one more, rounded. -/
def next (d : Decimal) : Decimal :=
  let x := Float.ofScientific d.digits (d.exponent < 0) d.exponent.natAbs
  let sum := (if d.negative then -x else x) + 1
  let bits := sum.toBits.toNat
  let fraction : Nat := bits % Nat.pow 2 52
  let power : Nat := bits / Nat.pow 2 52 % Nat.pow 2 11
  let negative := bits / Nat.pow 2 63 == 1
  if power = 0 then shortest negative fraction (-1074)
  else shortest negative (Nat.pow 2 52 + fraction) ((power : Int) - 1075)

end Decimal

/-- The number after a number. Infinities and the undefined number stay as they are. -/
def Value.next? : Value → Option Value
  | .atom (.bool b) _ => some (.int (if b then 2 else 1))
  | .atom (.int i) _ => some (.int (i + 1))
  | .atom (.float s) _ =>
    some (.atom (.float (((Decimal.ofText? s).map fun d => d.next.text).getD s)) 0)
  | _ => none

end GraphQuery
