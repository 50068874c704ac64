import Mintmark.Number.Binary64

/-!
# Shortest decimal texts

A number is written with the fewest digits that lie nearer to it than to any other number, and of
those with the nearest. For each count of digits only the two neighbours on that decimal grid can
do, so the grids are tried one after another, starting above the first digit: a number may round up to
a power of ten.
-/

namespace Mintmark.Number

/-- A positive number between its two rounding borders, as multiples of `2 ^ unit`. -/
structure Interval where
  low : Nat
  value : Nat
  high : Nat
  closed : Bool
  unit : Int

namespace Interval

/-- The borders lie half way to the neighbours. Below a power of two the neighbour is nearer. -/
def around (mantissa : Nat) (exponent : Int) : Interval :=
  let step := if mantissa = Binary64.leastFull ∧ Binary64.minExponent < exponent then 1 else 2
  { low := 4 * mantissa - step
    value := 4 * mantissa
    high := 4 * mantissa + 2
    closed := mantissa % 2 = 0
    unit := exponent - 2 }

/-- Whether `n · 10 ^ power` rounds to the number. -/
def contains (i : Interval) (n : Nat) (power : Int) : Bool :=
  let point := (n * Nat.pow 10 power.toNat) <<< (-i.unit).toNat
  let scale := Nat.pow 10 (-power).toNat <<< i.unit.toNat
  if i.closed then i.low * scale ≤ point && point ≤ i.high * scale
  else i.low * scale < point && point < i.high * scale

/-- The number divided by `10 ^ power`, as a fraction. -/
def inUnits (i : Interval) (power : Int) : Nat × Nat :=
  ((i.value * Nat.pow 10 (-power).toNat) <<< i.unit.toNat,
    Nat.pow 10 power.toNat <<< (-i.unit).toNat)

/-- The place of the first digit: the greatest power of ten that is not above the number. -/
def firstPlace (i : Interval) : Int :=
  let (num, den) := i.inUnits 0
  if den ≤ num then (Text.digits 10 (num / den)).length - 1
  else -(Text.digits 10 ((den - 1) / num)).length

/-- The better of the two neighbours on the grid of one power of ten, if one of them will do. -/
def onGrid? (i : Interval) (power : Int) : Option Nat :=
  let (num, den) := i.inUnits power
  let below := num / den
  let above := below + 1
  match i.contains below power && below != 0, i.contains above power with
  | true, true => some (if den ≤ 2 * (num % den) then above else below)
  | true, false => some below
  | false, true => some above
  | false, false => none

/-- The digits and the power of ten of the last one. -/
def shortest (i : Interval) : Nat × Int :=
  let first := i.firstPlace
  ((List.range 18).findSome? fun (count : Nat) =>
    let power := first + 1 - count
    (i.onGrid? power).map (·, power)).getD (i.value, i.unit)

end Interval

/-- Writes `n · 10 ^ power` without an exponent. -/
def positional (n : Nat) (power : Int) : List Char :=
  let digits := Text.digits 10 n
  if 0 ≤ power then digits ++ List.replicate power.toNat '0'
  else
    let places := (-power).toNat
    let digits := Text.zeroPadded (places + 1) digits
    digits.take (digits.length - places) ++ '.' :: digits.drop (digits.length - places)

/-- The shortest text of a number, without an exponent. -/
def Binary64.text : Binary64 → String
  | .finite negative mantissa exponent =>
    let sign := if negative then "-" else ""
    if mantissa = 0 then sign ++ "0"
    else
      let (n, power) := (Interval.around mantissa exponent).shortest
      sign ++ String.ofList (positional n power)
  | .infinite negative => if negative then "-inf" else "inf"
  | .undefined => "NaN"

end Mintmark.Number
