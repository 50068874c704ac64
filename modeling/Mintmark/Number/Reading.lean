import Mintmark.Number.Binary64

/-!
# Reading binary floating point

The decimal texts of a number: digits with a point anywhere among or around them and an optional
power of ten, or one of the words for what is not finite. The number nearest to the text is taken.
-/

namespace Mintmark.Number.Binary64

/-- Whether a number is negative, and the text behind its sign. -/
def readSign : List Char → Bool × List Char
  | '-' :: cs => (true, cs)
  | '+' :: cs => (false, cs)
  | cs => (false, cs)

/-- The power of ten behind its mark. -/
def readPower? : List Char → Option Int
  | [] => some 0
  | mark :: cs =>
    let (negative, digits) := readSign cs
    if mark.toLower = 'e' ∧ digits ≠ [] ∧ digits.all Char.isDigit then
      let power : Int := Text.decimalValue digits
      some (if negative then -power else power)
    else none

/-- A finite number without its sign. -/
def readFinite? (negative : Bool) (cs : List Char) : Option Binary64 := do
  let whole := cs.takeWhile Char.isDigit
  let rest := cs.dropWhile Char.isDigit
  let (fraction, rest) := match rest with
    | '.' :: rest => (rest.takeWhile Char.isDigit, rest.dropWhile Char.isDigit)
    | rest => ([], rest)
  guard (whole ++ fraction ≠ [])
  let power ← readPower? rest
  return ofDecimal negative (Text.decimalValue (whole ++ fraction)) (power - fraction.length)

/-- Reads a number. -/
def ofText? (cs : List Char) : Option Binary64 :=
  let (negative, cs) := readSign cs
  match String.ofList (cs.map Char.toLower) with
  | "inf" | "infinity" => some (infinite negative)
  | "nan" => some undefined
  | _ => readFinite? negative cs

end Mintmark.Number.Binary64
