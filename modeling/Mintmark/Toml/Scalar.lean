import Mintmark.Calendar.Date
import Mintmark.Number.Reading

/-!
# Words of TOML

Numbers, flags, dates and times: the values that are written without quotes. Between the digits of a
number single underscores may stand. A date or a time is kept as its text.
-/

namespace Mintmark.Toml

inductive Scalar where
  | flag (b : Bool)
  | whole (i : Int)
  | real (x : Number.Binary64)
  | moment (text : String)

namespace Scalar

/-- Digits without the underscores between them. -/
def unmarked? (isDigit : Char → Bool) (cs : List Char) : Option (List Char) :=
  let groups := cs.splitOn '_'
  if groups.all fun g => g != [] && g.all isDigit then some groups.flatten else none

/-- Digits of which the first is no zero, unless it is the only one. -/
def decimal? (cs : List Char) : Option (List Char) := do
  let digits ← unmarked? Char.isDigit cs
  guard (digits.head? ≠ some '0' ∨ digits.length = 1)
  return digits

def within64? (i : Int) : Option Int := if Number.fits64 i then some i else none

/-- A whole number in another radix. -/
def inRadix? (radix : Nat) (cs : List Char) : Option Int := do
  let digits ← unmarked? (fun c => (Text.digitValue? radix c.toLower).isSome) cs
  let n ← Text.readDigits? radix (digits.map Char.toLower)
  within64? n

def whole? : List Char → Option Int
  | '0' :: 'x' :: cs => inRadix? 16 cs
  | '0' :: 'o' :: cs => inRadix? 8 cs
  | '0' :: 'b' :: cs => inRadix? 2 cs
  | cs => do
    let (negative, cs) := Number.Binary64.readSign cs
    let n := Text.decimalValue (← decimal? cs)
    within64? (if negative then -(n : Int) else n)

def isMark (c : Char) : Bool := c == 'e' || c == 'E'

/-- The point and the digits behind it, if there is a point. -/
def fraction? : List Char → Option (List Char)
  | [] => some []
  | '.' :: cs => (unmarked? Char.isDigit cs).map ('.' :: ·)
  | _ => none

/-- The power of ten behind its mark, if there is one. -/
def power? : List Char → Option (List Char)
  | [] => some []
  | _ :: sign :: cs =>
    if sign = '+' ∨ sign = '-' then (unmarked? Char.isDigit cs).map ('e' :: sign :: ·)
    else (unmarked? Char.isDigit (sign :: cs)).map ('e' :: ·)
  | [_] => none

/-- A number with a point or a power of ten. -/
def finite? (cs : List Char) : Option (List Char) := do
  let mantissa := cs.takeWhile fun c => !isMark c
  let power := cs.dropWhile fun c => !isMark c
  let whole := mantissa.takeWhile (· != '.')
  let fraction := mantissa.dropWhile (· != '.')
  guard (fraction ≠ [] ∨ power ≠ [])
  return (← decimal? whole) ++ (← fraction? fraction) ++ (← power? power)

def real? (cs : List Char) : Option Number.Binary64 :=
  let (negative, cs) := Number.Binary64.readSign cs
  match String.ofList cs with
  | "inf" => some (.infinite negative)
  | "nan" => some .undefined
  | _ => do
    let x ← Number.Binary64.ofText? (← finite? cs)
    guard !x.isInfinite
    return if negative then x.negate else x

/-- A number of some places, within bounds. -/
def places? (count least greatest : Nat) (cs : List Char) : Option (List Char) :=
  let n := Text.decimalValue cs
  if cs.length = count ∧ cs.all Char.isDigit ∧ least ≤ n ∧ n ≤ greatest then some cs else none

/-- A date of ten characters. -/
def date? (cs : List Char) : Option (List Char) :=
  match cs.splitOn '-' with
  | [year, month, day] => do
    let year ← places? 4 0 9999 year
    let month ← places? 2 1 12 month
    let days := Date.daysInMonth (Text.decimalValue year) (Text.decimalValue month)
    let day ← places? 2 1 days day
    return year ++ '-' :: month ++ '-' :: day
  | _ => none

/-- The seconds of a time; of their fraction nine places are kept, and no zeros at the end but the
first place. -/
def seconds? (cs : List Char) : Option (List Char) := do
  let whole ← places? 2 0 60 (cs.take 2)
  match cs.drop 2 with
  | [] => some whole
  | point :: places =>
    guard (point = '.' ∧ places ≠ [] ∧ places.all Char.isDigit)
    let kept := ((places.take 9).reverse.dropWhile (· == '0')).reverse
    return whole ++ '.' :: (if kept = [] then ['0'] else kept)

/-- A time of the day, with or without seconds. -/
def time? (cs : List Char) : Option (List Char) :=
  match cs.splitOn ':' with
  | [hour, minute] => do
    return (← places? 2 0 23 hour) ++ ':' :: (← places? 2 0 59 minute)
  | [hour, minute, second] => do
    return (← places? 2 0 23 hour) ++ ':' :: (← places? 2 0 59 minute)
      ++ ':' :: (← seconds? second)
  | _ => none

/-- The offset of a local time from coordinated universal time. No offset has the sign plus. -/
def offset? : List Char → Option (List Char)
  | [] => some []
  | [c] => if c.toUpper = 'Z' then some ['Z'] else none
  | sign :: cs =>
    match cs.splitOn ':' with
    | [hour, minute] => do
      let offset := (← places? 2 0 23 hour) ++ ':' :: (← places? 2 0 59 minute)
      return (if offset = "00:00".toList then '+' else sign) :: offset
    | _ => none

def isOffsetStart (c : Char) : Bool := c == '+' || c == '-' || c.toUpper == 'Z'

/-- A time with an offset or without. -/
def timeWithOffset? (cs : List Char) : Option (List Char) := do
  return (← time? (cs.takeWhile fun c => !isOffsetStart c))
    ++ (← offset? (cs.dropWhile fun c => !isOffsetStart c))

/-- A date, a time, or both with a mark between them. -/
def moment? (cs : List Char) : Option (List Char) :=
  match date? (cs.take 10), cs.drop 10 with
  | some date, [] => some date
  | some date, mark :: rest =>
    if mark.toUpper = 'T' ∨ mark = ' ' then (timeWithOffset? rest).map (date ++ 'T' :: ·) else none
  | none, _ => time? cs

/-- The value of a word. -/
def ofWord? (cs : List Char) : Option Scalar :=
  match String.ofList cs with
  | "true" => some (flag true)
  | "false" => some (flag false)
  | _ =>
    match whole? cs, real? cs with
    | some i, _ => some (whole i)
    | none, some x => some (real x)
    | none, none => (moment? cs).map fun text => moment (String.ofList text)

def isWordChar (c : Char) : Bool := c.isAlphanum || c == '_' || c == '-' || c == '+' || c == '.' || c == ':'

/-- Cuts off a word. A blank between a date and a time belongs to it. -/
def cut (cs : List Char) : List Char × List Char :=
  let word := cs.takeWhile isWordChar
  match cs.drop word.length with
  | ' ' :: c :: rest =>
    if (date? word).isSome ∧ c.isDigit then
      let time := (c :: rest).takeWhile isWordChar
      (word ++ ' ' :: time, (c :: rest).drop time.length)
    else (word, ' ' :: c :: rest)
  | rest => (word, rest)

end Scalar
end Mintmark.Toml
