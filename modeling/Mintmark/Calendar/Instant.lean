import Mintmark.Calendar.Date
import Mintmark.Text.Digits

/-!
# Instants

Moments in coordinated universal time, as whole seconds since the start of 1970 and nanoseconds. A
leap second shares its whole second with the second before and has at least 10⁹ nanoseconds.
-/

namespace Mintmark

structure Instant where
  seconds : Int
  nanos : Nat := 0
deriving DecidableEq, Repr

namespace Instant

def date (t : Instant) : Date := Date.ofDays (t.seconds / 86400)

def secondOfDay (t : Instant) : Nat := (t.seconds % 86400).toNat

def hour (t : Instant) : Nat := t.secondOfDay / 3600

def minute (t : Instant) : Nat := t.secondOfDay / 60 % 60

def second (t : Instant) : Nat := t.secondOfDay % 60

theorem hour_lt (t : Instant) : t.hour < 24 := by
  have : t.secondOfDay < 86400 := by unfold secondOfDay; omega
  unfold hour; omega

theorem minute_lt (t : Instant) : t.minute < 60 := Nat.mod_lt _ (by decide)

theorem second_lt (t : Instant) : t.second < 60 := Nat.mod_lt _ (by decide)

/-- Milliseconds since the start of 1970. -/
def millis (t : Instant) : Int := t.seconds * 1000 + (t.nanos / 1000000 : Nat)

/-- A sign for every year outside 0 to 9999, and at least four digits. -/
def yearText (year : Int) : List Char :=
  let places := Text.zeroPadded 4 (Text.digits 10 year.natAbs)
  if year < 0 then '-' :: places else if 9999 < year then '+' :: places else places

/-- Nothing, or as many groups of three places as are needed. -/
def fractionText (nanos : Nat) : List Char :=
  if nanos = 0 then []
  else if nanos % 1000000 = 0 then '.' :: Text.zeroPadded 3 (Text.digits 10 (nanos / 1000000))
  else if nanos % 1000 = 0 then '.' :: Text.zeroPadded 6 (Text.digits 10 (nanos / 1000))
  else '.' :: Text.zeroPadded 9 (Text.digits 10 nanos)

/-- The RFC 3339 text, with the offset of coordinated universal time in digits. -/
def rfc3339 (t : Instant) : String :=
  let second := t.second + t.nanos / 1000000000
  String.ofList <|
    yearText t.date.year ++ '-' :: Text.twoDigits t.date.month ++ '-' :: Text.twoDigits t.date.day
      ++ 'T' :: Text.twoDigits t.hour ++ ':' :: Text.twoDigits t.minute
      ++ ':' :: Text.twoDigits second ++ fractionText (t.nanos % 1000000000) ++ "+00:00".toList

/-- Reads a fixed number of decimal digits. -/
def readPlaces? (count : Nat) (cs : List Char) : Option (Nat × List Char) :=
  let places := cs.take count
  if places.length = count ∧ places.all Char.isDigit then
    some (Text.decimalValue places, cs.drop count)
  else none

def readMark? (mark : Char → Bool) : List Char → Option (List Char)
  | c :: rest => if mark c then some rest else none
  | [] => none

/-- The offset from coordinated universal time, in seconds. -/
def readOffset? : List Char → Option Int
  | [c] => if c == 'Z' || c == 'z' then some 0 else none
  | sign :: rest => do
    let (hours, rest) ← readPlaces? 2 rest
    let rest ← readMark? (· == ':') rest
    let (minutes, rest) ← readPlaces? 2 rest
    guard (rest = [] ∧ hours < 24 ∧ minutes < 60)
    match sign with
    | '+' => some (hours * 3600 + minutes * 60 : Nat)
    | '-' => some (-(hours * 3600 + minutes * 60 : Nat))
    | _ => none
  | [] => none

/-- The places after the point, as nanoseconds; places beyond the ninth are dropped. -/
def readFraction? : List Char → Option (Nat × List Char)
  | '.' :: rest =>
    let places := rest.takeWhile Char.isDigit
    if places = [] then none
    else some (Text.decimalValue ((places ++ List.replicate 9 '0').take 9),
      rest.dropWhile Char.isDigit)
  | rest => some (0, rest)

/-- Reads the RFC 3339 text of an instant with a four-digit year. -/
def ofRfc3339? (text : String) : Option Instant := do
  let dash := readMark? (· == '-')
  let colon := readMark? (· == ':')
  let (year, rest) ← readPlaces? 4 text.toList
  let (month, rest) ← readPlaces? 2 (← dash rest)
  let (day, rest) ← readPlaces? 2 (← dash rest)
  let rest ← readMark? (fun c => c == 'T' || c == 't' || c == ' ') rest
  let (hour, rest) ← readPlaces? 2 rest
  let (minute, rest) ← readPlaces? 2 (← colon rest)
  let (second, rest) ← readPlaces? 2 (← colon rest)
  let (nanos, rest) ← readFraction? rest
  let offset ← readOffset? rest
  guard (1 ≤ month ∧ month ≤ 12 ∧ 1 ≤ day ∧ day ≤ Date.daysInMonth year month)
  guard (hour < 24 ∧ minute < 60 ∧ second ≤ 60)
  let days := (Date.mk year month day).toDays
  some
    { seconds := days * 86400 + (hour * 3600 + minute * 60 + min second 59 : Nat) - offset
      nanos := if second = 60 then 1000000000 + nanos else nanos }

end Instant
end Mintmark
