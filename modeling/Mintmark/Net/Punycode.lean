import Mintmark.Number.Bounds

/-!
# Punycode

A label with letters outside ASCII is written in ASCII: first its ASCII characters, and behind the
last hyphen numbers that say which other characters to put in and where. The digits of a number are
letters and digits, the least first, and the last one of them is below its threshold, which adapts
to the numbers before. Every number has to fit 32 bits.
-/

namespace Mintmark.Net.Punycode

def digit? (c : Char) : Option Nat :=
  if 'a' ≤ c ∧ c ≤ 'z' then some (c.toNat - 97)
  else if '0' ≤ c ∧ c ≤ '9' then some (c.toNat - 22)
  else none

/-- The radix of the digits; places are counted in steps of it. -/
def radix : Nat := 36

def threshold (place bias : Nat) : Nat :=
  if place ≤ bias then 1 else if bias + 26 ≤ place then 26 else place - bias

theorem one_le_threshold (place bias : Nat) : 1 ≤ threshold place bias := by
  unfold threshold; split
  · omega
  · split <;> omega

theorem threshold_lt_radix (place bias : Nat) : threshold place bias < radix := by
  unfold threshold radix; split
  · omega
  · split <;> omega

/-- Divides a difference until it is small, and counts the steps. -/
def shrink (delta steps : Nat) : Nat × Nat :=
  if 455 < delta then shrink (delta / 35) (steps + 1) else (delta, steps)
termination_by delta
decreasing_by exact Nat.div_lt_self (by omega) (by omega)

/-- The bias after a number, from how much it added and how many characters there are now. -/
def adapt (delta count : Nat) (isFirst : Bool) : Nat :=
  let delta := if isFirst then delta / 700 else delta / 2
  let (delta, steps) := shrink (delta + delta / count) 0
  radix * steps + radix * delta / (delta + 38)

/-- A label part way through. -/
structure Progress where
  output : List Char
  /-- the last character that was put in -/
  code : Nat := 128
  bias : Nat := 72
  /-- where the number that is read started to count -/
  start : Nat := 0
  /-- the number so far -/
  position : Nat := 0
  place : Nat := radix
  weight : Nat := 1

namespace Progress

/-- Puts in the character that a number stands for. -/
def insert? (p : Progress) (position : Nat) : Option Progress :=
  let count := p.output.length + 1
  let code := p.code + position / count
  if code < 0xD800 ∨ (0xDFFF < code ∧ code < 0x110000) then
    some
      { output := p.output.insertIdx (position % count) (Char.ofNat code), code
        bias := adapt (position - p.start) count (p.start = 0)
        start := position % count + 1, position := position % count + 1 }
  else none

def take? (p : Progress) (c : Char) : Option Progress := do
  let digit ← digit? c
  let position := p.position + digit * p.weight
  let threshold := threshold p.place p.bias
  let weight := p.weight * (radix - threshold)
  guard (position < Number.bound32)
  if digit < threshold then p.insert? position
  else
    guard (weight < Number.bound32)
    return { p with position, weight, place := p.place + radix }

end Progress

/-- The ASCII characters of a label and the digits behind them. A hyphen at the start divides
nothing. -/
def split? (cs : List Char) : Option (List Char × List Char) :=
  let digits := (cs.reverse.takeWhile (· != '-')).reverse
  match cs.reverse.dropWhile (· != '-') with
  | [] => some ([], digits)
  | [_] => none
  | _ :: before => some (before.reverse, digits)

/-- The label that some text stands for. -/
def decode? (cs : List Char) : Option (List Char) := do
  let (output, digits) ← split? cs
  let p ← digits.foldlM Progress.take? { output }
  guard (p.place = radix)
  return p.output

end Mintmark.Net.Punycode
