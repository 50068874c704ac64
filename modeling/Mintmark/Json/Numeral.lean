import Mintmark.Number.Binary64

/-!
# Numerals

Numbers as a JSON text writes them. Only a plain run of digits counts as an integer; a numeral with
a point, an exponent or a minus before a zero stands for a binary floating point number.
-/

namespace Mintmark.Json

structure Numeral where
  negative : Bool := false
  /-- the digits before the point -/
  whole : List Char
  /-- the digits after the point, if there is one -/
  fraction : List Char := []
  exponent : Option Int := none
deriving DecidableEq, Repr

namespace Numeral

def ofNat (n : Nat) : Numeral := { whole := Text.digits 10 n }

def ofInt (i : Int) : Numeral := { negative := i < 0, whole := Text.digits 10 i.natAbs }

def isPlain (n : Numeral) : Bool := n.fraction.isEmpty && n.exponent.isNone

def natural? (n : Numeral) : Option Nat :=
  if n.isPlain && !n.negative then some (Text.decimalValue n.whole) else none

def integer? (n : Numeral) : Option Int :=
  let magnitude := Text.decimalValue n.whole
  if !n.isPlain then none
  else if !n.negative then some magnitude
  else if magnitude = 0 then none
  else some (-magnitude)

/-- Leading digits as far as they fit 64 bits, and the power of ten of the last one kept. Digits
before the point that are left out raise the power; those after it are dropped. -/
def significand (n : Numeral) : Nat × Int :=
  let fits (s : Nat) (c : Char) : Option Nat :=
    let s := 10 * s + (c.toNat - 48)
    if s < Number.bound64 then some s else none
  let (s, left) := n.whole.foldl (fun (s, left) c =>
    if 0 < left then (s, left + 1)
    else match fits s c with
      | some s => (s, left)
      | none => (s, left + 1)) (0, 0)
  let (s, places, _) := n.fraction.foldl (fun (s, places, full) c =>
    if full then (s, places, true)
    else match fits s c with
      | some s => (s, places + 1, false)
      | none => (s, places, true)) (s, 0, false)
  (s, (left : Int) - (places : Nat))

/-- The number a numeral stands for, rounded at each step of its scaling. -/
def binary64 (n : Numeral) : Number.Binary64 :=
  let (s, power) := n.significand
  let x := (Number.Binary64.ofNat s).scale (power + n.exponent.getD 0)
  if n.negative then x.negate else x

/-- A number too great for the format. -/
def isOutOfRange (n : Numeral) : Bool := n.binary64.isInfinite

def text (n : Numeral) : List Char :=
  (if n.negative then ['-'] else []) ++ n.whole
    ++ (if n.fraction.isEmpty then [] else '.' :: n.fraction)
    ++ match n.exponent with
      | none => []
      | some e => 'e' :: (if e < 0 then ['-'] else []) ++ Text.digits 10 e.natAbs

end Numeral
end Mintmark.Json
