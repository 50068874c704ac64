import Mintmark.Number.Bounds
import Mintmark.Text.Digits

/-!
# Binary floating point

Numbers of 53 significant bits, as an exact mantissa and a power of two. Each operation is carried
out exactly on whole numbers and then rounded once, to the nearest representable number, with a tie
going to the even mantissa.
-/

namespace Mintmark.Number

inductive Binary64 where
  /-- `mantissa · 2 ^ exponent`, with at most 53 bits in the mantissa -/
  | finite (negative : Bool) (mantissa : Nat) (exponent : Int)
  | infinite (negative : Bool)
  | undefined
deriving DecidableEq, Repr

/-- The whole number nearest to a fraction; of two the even one. -/
def nearestEven (num den : Nat) : Nat :=
  let quotient := num / den
  let twice := 2 * (num % den)
  if twice < den then quotient
  else if den < twice then quotient + 1
  else quotient + quotient % 2

theorem nearestEven_near {num den : Nat} (h : 0 < den) :
    2 * num ≤ 2 * den * nearestEven num den + den ∧
      2 * den * nearestEven num den ≤ 2 * num + den := by
  have split : den * (num / den) + num % den = num := Nat.div_add_mod num den
  have small : num % den < den := Nat.mod_lt _ h
  have expand : den * (num / den + 1) = den * (num / den) + den := by
    rw [Nat.mul_add, Nat.mul_one]
  simp only [nearestEven, Nat.mul_assoc]
  split
  · omega
  · split
    · omega
    · rcases Nat.mod_two_eq_zero_or_one (num / den) with even | odd
      · rw [even, Nat.add_zero]; omega
      · rw [odd]; omega

/-- `num / den · 2 ^ -exponent` as a fraction of whole numbers. -/
def shifted (num den : Nat) (exponent : Int) : Nat × Nat :=
  (num <<< (-exponent).toNat, den <<< exponent.toNat)

namespace Binary64

def minExponent : Int := -1074

def maxExponent : Int := 971

def zero (negative : Bool) : Binary64 := finite negative 0 minExponent

/-- The least mantissa of 53 bits. -/
def leastFull : Nat := 1 <<< 52

def one : Binary64 := finite false leastFull (-52)

/-- The power of two of the last bit kept of a positive fraction. -/
def lastBit (num den : Nat) : Int :=
  let guess : Int := (num.log2 : Int) - den.log2 - 52
  let (n, d) := shifted num den guess
  max minExponent (if n < leastFull * d then guess - 1 else guess)

/-- The number nearest to a fraction. -/
def ofRatio (negative : Bool) (num den : Nat) : Binary64 :=
  if num = 0 then zero negative
  else
    let exponent := lastBit num den
    let (n, d) := shifted num den exponent
    let mantissa := nearestEven n d
    let (mantissa, exponent) :=
      if mantissa = 2 * leastFull then (leastFull, exponent + 1) else (mantissa, exponent)
    if maxExponent < exponent then infinite negative else finite negative mantissa exponent

def ofNat (n : Nat) : Binary64 := ofRatio false n 1

def negate : Binary64 → Binary64
  | finite negative mantissa exponent => finite (!negative) mantissa exponent
  | infinite negative => infinite (!negative)
  | undefined => undefined

def isInfinite : Binary64 → Bool
  | infinite _ => true
  | _ => false

def isZero : Binary64 → Bool
  | finite _ mantissa _ => mantissa == 0
  | infinite _ | undefined => false

/-- A number times a fraction of whole numbers, rounded once. -/
def times (x : Binary64) (num den : Nat) : Binary64 :=
  match x with
  | finite negative mantissa exponent =>
    ofRatio negative ((mantissa * num) <<< exponent.toNat) (den <<< (-exponent).toNat)
  | x => x

/-- The magnitude of a finite number as a fraction. -/
def magnitude : Binary64 → Nat × Nat
  | finite _ mantissa exponent => (mantissa <<< exponent.toNat, 1 <<< (-exponent).toNat)
  | infinite _ | undefined => (0, 1)

def powerOfTen (k : Nat) : Binary64 := ofNat (Nat.pow 10 k)

theorem toNat_neg_add_lt {exponent : Int} (h : exponent < -308) :
    (-(exponent + 308)).toNat < (-exponent).toNat := by omega

/-- Multiplies or divides by a power of ten in steps that stay within the range of the format.
An exponent beyond it gives an infinity. -/
def scale (x : Binary64) (exponent : Int) : Binary64 :=
  if x.isZero then x
  else if 308 < exponent then infinite false
  else if _h : exponent < -308 then
    scale (x.times (powerOfTen 308).magnitude.2 (powerOfTen 308).magnitude.1) (exponent + 308)
  else if exponent < 0 then
    let (num, den) := (powerOfTen (-exponent).toNat).magnitude
    x.times den num
  else
    let (num, den) := (powerOfTen exponent.toNat).magnitude
    x.times num den
termination_by (-exponent).toNat
decreasing_by exact toNat_neg_add_lt _h

/-- The number nearest to `significand · 10 ^ exponent`. Beyond 400 places on either side of the
point the answer does not depend on the exponent any more. -/
def ofDecimal (negative : Bool) (significand : Nat) (exponent : Int) : Binary64 :=
  let places : Int := (Text.digits 10 significand).length
  if significand = 0 ∨ places + exponent < -400 then zero negative
  else if 400 < places + exponent then infinite negative
  else ofRatio negative (significand * Nat.pow 10 exponent.toNat) (Nat.pow 10 (-exponent).toNat)

/-- The nearest whole number, a half going away from zero; `none` if there is no nearest one. -/
def round? : Binary64 → Option Int
  | finite negative mantissa exponent =>
    let num := mantissa <<< exponent.toNat
    let den := 1 <<< (-exponent).toNat
    let magnitude := (2 * num + den) / (2 * den)
    some (if negative then -(magnitude : Int) else magnitude)
  | infinite _ | undefined => none

/-- Rounds into a range. What is no number becomes zero. -/
def roundWithin (least greatest : Int) : Binary64 → Int
  | infinite negative => if negative then least else greatest
  | undefined => 0
  | x => max least (min greatest (x.round?.getD 0))

end Binary64
end Mintmark.Number
