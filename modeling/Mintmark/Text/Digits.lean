import Mintmark.Number.Bounds

/-!
# Positional numerals

Numbers as digit characters, and back. The digits above nine are lower-case letters.
-/

namespace Mintmark.Text

def digit (d : Nat) : Char := if d < 10 then Char.ofNat (48 + d) else Char.ofNat (87 + d)

/-- The digits of a number, most significant first, without leading zeros. -/
def digits (radix n : Nat) : List Char :=
  if _h : radix < 2 ∨ n < radix then [digit n] else digits radix (n / radix) ++ [digit (n % radix)]
termination_by n
decreasing_by
  have : 2 ≤ radix ∧ radix ≤ n := by omega
  exact Nat.div_lt_self (by omega) (by omega)

theorem digits_ne_nil (radix n : Nat) : digits radix n ≠ [] := by
  unfold digits; split <;> simp

/-- The value of a digit, as far as it is one. -/
def digitValue? (radix : Nat) (c : Char) : Option Nat :=
  let v := if '0' ≤ c ∧ c ≤ '9' then c.toNat - 48
    else if 'a' ≤ c ∧ c ≤ 'z' then c.toNat - 87 else radix
  if v < radix then some v else none

/-- Reads digits; nothing else may stand among them. -/
def readDigits? (radix : Nat) (cs : List Char) : Option Nat :=
  if cs = [] then none
  else cs.foldlM (fun acc c => (digitValue? radix c).map (radix * acc + ·)) 0

/-- The decimal text of an integer. -/
def ofInt (i : Int) : String :=
  String.ofList ((if i < 0 then ['-'] else []) ++ digits 10 i.natAbs)

/-- A decimal number with or without a plus sign in front. -/
def readNatural? : List Char → Option Nat
  | '+' :: cs => readDigits? 10 cs
  | cs => readDigits? 10 cs

/-- A decimal integer of 64 bits with or without a sign in front. -/
def readInt64? (cs : List Char) : Option Int :=
  let value? : Option Int := match cs with
    | '-' :: cs => (readDigits? 10 cs).map fun n => -(n : Int)
    | cs => (readNatural? cs).map fun n => (n : Int)
  value?.filter Number.fits64

/-- The value of ASCII decimal digits. -/
def decimalValue (cs : List Char) : Nat := cs.foldl (fun acc c => 10 * acc + (c.toNat - 48)) 0

/-- One more decimal digit behind a number of 64 bits, if the result still is one. -/
def takeDecimal? (acc : Nat) (c : Char) : Option Nat :=
  let next := 10 * acc + (c.toNat - 48)
  if next < Number.bound64 then some next else none

/-- ASCII decimal digits as a number of 64 bits. The reader stops as soon as it would overflow. -/
def readWord? (cs : List Char) : Option Nat := cs.foldlM takeDecimal? 0

/-- Hexadecimal digits in either case. -/
def hexValue? (c : Char) : Option Nat := digitValue? 16 c.toLower

def zeroPadded (width : Nat) (cs : List Char) : List Char := cs.leftpad width '0'

theorem length_zeroPadded (width : Nat) (cs : List Char) :
    (zeroPadded width cs).length = max width cs.length := by
  simp [zeroPadded, List.leftpad]; omega

def twoDigits (n : Nat) : List Char := zeroPadded 2 (digits 10 n)

end Mintmark.Text
