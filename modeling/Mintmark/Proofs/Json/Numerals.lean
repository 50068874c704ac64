import Mintmark.Json.Token
import Mintmark.Proofs.Number.Finite
import Mintmark.Proofs.Text.Digits

/-!
# Numerals as they are written

Whole numbers of 64 bits are written as plain digits. A reader takes all of the digits and nothing
behind them, and does not find the number out of range.
-/

namespace Mintmark.Json

/-- What stands behind a number and is no part of it. -/
def Boundary (rest : List Char) : Prop :=
  ∀ c ∈ rest.head?, c.isDigit = false ∧ c ≠ '.' ∧ c ≠ 'e' ∧ c ≠ 'E'

theorem boundary_nil : Boundary [] := fun _ member => absurd member (by simp)

namespace Numeral

/-- The numeral is that of a whole number whose magnitude has 64 bits, as it is written. -/
structure Fitting (n : Numeral) (magnitude : Nat) : Prop where
  fits : magnitude < Number.bound64
  whole : n.whole = Text.digits 10 magnitude
  fraction : n.fraction = []
  exponent : n.exponent = none

theorem fitting_ofNat {n : Nat} (fits : n < Number.bound64) : (ofNat n).Fitting n :=
  ⟨fits, rfl, rfl, rfl⟩

theorem fitting_ofInt {i : Int} (fits : i.natAbs < Number.bound64) :
    (ofInt i).Fitting i.natAbs :=
  ⟨fits, rfl, rfl, rfl⟩

theorem natural?_ofNat (n : Nat) : (ofNat n).natural? = some n := by
  simp [natural?, isPlain, ofNat, Text.decimalValue_digits]

theorem integer?_ofInt (i : Int) : (ofInt i).integer? = some i := by
  simp only [integer?, isPlain, ofInt, Text.decimalValue_digits]
  by_cases negative : i < 0
  · have nonzero : i.natAbs ≠ 0 := by omega
    have back : -(i.natAbs : Int) = i := by omega
    simp only [negative, decide_true, if_neg nonzero, back]
    rfl
  · have back : (i.natAbs : Int) = i := by omega
    simp only [negative, decide_false, back]
    rfl

theorem text_of_fitting {n : Numeral} {magnitude : Nat} (fitting : n.Fitting magnitude) :
    n.text = (if n.negative then ['-'] else []) ++ Text.digits 10 magnitude := by
  simp [text, fitting.whole, fitting.fraction, fitting.exponent]

/-- Digits are kept as long as what they stand for has 64 bits. -/
theorem foldl_digits {step : Nat × Int → Char → Nat × Int}
    (keeps : ∀ s c, 10 * s + (c.toNat - 48) < Number.bound64 →
      step (s, 0) c = (10 * s + (c.toNat - 48), 0))
    {n : Nat} (fits : n < Number.bound64) : (Text.digits 10 n).foldl step (0, 0) = (n, 0) := by
  induction n using Text.digits_induction (by decide : 2 ≤ 10) with
  | leaf n lt =>
    have last := (Text.digit_decimal lt).2.1
    rw [Text.digits_of_lt lt, List.foldl_cons, List.foldl_nil, keeps 0 _ (by omega), last]
    simp
  | more n large ih =>
    have last := (Text.digit_decimal (Nat.mod_lt n (by decide : 0 < 10))).2.1
    have whole := Nat.div_add_mod n 10
    rw [Text.digits_of_le (by decide) large, List.foldl_append, List.foldl_cons, List.foldl_nil,
      ih (by omega), keeps _ _ (by rw [last, whole]; exact fits), last, whole]

theorem significand_of_fitting {n : Numeral} {magnitude : Nat} (fitting : n.Fitting magnitude) :
    n.significand = (magnitude, 0) := by
  simp only [significand, fitting.whole, fitting.fraction, List.foldl_nil]
  rw [foldl_digits ?_ fitting.fits]
  · rfl
  · intro s c fits
    simp only [Int.lt_irrefl, if_false, if_pos fits]

theorem isOutOfRange_of_fitting {n : Numeral} {magnitude : Nat} (fitting : n.Fitting magnitude) :
    n.isOutOfRange = false := by
  have finite := Number.Binary64.isInfinite_scale_ofNat fitting.fits
  simp only [isOutOfRange, binary64, significand_of_fitting fitting, fitting.exponent,
    Option.getD_none, Int.add_zero]
  split
  · cases scaled : (Number.Binary64.ofNat magnitude).scale 0 with
    | finite | undefined => rfl
    | infinite =>
      rw [scaled] at finite
      cases finite
  · exact finite

end Numeral

namespace Token

theorem readDigits_append {digits rest : List Char} (all : ∀ c ∈ digits, c.isDigit = true)
    (boundary : Boundary rest) : readDigits (digits ++ rest) = (digits, rest) := by
  have behind : rest.takeWhile Char.isDigit = [] ∧ rest.dropWhile Char.isDigit = rest := by
    cases rest with
    | nil => exact ⟨rfl, rfl⟩
    | cons c cs =>
      have stop := (boundary c rfl).1
      simp [stop]
  rw [readDigits, List.takeWhile_append_of_pos all, List.dropWhile_append_of_pos all, behind.1,
    behind.2, List.append_nil]

theorem readFraction?_of_boundary {rest : List Char} (boundary : Boundary rest) :
    readFraction? rest = some ([], rest) := by
  cases rest with
  | nil => rfl
  | cons c cs =>
    have stop := (boundary c rfl).2.1
    unfold readFraction?
    split
    · next eq =>
      cases eq
      exact absurd rfl stop
    · rfl

theorem readExponent?_of_boundary {rest : List Char} (boundary : Boundary rest) :
    readExponent? rest = some (none, rest) := by
  cases rest with
  | nil => rfl
  | cons c cs =>
    have stop := (boundary c rfl).2.2
    rw [readExponent?, if_neg]
    rintro (lower | upper)
    · exact stop.1 lower
    · exact stop.2 upper

theorem readNumber?_digits {magnitude : Nat} {rest : List Char} (boundary : Boundary rest)
    (negative : Bool) :
    readNumber? negative (Text.digits 10 magnitude ++ rest) =
      some ({ negative, whole := Text.digits 10 magnitude }, rest) := by
  have digits : readDigits (Text.digits 10 magnitude ++ rest) =
      (Text.digits 10 magnitude, rest) :=
    readDigits_append (fun _ => Text.isDigit_of_mem_digits) boundary
  have proper : ¬ (Text.digits 10 magnitude = [] ∨
      (Text.digits 10 magnitude).head? = some '0' ∧ (Text.digits 10 magnitude).length ≠ 1) := by
    rintro (none | ⟨zero, long⟩)
    · exact Text.digits_ne_nil _ _ none
    · rw [Text.head?_digits zero, Text.digits_of_lt (by decide)] at long
      exact long rfl
  simp only [readNumber?, digits, if_neg proper, readFraction?_of_boundary boundary,
    readExponent?_of_boundary boundary, Option.bind_eq_bind, Option.bind_some]

end Token

end Mintmark.Json
