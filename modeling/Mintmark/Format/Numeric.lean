import Mintmark.Problem
import Mintmark.Text.Digits
import Mintmark.Text.Letter

/-!
# Numeric rules

A numeric specifier is empty or a radix letter followed by a width from 1 to 64. Numbers are padded
with zeros up to the width and never cut.
-/

namespace Mintmark.Format

inductive Radix where
  | decimal
  | hexadecimal
deriving DecidableEq, Repr

namespace Radix

def base : Radix → Nat
  | decimal => 10
  | hexadecimal => 16

def letter : Radix → Char
  | decimal => 'D'
  | hexadecimal => 'X'

def ofLetter? : Char → Option Radix
  | 'D' => some decimal
  | 'X' => some hexadecimal
  | _ => none

theorem ofLetter?_letter (r : Radix) : ofLetter? r.letter = some r := by cases r <;> rfl

end Radix

structure NumericRule where
  radix : Radix
  /-- the fewest characters to write -/
  width : Nat
  zeroPad : Bool
deriving DecidableEq, Repr

namespace NumericRule

/-- Plain decimal, no wider than the number. -/
def natural : NumericRule := ⟨.decimal, 0, false⟩

def maxWidth : Nat := 64

/-- The width that some digits stand for. Leading zeros are allowed, however many. -/
def parseWidth (cs : List Char) : Except FormatFault Nat :=
  if cs = [] then .error .missingWidth
  else if !cs.all Char.isDigit then .error .widthNotNumeric
  else
    match Text.readWord? cs with
    | none => .error (.widthTooLarge maxWidth)
    | some width =>
      if width = 0 then .error .zeroWidth
      else if maxWidth < width then .error (.widthTooLarge maxWidth)
      else .ok width

def parse : List Char → Except FormatFault NumericRule
  | [] => .ok natural
  | letter :: cs =>
    match Radix.ofLetter? letter with
    | some radix => (parseWidth cs).map fun width => ⟨radix, width, true⟩
    | none => .error (if Text.isLetter letter then .unknownRadix letter else .missingRadix)

/-- A number under the rule. -/
def text (rule : NumericRule) (n : Nat) : List Char :=
  Text.zeroPadded (if rule.zeroPad then rule.width else 0) (Text.digits rule.radix.base n)

theorem text_natural (n : Nat) : natural.text n = Text.digits 10 n := by
  simp [text, natural, Text.zeroPadded, List.leftpad, Radix.base]

end NumericRule
end Mintmark.Format
