import Mintmark.Number.Shortest
import Mintmark.Proofs.Text.Digits

/-!
# Characters of numbers

Numbers are written with letters and digits, a minus sign and a point.
-/

namespace Mintmark.Number

def isNumberChar (c : Char) : Bool := c.isAlphanum || c == '-' || c == '.'

theorem isNumberChar_of_isDigit {c : Char} (digit : c.isDigit = true) : isNumberChar c = true := by
  rw [isNumberChar, Char.isAlphanum, digit, Bool.or_true, Bool.true_or, Bool.true_or]

theorem isNumberChar_of_mem_digits {n : Nat} {c : Char} (member : c ∈ Text.digits 10 n) :
    isNumberChar c = true :=
  isNumberChar_of_isDigit (Text.isDigit_of_mem_digits member)

theorem isNumberChar_of_mem_zeros {count : Nat} {c : Char} (member : c ∈ List.replicate count '0') :
    isNumberChar c = true := by
  rw [List.eq_of_mem_replicate member]
  decide

theorem isNumberChar_of_mem_zeroPadded {width n : Nat} {c : Char}
    (member : c ∈ Text.zeroPadded width (Text.digits 10 n)) : isNumberChar c = true := by
  rw [Text.zeroPadded_eq] at member
  rcases List.mem_append.mp member with zero | proper
  · exact isNumberChar_of_mem_zeros zero
  · exact isNumberChar_of_mem_digits proper

theorem isNumberChar_of_mem_ofInt {i : Int} {c : Char} (member : c ∈ (Text.ofInt i).toList) :
    isNumberChar c = true := by
  rw [Text.ofInt, String.toList_ofList] at member
  rcases List.mem_append.mp member with sign | proper
  · split at sign
    · cases List.mem_singleton.mp sign
      decide
    · cases sign
  · exact isNumberChar_of_mem_digits proper

theorem isNumberChar_of_mem_positional {n : Nat} {power : Int} {c : Char}
    (member : c ∈ positional n power) : isNumberChar c = true := by
  unfold positional at member
  split at member
  · rcases List.mem_append.mp member with proper | zero
    · exact isNumberChar_of_mem_digits proper
    · exact isNumberChar_of_mem_zeros zero
  · rcases List.mem_append.mp member with whole | rest
    · exact isNumberChar_of_mem_zeroPadded (List.mem_of_mem_take whole)
    · rcases List.mem_cons.mp rest with rfl | fraction
      · decide
      · exact isNumberChar_of_mem_zeroPadded (List.mem_of_mem_drop fraction)

theorem isNumberChar_of_mem_text {x : Binary64} {c : Char} (member : c ∈ x.text.toList) :
    isNumberChar c = true := by
  cases x with
  | finite negative mantissa exponent =>
    have signs : (if negative then "-" else "").toList.all isNumberChar = true := by
      cases negative <;> decide
    unfold Binary64.text at member
    dsimp only at member
    split at member <;> rw [String.toList_append] at member <;>
      rcases List.mem_append.mp member with sign | proper
    · exact List.all_eq_true.mp signs c sign
    · have zero : "0".toList.all isNumberChar = true := by decide
      exact List.all_eq_true.mp zero c proper
    · exact List.all_eq_true.mp signs c sign
    · rw [String.toList_ofList] at proper
      exact isNumberChar_of_mem_positional proper
  | infinite negative =>
    have word : (Binary64.infinite negative).text.toList.all isNumberChar = true := by
      cases negative <;> decide
    exact List.all_eq_true.mp word c member
  | undefined =>
    have word : Binary64.undefined.text.toList.all isNumberChar = true := by decide
    exact List.all_eq_true.mp word c member

end Mintmark.Number
