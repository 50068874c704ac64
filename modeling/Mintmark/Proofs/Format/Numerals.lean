import Mathlib.Data.Nat.Log
import Mintmark.Proofs.Format.Specifiers
import Mintmark.Raw

/-!
# Numbers under a rule

The text of a number has the digits of the radix only, is as long as the rule asks or as the number
needs, and reads back as the number. The texts under one rule are ordered as the numbers are: the
shorter first, and among those of one length by their characters.
-/

namespace Mintmark

namespace Text

/-- A number has one digit more than its logarithm, rounded down, and so has zero. -/
theorem length_digits {radix : Nat} (two : 2 ≤ radix) (n : Nat) :
    (digits radix n).length = Nat.log radix n + 1 := by
  induction n using digits_induction two with
  | leaf n lt => rw [digits_of_lt lt, Nat.log_of_lt lt, List.length_singleton]
  | more n large ih =>
    rw [digits_of_le two large, List.length_append, ih, List.length_singleton,
      Nat.log_of_one_lt_of_le two large]

end Text

namespace Format

namespace Radix

theorem two_le_base (r : Radix) : 2 ≤ r.base := by cases r <;> decide

theorem base_le (r : Radix) : r.base ≤ 36 := by cases r <;> decide

/-- The characters that stand for the digits. -/
def numerals : Radix → List Char
  | decimal => ['0', '1', '2', '3', '4', '5', '6', '7', '8', '9']
  | hexadecimal =>
    ['0', '1', '2', '3', '4', '5', '6', '7', '8', '9', 'a', 'b', 'c', 'd', 'e', 'f']

theorem digit_mem_numerals (r : Radix) {d : Nat} (lt : d < r.base) : Text.digit d ∈ r.numerals := by
  cases r with
  | decimal =>
    have all : ∀ d : Fin 10, Text.digit d ∈ decimal.numerals := by decide
    exact all ⟨d, lt⟩
  | hexadecimal =>
    have all : ∀ d : Fin 16, Text.digit d ∈ hexadecimal.numerals := by decide
    exact all ⟨d, lt⟩

end Radix

namespace NumericRule

theorem mem_numerals_of_mem_text {rule : NumericRule} {n : Nat} {c : Char}
    (member : c ∈ rule.text n) : c ∈ rule.radix.numerals := by
  rw [text, Text.zeroPadded_eq] at member
  rcases List.mem_append.mp member with zero | proper
  · rw [List.eq_of_mem_replicate zero]
    cases rule.radix <;> exact List.mem_cons_self
  · obtain ⟨d, lt, rfl⟩ := Text.exists_of_mem_digits rule.radix.two_le_base proper
    exact rule.radix.digit_mem_numerals lt

theorem readDigits?_text (rule : NumericRule) (n : Nat) :
    Text.readDigits? rule.radix.base (rule.text n) = some n :=
  Text.readDigits?_zeroPadded rule.radix.two_le_base rule.radix.base_le _ n

theorem text_injective (rule : NumericRule) {n m : Nat} (eq : rule.text n = rule.text m) : n = m :=
  Text.zeroPadded_digits_injective rule.radix.two_le_base rule.radix.base_le eq

theorem length_text_mono (rule : NumericRule) {n m : Nat} (le : n ≤ m) :
    (rule.text n).length ≤ (rule.text m).length := by
  have digits := Text.length_digits_mono rule.radix.two_le_base le
  simp only [text, Text.length_zeroPadded]
  omega

theorem length_text_of_parse {cs : List Char} {rule : NumericRule} (parsed : parse cs = .ok rule)
    (n : Nat) : (rule.text n).length = max rule.width (Nat.log rule.radix.base n + 1) := by
  rw [text, Text.length_zeroPadded, Text.length_digits rule.radix.two_le_base]
  obtain ⟨-, rfl⟩ | ⟨radix, width, -, rfl⟩ := eq_of_parse parsed
  · rfl
  · rfl

/-- Numbers that fit the width fill it. -/
theorem length_text {cs : List Char} {rule : NumericRule} (parsed : parse cs = .ok rule)
    {limit n : Nat} (fits : (Text.digits rule.radix.base limit).length ≤ rule.width)
    (le : n ≤ limit) : (rule.text n).length = rule.width := by
  have fewer := Text.length_digits_mono rule.radix.two_le_base le
  rw [length_text_of_parse parsed, ← Text.length_digits rule.radix.two_le_base]
  exact Nat.max_eq_left (Nat.le_trans fewer fits)

theorem text_lt_text (rule : NumericRule) {n m : Nat} (lt : n < m) :
    (rule.text n).length < (rule.text m).length ∨
      (rule.text n).length = (rule.text m).length ∧ rule.text n < rule.text m := by
  rcases Nat.lt_or_eq_of_le (rule.length_text_mono (Nat.le_of_lt lt)) with shorter | even
  · exact .inl shorter
  · exact .inr ⟨even, Text.lt_of_readDigits? even (rule.readDigits?_text n)
      (rule.readDigits?_text m) lt⟩

end NumericRule
end Format

open Format

namespace Raw

/-- Under the rule of any accepted specifier: the text has digits of the radix only, as many as the
width asks for or the number needs, and reads back as the number. A smaller number has a shorter
text, or one as long that comes before. So no two numbers have one text. -/
theorem number_texts_padded_lossless_ordered {kind : Kind} (numeric : kind.isNumeric = true)
    {s : String} {rule : Rule} (compiled : Rule.compile kind s = .ok rule) :
    ∃ r : NumericRule, rule = .numeric r ∧
      (∀ n, (∀ c ∈ ((number n).render rule).toList, c ∈ r.radix.numerals) ∧
        ((number n).render rule).length = max r.width (Nat.log r.radix.base n + 1) ∧
        Text.readDigits? r.radix.base ((number n).render rule).toList = some n) ∧
      (∀ n m, n < m → ((number n).render rule).length < ((number m).render rule).length ∨
        ((number n).render rule).length = ((number m).render rule).length ∧
          (number n).render rule < (number m).render rule) ∧
      ∀ n m, n ≠ m → (number n).render rule ≠ (number m).render rule := by
  obtain ⟨r, rfl, parsed⟩ := Rule.exists_numeric_of_compile numeric compiled
  have render (n : Nat) : (number n).render (.numeric r) = String.ofList (r.text n) := rfl
  simp only [render, String.toList_ofList, String.length_ofList, String.lt_iff]
  refine ⟨r, rfl, fun n => ⟨?_, ?_, ?_⟩, fun n m lt => ?_, fun n m other same => ?_⟩
  · exact fun c member => NumericRule.mem_numerals_of_mem_text member
  · exact NumericRule.length_text_of_parse parsed n
  · exact r.readDigits?_text n
  · exact r.text_lt_text lt
  · exact other (r.text_injective (String.ofList_injective same))

/-- Three hexadecimal places hold 4095 and not 4096, which goes beyond them. -/
theorem three_places_hold_4095 :
    Kind.sequence.isNumeric = true ∧
    Rule.compile .sequence "X3" = .ok (.numeric ⟨.hexadecimal, 3, true⟩) ∧ 7 < 4095 ∧
    ((number 4095).render (.numeric ⟨.hexadecimal, 3, true⟩)).length = 3 ∧
    ((number 4096).render (.numeric ⟨.hexadecimal, 3, true⟩)).length = 4 ∧
    (number 7).render (.numeric ⟨.hexadecimal, 3, true⟩) <
      (number 4095).render (.numeric ⟨.hexadecimal, 3, true⟩) ∧
    4095 ≠ 4096 ∧ (number 4095).render (.numeric ⟨.hexadecimal, 3, true⟩) ≠
      (number 4096).render (.numeric ⟨.hexadecimal, 3, true⟩) := by
  have compiled : Rule.compile .sequence "X3" = .ok (.numeric ⟨.hexadecimal, 3, true⟩) := by decide
  obtain ⟨r, same, padded, ordered, distinct⟩ := number_texts_padded_lossless_ordered rfl compiled
  cases same
  have seven := (padded 7).2.1.trans (show _ = 3 by decide)
  have full := (padded 4095).2.1.trans (show _ = 3 by decide)
  have beyond := (padded 4096).2.1.trans (show _ = 4 by decide)
  refine ⟨rfl, compiled, by decide, full, beyond, ?_, by decide, distinct 4095 4096 (by decide)⟩
  rcases ordered 7 4095 (by decide) with shorter | ⟨-, before⟩
  · rw [seven, full] at shorter
    exact absurd shorter (by decide)
  · exact before

end Raw
end Mintmark
