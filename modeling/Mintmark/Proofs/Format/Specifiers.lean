import Mintmark.Format.Rule
import Mintmark.Proofs.Text.Digits

/-!
# What numeric specifiers are accepted

The grammar of numeric specifiers, said without the compiler: nothing at all, or a radix letter and
a width from 1 to 64 in decimal digits. The width is read into 64 bits. The reader stops before it
would overflow, so that no number of digits comes round to a width again.
-/

namespace Mintmark.Format

theorem Radix.letter_of_ofLetter? {c : Char} {radix : Radix} (found : ofLetter? c = some radix) :
    c = radix.letter := by
  unfold ofLetter? at found
  split at found <;> cases found <;> rfl

namespace NumericRule

/-- A radix letter, then one or more decimal digits that stand for a width from 1 to 64. -/
def Specifies (radix : Radix) (width : Nat) (cs : List Char) : Prop :=
  ∃ digits, cs = radix.letter :: digits ∧ digits ≠ [] ∧ (∀ c ∈ digits, '0' ≤ c ∧ c ≤ '9') ∧
    Text.decimalValue digits = width ∧ 1 ≤ width ∧ width ≤ 64

theorem all_isDigit_iff {cs : List Char} :
    cs.all Char.isDigit = true ↔ ∀ c ∈ cs, '0' ≤ c ∧ c ≤ '9' := by
  simp only [List.all_eq_true, Char.isDigit, Bool.and_eq_true, decide_eq_true_eq]
  rfl

/-- Of digits only the value counts, and a value beyond 64 bits is one that is too large. -/
theorem parseWidth_of_digits {cs : List Char} (some : cs ≠ [])
    (digits : cs.all Char.isDigit = true) :
    parseWidth cs =
      if Text.decimalValue cs = 0 then .error .zeroWidth
      else if maxWidth < Text.decimalValue cs then .error (.widthTooLarge maxWidth)
      else .ok (Text.decimalValue cs) := by
  rw [parseWidth, if_neg some, digits, Text.readWord?_eq]
  by_cases fits : Text.decimalValue cs < Number.bound64
  · rw [if_pos fits]
    rfl
  · -- the reader gives nothing, and the value is far beyond the greatest width
    have beyond : 2 ^ 64 ≤ Text.decimalValue cs := Nat.not_lt.mp fits
    have large : maxWidth < Text.decimalValue cs := Nat.lt_of_lt_of_le (by decide) beyond
    rw [if_neg fits, if_neg (Nat.ne_zero_of_lt large), if_pos large]
    rfl

theorem parseWidth_eq_ok_iff {cs : List Char} {width : Nat} :
    parseWidth cs = .ok width ↔ cs ≠ [] ∧ (∀ c ∈ cs, '0' ≤ c ∧ c ≤ '9') ∧
      Text.decimalValue cs = width ∧ 1 ≤ width ∧ width ≤ 64 := by
  rw [← all_isDigit_iff]
  constructor
  · intro parsed
    have some : cs ≠ [] := by
      rintro rfl
      cases parsed
    have digits : cs.all Char.isDigit = true := by
      cases all : cs.all Char.isDigit with
      | true => rfl
      | false =>
        rw [parseWidth, if_neg some, all] at parsed
        cases parsed
    rw [parseWidth_of_digits some digits] at parsed
    split at parsed
    · cases parsed
    · next positive =>
      split at parsed
      · cases parsed
      · next small =>
        cases parsed
        exact ⟨some, digits, rfl, Nat.one_le_iff_ne_zero.mpr positive, Nat.not_lt.mp small⟩
  · rintro ⟨some, digits, rfl, positive, small⟩
    rw [parseWidth_of_digits some digits, if_neg (by omega), if_neg (by rw [maxWidth]; omega)]

/-- What is accepted follows the grammar, and gives the rule that it asks for. -/
theorem eq_of_parse {cs : List Char} {rule : NumericRule} (parsed : parse cs = .ok rule) :
    (cs = [] ∧ rule = natural) ∨
      ∃ radix width, Specifies radix width cs ∧ rule = ⟨radix, width, true⟩ := by
  unfold parse at parsed
  cases cs with
  | nil =>
    cases parsed
    exact .inl ⟨rfl, rfl⟩
  | cons letter digits =>
    dsimp only at parsed
    cases found : Radix.ofLetter? letter with
    | none =>
      rw [found] at parsed
      cases parsed
    | some radix =>
      rw [found] at parsed
      cases read : parseWidth digits with
      | error fault =>
        rw [read] at parsed
        cases parsed
      | ok width =>
        rw [read] at parsed
        cases parsed
        have letter := Radix.letter_of_ofLetter? found
        exact .inr ⟨radix, width, ⟨digits, by rw [letter], parseWidth_eq_ok_iff.mp read⟩, rfl⟩

theorem parse_of_specifies {radix : Radix} {width : Nat} {cs : List Char}
    (specifies : Specifies radix width cs) : parse cs = .ok ⟨radix, width, true⟩ := by
  obtain ⟨digits, rfl, grammar⟩ := specifies
  rw [parse, Radix.ofLetter?_letter]
  dsimp only
  rw [parseWidth_eq_ok_iff.mpr grammar]
  rfl

theorem parse_eq_natural_iff {cs : List Char} : parse cs = .ok natural ↔ cs = [] := by
  constructor
  · intro parsed
    obtain ⟨empty, -⟩ | ⟨radix, width, -, padded⟩ := eq_of_parse parsed
    · exact empty
    · cases padded
  · rintro rfl
    rfl

theorem parse_eq_padded_iff {radix : Radix} {width : Nat} {cs : List Char} :
    parse cs = .ok ⟨radix, width, true⟩ ↔ Specifies radix width cs := by
  refine ⟨fun parsed => ?_, parse_of_specifies⟩
  obtain ⟨-, natural⟩ | ⟨_, _, specifies, padded⟩ := eq_of_parse parsed
  · cases natural
  · cases padded
    exact specifies

/-- All else is refused. -/
theorem exists_fault_iff {cs : List Char} :
    (∃ fault, parse cs = .error fault) ↔
      cs ≠ [] ∧ ∀ radix width, ¬ Specifies radix width cs := by
  constructor
  · rintro ⟨fault, refused⟩
    refine ⟨?_, fun radix width specifies => ?_⟩
    · rintro rfl
      cases refused
    · cases refused.symm.trans (parse_of_specifies specifies)
  · rintro ⟨some, foreign⟩
    cases parsed : parse cs with
    | error fault => exact ⟨fault, rfl⟩
    | ok rule =>
      obtain ⟨empty, -⟩ | ⟨radix, width, specifies, -⟩ := eq_of_parse parsed
      · exact absurd empty some
      · exact absurd specifies (foreign radix width)

end NumericRule

namespace Rule

theorem compile_of_isNumeric {kind : Kind} (numeric : kind.isNumeric = true) (specifier : String) :
    compile kind specifier =
      ((NumericRule.parse specifier.toList).map Rule.numeric).mapError (.badFormat specifier) := by
  cases kind with
  | fixedText | guid | dateTime => cases numeric
  | random6Digit | random9Digit | random20Bit | random32Bit | sequence => rfl

/-- Kinds of numbers have numeric rules and no others. -/
theorem exists_numeric_of_compile {kind : Kind} (numeric : kind.isNumeric = true)
    {specifier : String} {rule : Rule} (compiled : compile kind specifier = .ok rule) :
    ∃ r, rule = .numeric r ∧ NumericRule.parse specifier.toList = .ok r := by
  rw [compile_of_isNumeric numeric] at compiled
  cases parsed : NumericRule.parse specifier.toList with
  | error fault =>
    rw [parsed] at compiled
    cases compiled
  | ok r =>
    rw [parsed] at compiled
    cases compiled
    exact ⟨r, rfl, rfl⟩

theorem compile_eq_ok_iff {kind : Kind} (numeric : kind.isNumeric = true) {specifier : String}
    {rule : NumericRule} :
    compile kind specifier = .ok (.numeric rule) ↔
      NumericRule.parse specifier.toList = .ok rule := by
  constructor
  · intro compiled
    obtain ⟨r, same, parsed⟩ := exists_numeric_of_compile numeric compiled
    cases same
    exact parsed
  · intro parsed
    rw [compile_of_isNumeric numeric, parsed]
    rfl

theorem compile_eq_error_iff {kind : Kind} (numeric : kind.isNumeric = true) {specifier : String} :
    (∃ fault, compile kind specifier = .error (.badFormat specifier fault)) ↔
      ∃ fault, NumericRule.parse specifier.toList = .error fault := by
  rw [compile_of_isNumeric numeric]
  cases NumericRule.parse specifier.toList with
  | error fault => exact ⟨fun _ => ⟨fault, rfl⟩, fun _ => ⟨fault, rfl⟩⟩
  | ok rule => exact ⟨nofun, nofun⟩

/-- For every kind of number: the empty specifier stands for plain decimal, a radix letter and a
width from 1 to 64 in decimal digits for zeros up to that width, and all other texts are refused by
name. -/
theorem numeric_specifiers_follow_grammar {kind : Kind} (numeric : kind.isNumeric = true)
    (s : String) :
    (compile kind s = .ok (.numeric .natural) ↔ s = "") ∧
    (∀ radix width, compile kind s = .ok (.numeric ⟨radix, width, true⟩) ↔
      NumericRule.Specifies radix width s.toList) ∧
    ((∃ fault, compile kind s = .error (.badFormat s fault)) ↔
      s ≠ "" ∧ ∀ radix width, ¬ NumericRule.Specifies radix width s.toList) := by
  refine ⟨?_, fun radix width => ?_, ?_⟩
  · rw [compile_eq_ok_iff numeric, NumericRule.parse_eq_natural_iff, String.toList_eq_nil_iff]
  · rw [compile_eq_ok_iff numeric, NumericRule.parse_eq_padded_iff]
  · rw [compile_eq_error_iff numeric, NumericRule.exists_fault_iff, ne_eq,
      String.toList_eq_nil_iff]

/-- Leading zeros are no part of a width, and 2^64 + 1, which is 1 in 64 bits, is none. -/
theorem widths_beyond_64_bits_refused :
    Kind.sequence.isNumeric = true ∧
    compile .sequence "X0000064" = .ok (.numeric ⟨.hexadecimal, 64, true⟩) ∧
    ∃ fault, compile .sequence "D18446744073709551617" =
      .error (.badFormat "D18446744073709551617" fault) := by
  refine ⟨rfl, ?_, ?_⟩
  · apply ((numeric_specifiers_follow_grammar rfl _).2.1 .hexadecimal 64).mpr
    have digits := NumericRule.all_isDigit_iff.mp (show "0000064".toList.all Char.isDigit by decide)
    exact ⟨"0000064".toList, by decide, by decide, digits, by decide, by decide, by decide⟩
  · apply (numeric_specifiers_follow_grammar rfl _).2.2.mpr
    refine ⟨by decide, ?_⟩
    rintro radix width ⟨digits, eq, -, -, rfl, -, small⟩
    have letters : "D18446744073709551617".toList = 'D' :: "18446744073709551617".toList := by
      decide
    rw [letters, List.cons.injEq] at eq
    rw [← eq.2] at small
    exact absurd small (by decide)

end Rule
end Mintmark.Format
