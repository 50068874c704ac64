import Mintmark.Proofs.Text.Digits

/-!
# Integers written plainly

Many texts are read as the same integer, with a plus sign, with zeros in front, with a minus sign
before zero. One of them is written for it: the one that does without all of these.
-/

namespace Mintmark.Text

variable {radix : Nat}

theorem digit_of_digitValue? {c : Char} {d : Nat} (value : digitValue? radix c = some d) :
    digit d = c := by
  rw [digit]
  rcases (digitValue?_cases value).2 with ⟨code, small⟩ | ⟨code, large⟩
  · rw [if_pos small, Nat.add_comm, ← code, Char.ofNat_toNat]
  · rw [if_neg (Nat.not_lt_of_le large), Nat.add_comm, ← code, Char.ofNat_toNat]

/-- Digits that are read behind a number that is not zero are written behind its digits. -/
theorem digits_of_foldlM_takeDigit (two : 2 ≤ radix) {cs : List Char} {acc n : Nat}
    (positive : 0 < acc) (read : cs.foldlM (takeDigit radix) acc = some n) :
    digits radix n = digits radix acc ++ cs := by
  induction cs generalizing acc with
  | nil =>
    cases read
    exact (List.append_nil _).symm
  | cons c cs ih =>
    rw [List.foldlM_cons] at read
    obtain ⟨next, taken, rest⟩ := Option.bind_eq_some_iff.mp read
    obtain ⟨d, value, rfl⟩ := takeDigit_eq_some taken
    have small := (digitValue?_cases value).1
    have large : radix ≤ radix * acc + d :=
      Nat.le_trans (Nat.le_mul_of_pos_right radix positive) (Nat.le_add_right ..)
    have front : (radix * acc + d) / radix = acc := by
      rw [Nat.mul_add_div (by omega), Nat.div_eq_of_lt small, Nat.add_zero]
    have last : (radix * acc + d) % radix = d := by
      rw [Nat.mul_add_mod, Nat.mod_eq_of_lt small]
    rw [ih (by omega) rest, digits_of_le two large, front, last, digit_of_digitValue? value,
      List.append_assoc, List.singleton_append]

/-- What is read from digits without a zero in front is written with just these digits. -/
theorem digits_of_readDigits? (two : 2 ≤ radix) {c : Char} {cs : List Char} {n : Nat}
    (first : c ≠ '0') (read : readDigits? radix (c :: cs) = some n) :
    digits radix n = c :: cs ∧ n ≠ 0 := by
  obtain ⟨-, read⟩ := Option.ite_none_left_eq_some.mp read
  rw [List.foldlM_cons] at read
  obtain ⟨d, taken, rest⟩ := Option.bind_eq_some_iff.mp read
  obtain ⟨d, value, rfl⟩ := takeDigit_eq_some taken
  rw [Nat.mul_zero, Nat.zero_add] at rest
  have shown := digit_of_digitValue? value
  have positive : 0 < d := by
    apply Nat.pos_of_ne_zero
    rintro rfl
    exact first shown.symm
  have written := digits_of_foldlM_takeDigit two positive rest
  rw [digits_of_lt (digitValue?_cases value).1, shown, List.singleton_append] at written
  refine ⟨written, ?_⟩
  rintro rfl
  rw [digits_of_lt (by omega)] at written
  cases written
  exact first rfl

/-- Zero, or a digit other than zero in front, behind a minus sign or none. -/
def WrittenPlainly (cs : List Char) : Prop :=
  cs = ['0'] ∨ ∃ c rest, (cs = c :: rest ∨ cs = '-' :: c :: rest) ∧ c.isDigit = true ∧ c ≠ '0'

theorem ofInt_ofNat (n : Nat) : (ofInt n).toList = digits 10 n := by
  have positive : ¬ (n : Int) < 0 := by omega
  rw [ofInt, String.toList_ofList, if_neg positive]
  rfl

theorem ofInt_neg {n : Nat} (some : n ≠ 0) : (ofInt (-n)).toList = '-' :: digits 10 n := by
  have negative : -(n : Int) < 0 := by omega
  rw [ofInt, String.toList_ofList, if_pos negative, Int.natAbs_neg, Int.natAbs_natCast]
  rfl

theorem exists_digits {n : Nat} (some : n ≠ 0) :
    ∃ c rest, digits 10 n = c :: rest ∧ c.isDigit = true ∧ c ≠ '0' := by
  cases front : digits 10 n with
  | nil => exact absurd front (digits_ne_nil 10 n)
  | cons c rest =>
    refine ⟨c, rest, rfl, isDigit_of_mem_digits (front ▸ List.mem_cons_self), ?_⟩
    rintro rfl
    exact some (head?_digits (by rw [front]; rfl))

theorem writtenPlainly_ofInt (i : Int) : WrittenPlainly (ofInt i).toList := by
  obtain ⟨n, rfl | rfl⟩ := i.eq_nat_or_neg <;> by_cases zero : n = 0
  · left
    rw [ofInt_ofNat, zero, digits_of_lt (by decide)]
    rfl
  · obtain ⟨c, rest, written, digit⟩ := exists_digits zero
    exact .inr ⟨c, rest, .inl (by rw [ofInt_ofNat, written]), digit⟩
  · left
    rw [zero]
    exact congrArg String.toList ofInt_zero
  · obtain ⟨c, rest, written, digit⟩ := exists_digits zero
    exact .inr ⟨c, rest, .inr (by rw [ofInt_neg zero, written]), digit⟩

/-- Behind a minus sign stand digits, and elsewhere what can be read as a natural number. -/
theorem readInt64?_eq_some {cs : List Char} {i : Int} (read : readInt64? cs = some i) :
    (∃ rest n, cs = '-' :: rest ∧ readDigits? 10 rest = some n ∧ i = -(n : Int)) ∨
      cs.head? ≠ some '-' ∧ ∃ n, readNatural? cs = some n ∧ i = n := by
  obtain ⟨value, -⟩ := Option.filter_eq_some_iff.mp read
  split at value
  · next rest =>
    obtain ⟨_, number, rfl⟩ := Option.map_eq_some_iff.mp value
    obtain ⟨n, digits, ⟨⟩⟩ := Option.bind_eq_some_iff.mp number
    exact .inl ⟨rest, n, rfl, digits, rfl⟩
  · next other =>
    obtain ⟨_, number, rfl⟩ := Option.map_eq_some_iff.mp value
    obtain ⟨n, natural, ⟨⟩⟩ := Option.bind_eq_some_iff.mp number
    refine .inr ⟨fun minus => ?_, n, natural, rfl⟩
    obtain ⟨rest, front⟩ := List.head?_eq_some_iff.mp minus
    exact other rest front

theorem readNatural?_of_isDigit {c : Char} (digit : c.isDigit = true) (cs : List Char) :
    readNatural? (c :: cs) = readDigits? 10 (c :: cs) := by
  unfold readNatural?
  split
  · next front =>
    cases front
    exact absurd digit (by decide)
  · rfl

/-- An integer that was read is written as it was read if that was plain, and only then. -/
theorem ofInt_eq_iff {s : String} {i : Int} (read : readInt64? s.toList = some i) :
    ofInt i = s ↔ WrittenPlainly s.toList := by
  constructor
  · rintro rfl
    exact writtenPlainly_ofInt i
  · rintro (zero | ⟨c, rest, written, digit, first⟩) <;> rw [← String.toList_inj]
    · rw [zero] at read ⊢
      cases read
      exact congrArg String.toList ofInt_zero
    · rcases readInt64?_eq_some read with ⟨behind, n, minus, digits, rfl⟩ | ⟨plus, n, natural, rfl⟩
      · rcases written with written | written <;> rw [written] at minus ⊢ <;> cases minus
        · exact absurd digit (by decide)
        · obtain ⟨shown, some⟩ := digits_of_readDigits? (by decide) first digits
          rw [ofInt_neg some, shown]
      · rcases written with written | written <;> rw [written] at plus natural ⊢
        · rw [readNatural?_of_isDigit digit] at natural
          rw [ofInt_ofNat, (digits_of_readDigits? (by decide) first natural).1]
        · exact absurd rfl plus

end Mintmark.Text
