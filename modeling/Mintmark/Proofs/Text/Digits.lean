import Mathlib.Algebra.Group.Nat.Defs
import Mintmark.Text.Digits

/-!
# Numerals read back

The digits of a number, padded or not, stand for that number and no other, and a greater number never
has fewer digits. Where both have as many, the texts are ordered as the numbers are. What is written
is taken off the end, digit by digit, and what is read from the front.
-/

namespace Mintmark.Text

variable {radix : Nat}

theorem digits_of_lt {n : Nat} (lt : n < radix) : digits radix n = [digit n] := by
  unfold digits
  rw [dif_pos (.inr lt)]

theorem digits_of_le {n : Nat} (two : 2 ≤ radix) (le : radix ≤ n) :
    digits radix n = digits radix (n / radix) ++ [digit (n % radix)] := by
  rw [digits, dif_neg (by omega)]

/-- A property of the digits of every number, one digit at a time. -/
theorem digits_induction {motive : Nat → Prop} (two : 2 ≤ radix)
    (leaf : ∀ n < radix, motive n) (more : ∀ n, radix ≤ n → motive (n / radix) → motive n)
    (n : Nat) : motive n := by
  induction n using Nat.strongRecOn with
  | ind n ih =>
    rcases Nat.lt_or_ge n radix with lt | le
    · exact leaf n lt
    · exact more n le (ih _ (Nat.div_lt_self (by omega) two))

/-- The characters are those of numbers below the radix. -/
theorem exists_of_mem_digits (two : 2 ≤ radix) {n : Nat} {c : Char}
    (member : c ∈ digits radix n) : ∃ d < radix, c = digit d := by
  induction n using digits_induction two with
  | leaf n lt =>
    rw [digits_of_lt lt, List.mem_singleton] at member
    exact ⟨n, lt, member⟩
  | more n large ih =>
    rw [digits_of_le two large] at member
    rcases List.mem_append.mp member with before | last
    · exact ih before
    · exact ⟨n % radix, Nat.mod_lt n (by omega), List.mem_singleton.mp last⟩

theorem length_digits_pos (radix n : Nat) : 0 < (digits radix n).length :=
  List.length_pos_iff.mpr (digits_ne_nil radix n)

theorem length_digits_mono (two : 2 ≤ radix) {n m : Nat} (le : n ≤ m) :
    (digits radix n).length ≤ (digits radix m).length := by
  induction m using digits_induction two generalizing n with
  | leaf m lt =>
    rw [digits_of_lt lt, digits_of_lt (Nat.lt_of_le_of_lt le lt)]
    exact Nat.le_refl 1
  | more m large ih =>
    rcases Nat.lt_or_ge n radix with lt | ge
    · rw [digits_of_lt lt]
      exact length_digits_pos radix m
    · rw [digits_of_le two ge, digits_of_le two large, List.length_append, List.length_append]
      exact Nat.add_le_add_right (ih (Nat.div_le_div_right le)) 1

theorem length_digits_le (two : 2 ≤ radix) {n places : Nat} (some : 0 < places)
    (lt : n < radix ^ places) : (digits radix n).length ≤ places := by
  induction n using digits_induction two generalizing places with
  | leaf n small =>
    rw [digits_of_lt small]
    exact some
  | more n large ih =>
    obtain ⟨places, rfl⟩ := Nat.exists_eq_succ_of_ne_zero (Nat.ne_of_gt some)
    rw [Nat.pow_succ] at lt
    have rest : 0 < places := by
      apply Nat.pos_of_ne_zero
      rintro rfl
      rw [Nat.pow_zero, Nat.one_mul] at lt
      exact absurd large (Nat.not_le_of_lt lt)
    rw [digits_of_le two large, List.length_append]
    exact Nat.succ_le_succ (ih rest (Nat.div_lt_of_lt_mul (by rwa [Nat.mul_comm])))

theorem digitValue?_digit (le : radix ≤ 36) {d : Nat} (lt : d < radix) :
    digitValue? radix (digit d) = some d := by
  have value : ∀ d : Fin 36,
      ('0' ≤ digit d ∧ digit d ≤ '9') ∧ (digit d).toNat - 48 = d ∨
        ¬ ('0' ≤ digit d ∧ digit d ≤ '9') ∧ ('a' ≤ digit d ∧ digit d ≤ 'z') ∧
          (digit d).toNat - 87 = d := by
    decide
  rcases value ⟨d, Nat.lt_of_lt_of_le lt le⟩ with ⟨decimal, eq⟩ | ⟨other, letter, eq⟩
  · simp only [digitValue?, if_pos decimal, eq, if_pos lt]
  · simp only [digitValue?, if_neg other, if_pos letter, eq, if_pos lt]

/-- How a reader takes one more digit in. -/
def takeDigit (radix acc : Nat) (c : Char) : Option Nat :=
  (digitValue? radix c).map (radix * acc + ·)

theorem foldlM_digits (two : 2 ≤ radix) (le : radix ≤ 36) (n : Nat) :
    (digits radix n).foldlM (takeDigit radix) 0 = some n := by
  induction n using digits_induction two with
  | leaf n lt =>
    rw [digits_of_lt lt]
    simp [takeDigit, digitValue?_digit le lt]
  | more n large ih =>
    have last := digitValue?_digit le (Nat.mod_lt n (show 0 < radix by omega))
    rw [digits_of_le two large, List.foldlM_append, ih]
    simp [takeDigit, last, Nat.div_add_mod]

theorem readDigits?_digits (two : 2 ≤ radix) (le : radix ≤ 36) (n : Nat) :
    readDigits? radix (digits radix n) = some n := by
  rw [readDigits?, if_neg (digits_ne_nil radix n)]
  exact foldlM_digits two le n

theorem zeroPadded_eq (width : Nat) (cs : List Char) :
    zeroPadded width cs = List.replicate (width - cs.length) '0' ++ cs := rfl

theorem foldlM_zeros (positive : 0 < radix) (count : Nat) :
    (List.replicate count '0').foldlM (takeDigit radix) 0 = some 0 := by
  have zero : takeDigit radix 0 '0' = some 0 := by
    simp [takeDigit, digitValue?, positive]
  induction count with
  | zero => rfl
  | succ count ih => rw [List.replicate_succ, List.foldlM_cons, zero]; exact ih

/-- A padded numeral reads back as its number. -/
theorem readDigits?_zeroPadded (two : 2 ≤ radix) (le : radix ≤ 36) (width n : Nat) :
    readDigits? radix (zeroPadded width (digits radix n)) = some n := by
  have some : zeroPadded width (digits radix n) ≠ [] := by
    rw [zeroPadded_eq]
    exact List.append_ne_nil_of_right_ne_nil _ (digits_ne_nil radix n)
  rw [readDigits?, if_neg some, zeroPadded_eq, List.foldlM_append]
  change List.foldlM (takeDigit radix) 0 _ >>= _ = _
  rw [foldlM_zeros (by omega)]
  exact foldlM_digits two le n

theorem zeroPadded_digits_injective (two : 2 ≤ radix) (le : radix ≤ 36) {width width' n m : Nat}
    (eq : zeroPadded width (digits radix n) = zeroPadded width' (digits radix m)) : n = m := by
  have read := readDigits?_zeroPadded two le width n
  rw [eq, readDigits?_zeroPadded two le width' m] at read
  exact (Option.some.inj read).symm

/-- A digit below the radix is a decimal one, or a letter that goes on from nine. -/
theorem digitValue?_cases {c : Char} {d : Nat} (value : digitValue? radix c = some d) :
    d < radix ∧ (c.toNat = d + 48 ∧ d < 10 ∨ c.toNat = d + 87 ∧ 10 ≤ d) := by
  by_cases decimal : '0' ≤ c ∧ c ≤ '9'
  · have range : 48 ≤ c.toNat ∧ c.toNat ≤ 57 := decimal
    simp only [digitValue?, if_pos decimal, Option.ite_none_right_eq_some,
      Option.some.injEq] at value
    omega
  · by_cases letter : 'a' ≤ c ∧ c ≤ 'z'
    · have range : 97 ≤ c.toNat ∧ c.toNat ≤ 122 := letter
      simp only [digitValue?, if_neg decimal, if_pos letter, Option.ite_none_right_eq_some,
        Option.some.injEq] at value
      omega
    · simp only [digitValue?, if_neg decimal, if_neg letter, Nat.lt_irrefl, if_false,
        reduceCtorEq] at value

theorem takeDigit_eq_some {acc next : Nat} {c : Char} (taken : takeDigit radix acc c = some next) :
    ∃ d, digitValue? radix c = some d ∧ next = radix * acc + d := by
  obtain ⟨d, value, rfl⟩ := Option.map_eq_some_iff.mp taken
  exact ⟨d, value, rfl⟩

/-- A number that is ahead stays ahead, whatever digits follow it: as many as follow the other. -/
theorem foldlM_takeDigit_lt {as bs : List Char} (length : as.length = bs.length)
    {acc acc' n m : Nat} (ahead : acc < acc') (left : as.foldlM (takeDigit radix) acc = some n)
    (right : bs.foldlM (takeDigit radix) acc' = some m) : n < m := by
  induction as generalizing bs acc acc' with
  | nil =>
    rw [List.length_eq_zero_iff.mp length.symm] at right
    cases left
    cases right
    exact ahead
  | cons a as ih =>
    obtain ⟨b, bs, rfl⟩ := List.exists_cons_of_length_eq_add_one length.symm
    rw [List.foldlM_cons] at left right
    obtain ⟨next, taken, left⟩ := Option.bind_eq_some_iff.mp left
    obtain ⟨next', taken', right⟩ := Option.bind_eq_some_iff.mp right
    obtain ⟨d, value, rfl⟩ := takeDigit_eq_some taken
    obtain ⟨d', -, rfl⟩ := takeDigit_eq_some taken'
    -- one place more is worth a whole radix, and no digit makes up for that
    have below := (digitValue?_cases value).1
    have places := Nat.mul_le_mul_left radix (Nat.succ_le_of_lt ahead)
    rw [Nat.mul_succ] at places
    exact ih (Nat.succ.inj length) (by omega) left right

/-- Of two numerals of one length that of the smaller number comes first. The first digits that
differ decide on both orders. -/
theorem lt_of_foldlM_takeDigit {as bs : List Char} (length : as.length = bs.length) {acc n m : Nat}
    (left : as.foldlM (takeDigit radix) acc = some n)
    (right : bs.foldlM (takeDigit radix) acc = some m) (lt : n < m) : as < bs := by
  induction as generalizing bs acc with
  | nil =>
    rw [List.length_eq_zero_iff.mp length.symm] at right
    cases left
    cases right
    exact absurd lt (Nat.lt_irrefl n)
  | cons a as ih =>
    obtain ⟨b, bs, rfl⟩ := List.exists_cons_of_length_eq_add_one length.symm
    rw [List.foldlM_cons] at left right
    obtain ⟨next, taken, left⟩ := Option.bind_eq_some_iff.mp left
    obtain ⟨next', taken', right⟩ := Option.bind_eq_some_iff.mp right
    obtain ⟨d, value, rfl⟩ := takeDigit_eq_some taken
    obtain ⟨d', value', rfl⟩ := takeDigit_eq_some taken'
    have digit := (digitValue?_cases value).2
    have digit' := (digitValue?_cases value').2
    rw [List.cons_lt_cons_iff]
    rcases Nat.lt_trichotomy d d' with before | same | after
    · left
      show a.toNat < b.toNat
      omega
    · right
      subst same
      have char : a = b := Char.toNat_inj.mp (by omega)
      exact ⟨char, ih (Nat.succ.inj length) left right⟩
    · -- the second numeral would fall behind here, and for good
      have ahead : radix * acc + d' < radix * acc + d := Nat.add_lt_add_left after _
      exact absurd (foldlM_takeDigit_lt (Nat.succ.inj length).symm ahead right left) (by omega)

theorem lt_of_readDigits? {as bs : List Char} (length : as.length = bs.length) {n m : Nat}
    (left : readDigits? radix as = some n) (right : readDigits? radix bs = some m) (lt : n < m) :
    as < bs := by
  obtain ⟨-, left⟩ := Option.ite_none_left_eq_some.mp left
  obtain ⟨-, right⟩ := Option.ite_none_left_eq_some.mp right
  exact lt_of_foldlM_takeDigit length left right lt

theorem length_twoDigits {n : Nat} (small : n < 100) : (twoDigits n).length = 2 := by
  have := length_digits_le (by decide : 2 ≤ 10) (by decide : 0 < 2) (show n < 10 ^ 2 from small)
  rw [twoDigits, length_zeroPadded]
  omega

theorem isAlphanum_of_mem_zeroPadded {width n : Nat} {c : Char}
    (member : c ∈ zeroPadded width (digits 16 n)) : c.isAlphanum = true := by
  rw [zeroPadded_eq] at member
  rcases List.mem_append.mp member with zero | proper
  · rw [List.eq_of_mem_replicate zero]
    decide
  · obtain ⟨d, lt, rfl⟩ := exists_of_mem_digits (by decide) proper
    have all : ∀ d : Fin 16, (digit d).isAlphanum = true := by decide
    exact all ⟨d, lt⟩

theorem digit_decimal {d : Nat} (lt : d < 10) :
    (digit d).isDigit = true ∧ (digit d).toNat - 48 = d ∧ (digit d = '0' → d = 0) := by
  have all : ∀ d : Fin 10,
      (digit d).isDigit = true ∧ (digit d).toNat - 48 = d ∧ (digit d = '0' → d = 0) := by
    decide
  have found := all ⟨d, lt⟩
  refine ⟨found.1, found.2.1, fun zero => ?_⟩
  exact congrArg Fin.val (found.2.2 zero)

theorem isDigit_of_mem_digits {n : Nat} {c : Char} (member : c ∈ digits 10 n) :
    c.isDigit = true := by
  obtain ⟨d, lt, rfl⟩ := exists_of_mem_digits (by decide) member
  exact (digit_decimal lt).1

theorem decimalValue_digits (n : Nat) : decimalValue (digits 10 n) = n := by
  induction n using digits_induction (by decide : 2 ≤ 10) with
  | leaf n lt =>
    rw [digits_of_lt lt, decimalValue, List.foldl_cons, List.foldl_nil, (digit_decimal lt).2.1]
    simp
  | more n large ih =>
    have last := (digit_decimal (Nat.mod_lt n (by decide : 0 < 10))).2.1
    rw [digits_of_le (by decide) large, decimalValue, List.foldl_append, List.foldl_cons,
      List.foldl_nil, last]
    rw [decimalValue] at ih
    rw [ih, Nat.div_add_mod]

/-- Digits never make a number smaller, so a reader that stops at the bound stops for good. -/
theorem le_foldl_decimal (cs : List Char) (acc : Nat) :
    acc ≤ cs.foldl (fun acc c => 10 * acc + (c.toNat - 48)) acc := by
  induction cs generalizing acc with
  | nil => exact Nat.le_refl acc
  | cons c cs ih =>
    rw [List.foldl_cons]
    exact Nat.le_trans (by omega) (ih _)

theorem foldlM_takeDecimal? (cs : List Char) {acc : Nat} (fits : acc < Number.bound64) :
    cs.foldlM takeDecimal? acc =
      if cs.foldl (fun acc c => 10 * acc + (c.toNat - 48)) acc < Number.bound64 then
        some (cs.foldl (fun acc c => 10 * acc + (c.toNat - 48)) acc)
      else none := by
  induction cs generalizing acc with
  | nil => exact (if_pos fits).symm
  | cons c cs ih =>
    rw [List.foldlM_cons, List.foldl_cons, takeDecimal?]
    by_cases next : 10 * acc + (c.toNat - 48) < Number.bound64
    · rw [if_pos next]
      exact ih next
    · have beyond := le_foldl_decimal cs (10 * acc + (c.toNat - 48))
      rw [if_neg next, if_neg (by omega)]
      rfl

/-- The reader of 64 bits gives the value of the digits and nothing else, and gives none exactly if
the value is too large. -/
theorem readWord?_eq (cs : List Char) :
    readWord? cs =
      if decimalValue cs < Number.bound64 then some (decimalValue cs) else none :=
  foldlM_takeDecimal? cs (by decide)

/-- Only zero itself starts with a zero. -/
theorem head?_digits {n : Nat} (zero : (digits 10 n).head? = some '0') : n = 0 := by
  induction n using digits_induction (by decide : 2 ≤ 10) with
  | leaf n lt =>
    rw [digits_of_lt lt, List.head?_cons, Option.some.injEq] at zero
    exact (digit_decimal lt).2.2 zero
  | more n large ih =>
    have before : (digits 10 (n / 10)).head? = some '0' := by
      rw [digits_of_le (by decide) large] at zero
      cases front : digits 10 (n / 10) with
      | nil => exact absurd front (digits_ne_nil 10 (n / 10))
      | cons c cs => simpa [front] using zero
    have none := ih before
    omega

/-- Digits do not begin with a sign. -/
theorem digits_eq_cons (n : Nat) :
    ∃ c cs, digits 10 n = c :: cs ∧ c ≠ '+' ∧ c ≠ '-' := by
  cases front : digits 10 n with
  | nil => exact absurd front (digits_ne_nil 10 n)
  | cons c cs =>
    have digit : c.isDigit = true := isDigit_of_mem_digits (front ▸ List.mem_cons_self)
    refine ⟨c, cs, rfl, ?_, ?_⟩ <;> rintro rfl <;> exact absurd digit (by decide)

theorem readNatural?_digits (n : Nat) : readNatural? (digits 10 n) = some n := by
  obtain ⟨c, cs, front, plus, -⟩ := digits_eq_cons n
  have read : readDigits? 10 (digits 10 n) = some n := readDigits?_digits (by decide) (by decide) n
  rw [front] at read ⊢
  rw [readNatural?, read]
  rintro cs' ⟨⟩
  exact plus rfl

theorem readNatural?_ofInt (n : Nat) : readNatural? (ofInt n).toList = some n := by
  have positive : ¬ (n : Int) < 0 := by omega
  rw [ofInt, String.toList_ofList, if_neg positive, List.nil_append]
  exact readNatural?_digits n

theorem ofInt_zero : ofInt 0 = "0" := by
  change String.ofList ([] ++ digits 10 0) = "0"
  rw [digits_of_lt (by decide)]
  rfl

theorem readInt64?_ofInt {i : Int} (fits : Number.fits64 i = true) :
    readInt64? (ofInt i).toList = some i := by
  rw [ofInt, String.toList_ofList]
  unfold readInt64?
  by_cases negative : i < 0
  · have back : -(i.natAbs : Int) = i := by omega
    have read := readDigits?_digits (by decide : 2 ≤ 10) (by decide) i.natAbs
    simp only [if_pos negative, List.cons_append, List.nil_append, read, Option.bind_eq_bind,
      Option.bind_some, Option.pure_def, Option.map_some, back, Option.filter_some, fits, if_true]
  · have back : (i.natAbs : Int) = i := by omega
    obtain ⟨c, cs, front, -, minus⟩ := digits_eq_cons i.natAbs
    have read := readNatural?_digits i.natAbs
    rw [if_neg negative, List.nil_append]
    rw [front] at read ⊢
    dsimp only
    split
    · next eq =>
      cases eq
      exact absurd rfl minus
    · simp only [read, Option.bind_eq_bind, Option.bind_some, Option.pure_def, Option.map_some, back,
        Option.filter_some, fits, if_true]

end Mintmark.Text
