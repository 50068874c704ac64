import Mintmark.Proofs.Mint.Lengths

/-!
# Ranges of random numbers

Whatever the words, a random number lies within the range of its kind, and fills a width that its
range does not outgrow. A uniform draw is the high half of a product with one word, or one more where
the halves of this product and the next overflow; it is taken from the words that the elements before
have left.
-/

namespace Mintmark

open Format

namespace Words

/-- The high half of the product of a number and one of the words still to be used. -/
def high (w : Words) (count i : Nat) : Nat :=
  (w.word (w.used + i)).toNat * count / Number.bound64

/-- The low half of the product of a number and the first word still to be used. -/
def low (w : Words) (count : Nat) : Nat := (w.word w.used).toNat * count % Number.bound64

/-- The low half is so great that the word alone would favour some numbers, and it overflows with the
next product. -/
def Carries (w : Words) (count : Nat) : Prop :=
  Number.bound64 - count < w.low count ∧ Number.bound64 ≤ w.low count + w.high count 1

instance (w : Words) (count : Nat) : Decidable (w.Carries count) := instDecidableAnd

theorem uniform_eq (w : Words) (max : Nat) :
    (w.uniform max).1 = w.high (max + 1) 0 + if w.Carries (max + 1) then 1 else 0 := by
  by_cases biased : Number.bound64 - (max + 1) < w.low (max + 1)
  · have second : (w.uniform max).1 =
        if Number.bound64 ≤ w.low (max + 1) + w.high (max + 1) 1 then w.high (max + 1) 0 + 1
        else w.high (max + 1) 0 := by
      unfold uniform
      exact congrArg Prod.fst (if_pos biased)
    rw [second]
    by_cases beyond : Number.bound64 ≤ w.low (max + 1) + w.high (max + 1) 1
    · rw [if_pos beyond, if_pos ⟨biased, beyond⟩]
    · rw [if_neg beyond, if_neg fun carries => beyond carries.2]
      rfl
  · have once : (w.uniform max).1 = w.high (max + 1) 0 := by
      unfold uniform
      exact congrArg Prod.fst (if_neg biased)
    rw [once, if_neg fun carries => biased carries.1]
    rfl

end Words

namespace Raw

section Each

variable (now : Instant) (sequence : Option UInt64)

/-- The raw values of elements, each drawn from the words that those before it have left, and the
words left in the end. -/
def generateEach : List Element → Words → List (Except Problem Raw) × Words
  | [], words => ([], words)
  | e :: es, words =>
    match generate now sequence e words with
    | (raw, words) => match generateEach es words with
      | (raws, words) => (raw :: raws, words)

theorem generateEach_getElem? (elements : List Element) (words : Words) (i : Nat) :
    (generateEach now sequence elements words).1[i]? = elements[i]?.map fun e =>
      (generate now sequence e (generateEach now sequence (elements.take i) words).2).1 := by
  induction elements generalizing i words with
  | nil => rfl
  | cons e es ih =>
    cases i with
    | zero => rfl
    | succ i => exact ih (generate now sequence e words).2 i

end Each

/-- The kinds that draw a number, with the greatest number of each. -/
def drawRanges : List (Kind × Nat) :=
  [(.random6Digit, 999999), (.random9Digit, 999999999), (.random20Bit, 2 ^ 20 - 1),
    (.random32Bit, 2 ^ 32 - 1)]

theorem drawLimit?_of_mem {kind : Kind} {limit : Nat} (listed : (kind, limit) ∈ drawRanges) :
    kind.drawLimit? = some limit := by
  simp only [drawRanges, List.mem_cons, Prod.mk.injEq, List.not_mem_nil, or_false] at listed
  rcases listed with ⟨rfl, rfl⟩ | ⟨rfl, rfl⟩ | ⟨rfl, rfl⟩ | ⟨rfl, rfl⟩ <;> rfl

end Raw

namespace Mint

/-- The text of elements is that of the raw values drawn for them, one behind the other. -/
theorem generateEach_of_assemble {now : Instant} {sequence : Option UInt64}
    {elements : List Element} {rules : List Rule} (paired : rules.length = elements.length)
    {position : Nat} {words : Words} {text : String}
    (assembled : assemble now sequence position (elements.zip rules) words = .ok text) :
    ∃ raws, (Raw.generateEach now sequence elements words).1 = raws.map .ok ∧
      text = String.join (List.zipWith Raw.render raws rules) := by
  induction elements generalizing rules position words text with
  | nil =>
    cases assembled
    exact ⟨[], rfl, rfl⟩
  | cons e es ih =>
    obtain ⟨rule, rules, rfl⟩ := List.exists_cons_of_length_eq_add_one paired
    rw [List.zip_cons_cons, assemble] at assembled
    rw [Raw.generateEach]
    rcases drawn : Raw.generate now sequence e words with ⟨answer, left⟩
    rw [drawn] at assembled
    cases answer with
    | error problem => cases assembled
    | ok raw =>
      dsimp only at assembled
      cases rest : assemble now sequence (position + 1) (es.zip rules) left with
      | error finding =>
        rw [rest] at assembled
        cases assembled
      | ok piece =>
        rw [rest] at assembled
        cases assembled
        obtain ⟨raws, generated, rfl⟩ := ih (Nat.succ.inj paired) rest
        refine ⟨raw :: raws, congrArg (Except.ok raw :: ·) generated, ?_⟩
        rw [List.zipWith_cons_cons, String.join_cons]

end Mint

namespace Raw

/-- For any words and elements: a uniform draw is the high half of a product, or one more on a carry,
and stays within its maximum. So does each random number, drawn from what the elements before have
left; under its rule it reads back, and is as long as the width if its maximum is no longer. The text
of the elements is made of these values. -/
theorem random_numbers_stay_in_range (now : Instant) (sequence : Option UInt64)
    (elements : List Element) (words : Words) :
    (∀ max < Number.bound64, ∀ w : Words, (w.uniform max).1 ≤ max ∧
      (w.uniform max).1 = w.high (max + 1) 0 + if w.Carries (max + 1) then 1 else 0) ∧
    (∀ i e limit, elements[i]? = some e → (e.kind, limit) ∈ drawRanges →
      ∃ n ≤ limit, (generateEach now sequence elements words).1[i]? = some (.ok (number n)) ∧
        n = drawn e.kind limit (generateEach now sequence (elements.take i) words).2 ∧
        ∀ rule, Rule.compile e.kind e.formatText = .ok rule →
          ∃ r, rule = .numeric r ∧
            Text.readDigits? r.radix.base ((number n).render rule).toList = some n ∧
            (Nat.log r.radix.base limit + 1 ≤ r.width →
              ((number n).render rule).length = r.width)) ∧
    ∀ rules text, rules.length = elements.length →
      Mint.assemble now sequence 0 (elements.zip rules) words = .ok text →
      ∃ raws, (generateEach now sequence elements words).1 = raws.map .ok ∧
        text = String.join (List.zipWith render raws rules) := by
  refine ⟨fun max fits w => ⟨w.uniform_le fits, w.uniform_eq max⟩, ?_,
    fun rules text paired assembled => Mint.generateEach_of_assemble paired assembled⟩
  intro i e limit here listed
  have limited : e.kind.drawLimit? = some limit := drawLimit?_of_mem listed
  refine ⟨_, drawn_le limited _, ?_, rfl, ?_⟩
  · rw [generateEach_getElem?, here, Option.map_some, generate_eq_drawn now sequence limited]
  · intro rule compiled
    obtain ⟨r, rfl, parsed⟩ :=
      Rule.exists_numeric_of_compile (Element.isNumeric_of_drawLimit limited) compiled
    rw [render, String.toList_ofList, String.length_ofList]
    refine ⟨r, rfl, r.readDigits?_text _, fun wide => ?_⟩
    rw [← Text.length_digits r.radix.two_le_base] at wide
    exact NumericRule.length_text parsed wide (drawn_le limited _)

/-- Eight hexadecimal places, and six decimal ones behind them. -/
def places : List Element :=
  [{ kind := .random32Bit, format := some "X8" }, { kind := .random6Digit, format := some "D6" }]

/-- The second word falls one short of the greatest number, and the third makes it up. -/
def carrying : Words := .cycle [7, 18446725626965477906, 18446744073709551615]

theorem carried_up_to_the_greatest_number :
    (generateEach ⟨0, 0⟩ none places carrying).1[1]? = some (.ok (number 999999)) ∧
      ((number 999999).render (.numeric ⟨.decimal, 6, true⟩)).length = 6 ∧
      (carrying.uniform 999999).1 ≤ 999999 ∧
      ∃ raws, (generateEach ⟨0, 0⟩ none places carrying).1 = raws.map .ok ∧
        "00000007999999" = String.join (List.zipWith render raws
          [.numeric ⟨.hexadecimal, 8, true⟩, .numeric ⟨.decimal, 6, true⟩]) := by
  obtain ⟨within, ranges, assembles⟩ :=
    random_numbers_stay_in_range ⟨0, 0⟩ none places carrying
  obtain ⟨n, -, generated, draw, shown⟩ :=
    ranges 1 { kind := .random6Digit, format := some "D6" } 999999 rfl List.mem_cons_self
  have greatest : n = 999999 := draw.trans (by decide +kernel)
  subst greatest
  obtain ⟨r, same, -, length⟩ := shown (.numeric ⟨.decimal, 6, true⟩) (by decide)
  cases same
  refine ⟨generated, length (by decide), (within 999999 (by decide) carrying).1, ?_⟩
  exact assembles _ _ rfl (by decide +kernel)

end Raw
end Mintmark
