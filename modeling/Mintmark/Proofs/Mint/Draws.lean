import Mintmark.Raw

/-!
# Random draws

A draw never exceeds the maximum it was made with. Where the high half of the product is already the
maximum, the low half leaves no room for a carry, so the second word cannot push the draw over it.
-/

namespace Mintmark

namespace Words

theorem high_lt {first count bound : Nat} (word : first < bound) (positive : 0 < count) :
    first * count / bound < count :=
  Nat.div_lt_of_lt_mul (Nat.mul_lt_mul_of_pos_right word positive)

/-- Only a draw below the maximum can be carried. -/
theorem carry_fits {first count bound : Nat} (word : first < bound) (fits : count ≤ bound)
    (carries : bound - count < first * count % bound) : first * count / bound + 1 < count := by
  have split := Nat.div_add_mod (first * count) bound
  generalize first * count / bound = high at *
  generalize first * count % bound = low at *
  have most : first * count + count ≤ bound * count := by
    rw [← Nat.succ_mul]
    exact Nat.mul_le_mul_right count word
  apply Nat.lt_of_not_le
  intro full
  have least : bound * count ≤ bound * (high + 1) := Nat.mul_le_mul_left bound (by omega)
  rw [Nat.mul_succ] at least
  omega

theorem uniform_le {max : Nat} (fits : max < Number.bound64) (w : Words) :
    (w.uniform max).1 ≤ max := by
  have word : w.next.1.toNat < Number.bound64 := UInt64.toNat_lt _
  have high : w.next.1.toNat * (max + 1) / Number.bound64 < max + 1 :=
    high_lt word (Nat.succ_pos max)
  have carried (carries : Number.bound64 - (max + 1) <
      w.next.1.toNat * (max + 1) % Number.bound64) :
      w.next.1.toNat * (max + 1) / Number.bound64 + 1 < max + 1 :=
    carry_fits word fits carries
  unfold uniform
  generalize Number.bound64 = bound at *
  dsimp only
  split
  · next carries =>
    have below := carried carries
    dsimp only
    split <;> omega
  · exact Nat.le_of_lt_succ high

theorem bits32_lt (w : Words) : w.bits32.1 < Number.bound32 := Nat.mod_lt _ (by decide)

end Words

namespace Raw

/-- The number that a kind draws, up to a limit. -/
def drawn (kind : Kind) (limit : Nat) (words : Words) : Nat :=
  if kind = .random32Bit then words.bits32.1 else (words.uniform limit).1

theorem generate_eq_drawn (now : Instant) (sequence : Option UInt64) {e : Element} {limit : Nat}
    (limited : e.kind.drawLimit? = some limit) (words : Words) :
    (generate now sequence e words).1 = .ok (.number (drawn e.kind limit words)) := by
  -- the draws are taken apart, as unfolding them would count up to their bounds
  unfold generate drawn
  cases kind : e.kind with
  | random6Digit =>
    rw [kind] at limited
    cases limited
    rcases words.uniform 999999 with ⟨n, rest⟩
    rw [if_neg (by decide)]
  | random9Digit =>
    rw [kind] at limited
    cases limited
    rcases words.uniform 999999999 with ⟨n, rest⟩
    rw [if_neg (by decide)]
  | random20Bit =>
    rw [kind] at limited
    cases limited
    rcases words.uniform 1048575 with ⟨n, rest⟩
    rw [if_neg (by decide)]
  | random32Bit =>
    rcases words.bits32 with ⟨n, rest⟩
    rw [if_pos rfl]
  | fixedText | guid | dateTime | sequence =>
    rw [kind] at limited
    cases limited

theorem drawn_le {kind : Kind} {limit : Nat} (limited : kind.drawLimit? = some limit)
    (words : Words) : drawn kind limit words ≤ limit := by
  have uniform {max : Nat} (fits : max < Number.bound64) : (words.uniform max).1 ≤ max :=
    Words.uniform_le fits words
  unfold drawn
  cases kind with
  | random6Digit | random9Digit | random20Bit =>
    cases limited
    rw [if_neg (by decide)]
    exact uniform (by decide)
  | random32Bit =>
    cases limited
    rw [if_pos rfl]
    exact Nat.le_sub_one_of_lt words.bits32_lt
  | fixedText | guid | dateTime | sequence => cases limited

/-- The kinds with a limit draw a number up to it. -/
theorem generate_of_drawLimit {e : Element} {limit : Nat} (now : Instant)
    (sequence : Option UInt64) (w : Words) (kind : e.kind.drawLimit? = some limit) :
    ∃ n rest, Raw.generate now sequence e w = (.ok (.number n), rest) ∧ n ≤ limit :=
  ⟨drawn e.kind limit w, _, Prod.ext (generate_eq_drawn now sequence kind w) rfl, drawn_le kind w⟩

end Raw
end Mintmark
