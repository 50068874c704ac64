import Mintmark.Number.Bounds

/-!
# Random words

Randomness is a stream of 64-bit words and the number of words already used. Every draw says how
many words it takes, so the same stream gives the same values again.
-/

namespace Mintmark

structure Words where
  word : Nat → UInt64
  used : Nat := 0

namespace Words

/-- Repeats a list of words for ever; zeros if there are none. -/
def cycle (words : List UInt64) : Words := { word := fun i => words.getD (i % words.length) 0 }

def next (w : Words) : UInt64 × Words := (w.word w.used, { w with used := w.used + 1 })

/-- A uniform draw from 0 to a maximum: the high half of a word times the number of values. Where
the low half lies so far up that the word alone would favour some values, a second word decides
whether one is carried. -/
def uniform (max : Nat) (w : Words) : Nat × Words :=
  let count := max + 1
  let (first, w) := w.next
  let high := first.toNat * count / Number.bound64
  let low := first.toNat * count % Number.bound64
  if Number.bound64 - count < low then
    let (second, w) := w.next
    let carried := second.toNat * count / Number.bound64
    (if Number.bound64 ≤ low + carried then high + 1 else high, w)
  else (high, w)

/-- The low half of one word. -/
def bits32 (w : Words) : Nat × Words :=
  let (first, w) := w.next
  (first.toNat % Number.bound32, w)

/-- The eight bytes of a word, lowest first. -/
def bytesOfWord (word : UInt64) : List UInt8 :=
  (List.range 8).map fun i => (word >>> (8 * i).toUInt64).toUInt8

/-- Sixteen bytes out of two words. -/
def bytes16 (w : Words) : List UInt8 × Words :=
  let (first, w) := w.next
  let (second, w) := w.next
  (bytesOfWord first ++ bytesOfWord second, w)

end Words
end Mintmark
