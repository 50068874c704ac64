/-!
# Bounds

How many numbers fit words of a fixed width.
-/

namespace Mintmark.Number

/-- One more than the greatest number of 16 bits. -/
abbrev bound16 : Nat := 65536

/-- One more than the greatest number of 32 bits. -/
abbrev bound32 : Nat := 4294967296

/-- One more than the greatest number of 64 bits. -/
abbrev bound64 : Nat := 18446744073709551616

/-- The least number of 64 bits of which one is the sign. -/
abbrev least64 : Int := -9223372036854775808

/-- Whether an integer fits 64 bits of which one is the sign. -/
def fits64 (i : Int) : Bool := least64 ≤ i && i ≤ 9223372036854775807

end Mintmark.Number
