import Mintmark.Text.Digits

/-!
# Percent coding

In an address `%` and two hexadecimal digits stand for a byte. Anything else stands for itself, also
a `%` without its digits.
-/

namespace Mintmark.Net.Percent

def hexDigit? (b : UInt8) : Option Nat := Text.hexValue? (Char.ofNat b.toNat)

def decodeBytes : List UInt8 → List UInt8
  | b :: high :: low :: rest =>
    match hexDigit? high, hexDigit? low with
    | some h, some l =>
      if b = 37 then (16 * h + l).toUInt8 :: decodeBytes rest
      else b :: decodeBytes (high :: low :: rest)
    | _, _ => b :: decodeBytes (high :: low :: rest)
  | bytes => bytes

/-- The text that a part of an address stands for, unless its bytes are no UTF-8. -/
def decode? (s : String) : Option String :=
  String.fromUTF8? ⟨(decodeBytes s.toUTF8.toList).toArray⟩

end Mintmark.Net.Percent
