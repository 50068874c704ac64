import Mintmark.Digest.Sha1
import Mintmark.Text.Digits
import Mintmark.Words

/-!
# 128-bit identifiers

Version 4 comes from random bytes and version 5 from the digest of a name within a name space. Both
carry their version in the seventh byte and the variant in the ninth.
-/

namespace Mintmark

structure Guid where
  bits : BitVec 128
deriving DecidableEq, Repr

namespace Guid

def ofBytes (bytes : List UInt8) : Guid :=
  ⟨BitVec.ofNat 128 (bytes.foldl (fun acc byte => 256 * acc + byte.toNat) 0)⟩

def toBytes (g : Guid) : List UInt8 :=
  (List.range 16).map fun i => Nat.toUInt8 (g.bits.toNat >>> (8 * (15 - i)))

/-- Marks the version and the variant. -/
def withVersion (version : BitVec 128) (g : Guid) : Guid :=
  let kept := ~~~((0xF : BitVec 128) <<< 76 ||| (0x3 : BitVec 128) <<< 62)
  ⟨g.bits &&& kept ||| version <<< 76 ||| (0x2 : BitVec 128) <<< 62⟩

def random (w : Words) : Guid × Words :=
  let (bytes, w) := w.bytes16
  ((ofBytes bytes).withVersion 4, w)

/-- The name space for object identifiers. -/
def objectNames : Guid := ⟨0x6BA7B8129DAD11D180B400C04FD430C8⟩

def ofName (space : Guid) (name : List UInt8) : Guid :=
  (ofBytes ((Digest.Sha1.digest (space.toBytes ++ name)).take 16)).withVersion 5

/-- Thirty-two lower-case hexadecimal digits. -/
def plainText (g : Guid) : List Char := Text.zeroPadded 32 (Text.digits 16 g.bits.toNat)

/-- The digits in groups of 8, 4, 4, 4 and 12. -/
def text (g : Guid) : List Char :=
  let hex := g.plainText
  hex.take 8 ++ '-' :: (hex.drop 8).take 4 ++ '-' :: (hex.drop 12).take 4
    ++ '-' :: (hex.drop 16).take 4 ++ '-' :: hex.drop 20

/-- Reads thirty-two digits in either case, with or without the hyphens. -/
def ofText? (s : String) : Option Guid := do
  let hex ← (s.toList.filter (· != '-')).mapM Text.hexValue?
  guard (hex.length = 32)
  some ⟨BitVec.ofNat 128 (hex.foldl (fun acc d => 16 * acc + d) 0)⟩

end Guid
end Mintmark
