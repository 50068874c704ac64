/-!
# SHA-1

The message is padded to blocks of 64 bytes. Each block gives sixteen words, which are stretched to
eighty, and every word turns the five state words once.
-/

namespace Mintmark.Digest.Sha1

structure State where
  a : UInt32
  b : UInt32
  c : UInt32
  d : UInt32
  e : UInt32

def initial : State := ⟨0x67452301, 0xEFCDAB89, 0x98BADCFE, 0x10325476, 0xC3D2E1F0⟩

def rotate (word count : UInt32) : UInt32 := (word <<< count) ||| (word >>> (32 - count))

def bigEndian (bytes : List UInt8) : UInt32 :=
  bytes.foldl (fun acc byte => (acc <<< 8) ||| byte.toUInt32) 0

def pad (message : List UInt8) : List UInt8 :=
  let bitLength := 8 * message.length
  let zeros := (119 - message.length % 64) % 64
  message ++ (0x80 : UInt8) :: List.replicate zeros 0 ++
    ((List.range 8).map fun i => Nat.toUInt8 (bitLength >>> (8 * (7 - i))))

/-- The next word of the schedule, from the words so far in reverse. -/
def stretch (reversed : List UInt32) : List UInt32 :=
  let back (n : Nat) : UInt32 := reversed.getD (n - 1) 0
  rotate (back 3 ^^^ back 8 ^^^ back 14 ^^^ back 16) 1 :: reversed

def schedule (block : List UInt8) : List UInt32 :=
  let first := (List.range 16).map fun i => bigEndian ((block.drop (4 * i)).take 4)
  ((List.range 64).foldl (fun reversed _ => stretch reversed) first.reverse).reverse

def mix (round : Nat) (b c d : UInt32) : UInt32 :=
  if round < 20 then (b &&& c) ||| ((b ^^^ 0xFFFFFFFF) &&& d)
  else if round < 40 then b ^^^ c ^^^ d
  else if round < 60 then (b &&& c) ||| (b &&& d) ||| (c &&& d)
  else b ^^^ c ^^^ d

def constant (round : Nat) : UInt32 :=
  if round < 20 then 0x5A827999
  else if round < 40 then 0x6ED9EBA1
  else if round < 60 then 0x8F1BBCDC
  else 0xCA62C1D6

def turn (s : State) (word : UInt32 × Nat) : State :=
  { a := rotate s.a 5 + mix word.2 s.b s.c s.d + s.e + word.1 + constant word.2
    b := s.a
    c := rotate s.b 30
    d := s.c
    e := s.d }

def absorb (s : State) (block : List UInt8) : State :=
  let t := (schedule block).zipIdx.foldl turn s
  ⟨s.a + t.a, s.b + t.b, s.c + t.c, s.d + t.d, s.e + t.e⟩

def blocks (count : Nat) (bytes : List UInt8) : List (List UInt8) :=
  (List.range count).map fun i => (bytes.drop (64 * i)).take 64

def wordBytes (word : UInt32) : List UInt8 :=
  [(word >>> 24).toUInt8, (word >>> 16).toUInt8, (word >>> 8).toUInt8, word.toUInt8]

/-- The twenty bytes of the digest. -/
def digest (message : List UInt8) : List UInt8 :=
  let padded := pad message
  let s := (blocks (padded.length / 64) padded).foldl absorb initial
  [s.a, s.b, s.c, s.d, s.e].flatMap wordBytes

end Mintmark.Digest.Sha1
