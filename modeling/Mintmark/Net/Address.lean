import Mintmark.Text.Digits

/-!
# Network addresses

Addresses of the fourth version are four decimal numbers without leading zeros. Those of the sixth
are eight groups of hexadecimal digits; one run of zero groups may be left out, and the last two
groups may be written as an address of the fourth version.
-/

namespace Mintmark.Net

inductive Address where
  | v4 (bytes : List Nat)
  | v6 (groups : List Nat)
deriving DecidableEq, Repr

namespace Address

def readByte? (cs : List Char) : Option Nat :=
  if 3 < cs.length ∨ (cs.head? = some '0' ∧ cs.length ≠ 1) then none
  else (Text.readDigits? 10 cs).filter (· < 256)

/-- The four numbers of a dotted address. -/
def readV4? (cs : List Char) : Option (List Nat) := do
  let bytes ← (cs.splitOn '.').mapM readByte?
  if bytes.length = 4 then some bytes else none

def readGroup? (cs : List Char) : Option Nat :=
  if 4 < cs.length then none else Text.readDigits? 16 (cs.map Char.toLower)

/-- The last part of a run of groups: a group, or a dotted address for two. -/
def readLast? (cs : List Char) : Option (List Nat) :=
  match readV4? cs with
  | some [a, b, c, d] => some [256 * a + b, 256 * c + d]
  | _ => (readGroup? cs).map ([·])

/-- Groups between colons; no text is no group. -/
def readGroups? (mayEndDotted : Bool) (cs : List Char) : Option (List Nat) :=
  if cs = [] then some []
  else
    let parts := cs.splitOn ':'
    match parts.getLast? with
    | none => none
    | some last => do
      let before ← parts.dropLast.mapM readGroup?
      let after ← if mayEndDotted then readLast? last else (readGroup? last).map ([·])
      some (before ++ after)

/-- The text before the first double colon and the text after it. -/
def splitGap : List Char → Option (List Char × List Char)
  | ':' :: ':' :: rest => some ([], rest)
  | c :: rest => (splitGap rest).map fun (before, after) => (c :: before, after)
  | [] => none

/-- The eight groups of an address. -/
def readV6? (cs : List Char) : Option (List Nat) :=
  match splitGap cs with
  | none => (readGroups? true cs).filter (·.length = 8)
  | some (before, after) => do
    let before ← readGroups? false before
    let after ← readGroups? true after
    let count := before.length + after.length
    if count ≤ 7 then some (before ++ List.replicate (8 - count) 0 ++ after) else none

def parse? (s : String) : Option Address :=
  match readV4? s.toList with
  | some bytes => some (v4 bytes)
  | none => (readV6? s.toList).map v6

def dotted (bytes : List Nat) : List Char :=
  List.intercalate ['.'] (bytes.map (Text.digits 10))

def joined (groups : List Nat) : List Char :=
  List.intercalate [':'] (groups.map (Text.digits 16))

/-- The number of zero groups from each place on. -/
def zeroRun (groups : List Nat) (start : Nat) : Nat :=
  ((groups.drop start).takeWhile (· = 0)).length

/-- Where the first of the longest runs of zero groups starts, and its length. -/
def longestGap (groups : List Nat) : Nat × Nat :=
  (List.range groups.length).foldl (fun best start =>
    if best.2 < zeroRun groups start then (start, zeroRun groups start) else best) (0, 0)

/-- The text of an address. The longest run of at least two zero groups is left out, and a mapped
address of the fourth version is written with dots. -/
def text : Address → String
  | v4 bytes => String.ofList (dotted bytes)
  | v6 groups =>
    match groups with
    | [0, 0, 0, 0, 0, 0xFFFF, high, low] =>
      String.ofList (":".toList ++ ":ffff:".toList
        ++ dotted [high / 256, high % 256, low / 256, low % 256])
    | _ =>
      let (start, length) := longestGap groups
      if length < 2 then String.ofList (joined groups)
      else
        String.ofList (joined (groups.take start) ++ [':', ':']
          ++ joined (groups.drop (start + length)))

end Address
end Mintmark.Net
