import Mintmark.Guid

/-!
# File names of inventories

The stem of a file is the inventory id with every byte escaped that is not a letter, a digit, a
hyphen or an underscore of ASCII. A stem that would be too long gives way to a name-based GUID behind
a tilde, which no escaped stem contains.
-/

namespace Mintmark.Store.FileName

def isPlain (b : UInt8) : Bool :=
  let c := Char.ofNat b.toNat
  b < 128 && (c.isAlphanum || c == '-' || c == '_')

def escape (b : UInt8) : List Char :=
  if isPlain b then [Char.ofNat b.toNat]
  else '.' :: Text.zeroPadded 2 (Text.digits 16 b.toNat)

def escaped (bytes : List UInt8) : List Char := bytes.flatMap escape

/-- The longest stem that is written as it is. -/
def maxStem : Nat := 200

/-- The stem for an inventory id. -/
def stem (name : String) : String :=
  let bytes := name.toUTF8.toList
  let plain := escaped bytes
  if plain.length ≤ maxStem then String.ofList plain
  else String.ofList ('~' :: (Guid.ofName Guid.objectNames bytes).plainText)

def dataFile (name : String) : String := stem name ++ ".json"

def lockFile (name : String) : String := stem name ++ ".lock"

/-- Where a document is written before it takes its place. -/
def tempFile (name : String) : String := stem name ++ ".json.tmp"

end Mintmark.Store.FileName
