import Mintmark.Json.Decode

/-!
# JSON in bytes

Bytes are taken for UTF-8, but a text need not be UTF-8 throughout. A byte that belongs to no
character may stand in a string, which then has no content, just as one with half a surrogate pair:
it can be passed over, and only whoever wants the content is refused.
-/

namespace Mintmark.Json

namespace Bytes

/-- The characters from a place on, with nothing in the place of a byte that belongs to none. -/
def symbols (content : ByteArray) (i : Nat) : List (Option Char) :=
  if i < content.size then
    match content.utf8DecodeChar? i with
    | some c => some c :: symbols content (i + c.utf8Size)
    | none => none :: symbols content (i + 1)
  else []
termination_by content.size - i
decreasing_by
  · have := c.utf8Size_pos
    omega
  · omega

/-- Two first halves of a surrogate pair. Neither finds its partner, whatever stands around them. -/
def halves : List Char := ['\\', 'u', 'd', '8', '0', '0', '\\', 'u', 'd', '8', '0', '0']

/-- Puts a character in every place. Behind an open backslash it is one that no escape has. -/
def fill (isOpen : Bool) : List (Option Char) → List Char
  | [] => []
  | some c :: rest => c :: fill (c == '\\' && !isOpen) rest
  | none :: rest => (if isOpen then ['\uFFFD'] else halves) ++ fill false rest

/-- The text of some bytes. -/
def text (content : ByteArray) : String :=
  match String.fromUTF8? content with
  | some text => text
  | none => String.ofList (fill false (symbols content 0))

end Bytes

/-- Decodes the bytes of a whole text. -/
def Decoder.ofBytes {α : Type} (decode : Decoder α) (content : ByteArray) : Except Fault α :=
  ofText decode (Bytes.text content)

end Mintmark.Json
