import Mintmark.Json.Numeral

/-!
# JSON tokens

A text is cut into tokens from the left. The cut ends because every token uses up at least one
character; the first character that starts none gives the token `bad`, and the rest is not looked
at. A string may hold half a surrogate pair: then it is well written and has no content.
-/

namespace Mintmark.Json

inductive Token where
  | null
  | bool (b : Bool)
  | number (n : Numeral)
  | string (content : Option String)
  | openArray
  | closeArray
  | openObject
  | closeObject
  | comma
  | colon
  | bad
deriving DecidableEq, Repr

/-- One step of a string: a character, or the 16-bit unit of a `\u` escape. -/
inductive Unit16 where
  | char (c : Char)
  | unit (n : Nat)
deriving DecidableEq, Repr

namespace Unit16

/-- The characters of some units, if every surrogate has its partner next to it. -/
def join? : List Unit16 → Option (List Char)
  | [] => some []
  | .char c :: rest => (join? rest).map (c :: ·)
  | .unit n :: rest =>
    if n < 0xD800 ∨ 0xDFFF < n then (join? rest).map (Char.ofNat n :: ·)
    else
      match rest with
      | .unit m :: rest =>
        if n < 0xDC00 ∧ 0xDC00 ≤ m ∧ m ≤ 0xDFFF then
          (join? rest).map (Char.ofNat (0x10000 + (n - 0xD800) * 0x400 + (m - 0xDC00)) :: ·)
        else none
      | _ => none

end Unit16

namespace Token

def hex4? (a b c d : Char) : Option Nat := do
  let a ← Text.hexValue? a
  let b ← Text.hexValue? b
  let c ← Text.hexValue? c
  let d ← Text.hexValue? d
  some (((a * 16 + b) * 16 + c) * 16 + d)

def simpleEscape? : Char → Option Char
  | '"' => some '"'
  | '\\' => some '\\'
  | '/' => some '/'
  | 'b' => some '\x08'
  | 'f' => some '\x0c'
  | 'n' => some '\n'
  | 'r' => some '\r'
  | 't' => some '\t'
  | _ => none

/-- The units of a string up to its closing quote, and what follows. -/
def readString? : List Char → Option (List Unit16 × List Char)
  | [] => none
  | '"' :: rest => some ([], rest)
  | '\\' :: 'u' :: a :: b :: c :: d :: rest =>
    match hex4? a b c d, readString? rest with
    | some n, some (units, rest) => some (.unit n :: units, rest)
    | _, _ => none
  | '\\' :: e :: rest =>
    match simpleEscape? e, readString? rest with
    | some c, some (units, rest) => some (.char c :: units, rest)
    | _, _ => none
  | c :: rest =>
    if c.toNat < 0x20 ∨ c = '\\' then none
    else (readString? rest).map fun (units, rest) => (.char c :: units, rest)

theorem length_of_readString? {cs rest : List Char} {units : List Unit16}
    (h : readString? cs = some (units, rest)) : rest.length < cs.length := by
  fun_induction readString? cs generalizing units rest with
  | case1 => simp at h
  | case2 => simp_all
  | case3 a b c d cs n units' rest' found _ ih =>
    cases h; have := ih found; simp only [List.length_cons]; omega
  | case4 => simp at h
  | case5 e cs _ c units' rest' found _ ih =>
    cases h; have := ih found; simp only [List.length_cons]; omega
  | case6 => simp at h
  | case7 => simp at h
  | case8 c cs _ _ _ ok ih =>
    obtain ⟨⟨units', rest'⟩, found, eq⟩ := Option.map_eq_some_iff.mp h
    cases eq; have := ih found; simp only [List.length_cons]; omega

/-- Digits, and the rest that starts with none. -/
def readDigits (cs : List Char) : List Char × List Char :=
  (cs.takeWhile Char.isDigit, cs.dropWhile Char.isDigit)

theorem length_readDigits (cs : List Char) :
    (readDigits cs).1.length + (readDigits cs).2.length = cs.length := by
  rw [readDigits, ← List.length_append, List.takeWhile_append_dropWhile]

/-- The point and the digits after it, if there is a point. -/
def readFraction? : List Char → Option (List Char × List Char)
  | '.' :: rest =>
    if (readDigits rest).1 = [] then none else some (readDigits rest)
  | rest => some ([], rest)

def readSign : List Char → Bool × List Char
  | '-' :: rest => (true, rest)
  | '+' :: rest => (false, rest)
  | rest => (false, rest)

/-- The mark and the digits of an exponent, if there is one. -/
def readExponent? : List Char → Option (Option Int × List Char)
  | [] => some (none, [])
  | c :: rest =>
    if c = 'e' ∨ c = 'E' then
      let sign := readSign rest
      let digits := readDigits sign.2
      let magnitude : Int := Text.decimalValue digits.1
      if digits.1 = [] then none
      else some (some (if sign.1 then -magnitude else magnitude), digits.2)
    else some (none, c :: rest)

/-- A number without its sign. A zero is not followed by another digit. -/
def readNumber? (negative : Bool) (cs : List Char) : Option (Numeral × List Char) :=
  let whole := (readDigits cs).1
  if whole = [] ∨ (whole.head? = some '0' ∧ whole.length ≠ 1) then none
  else do
    let (fraction, rest) ← readFraction? (readDigits cs).2
    let (exponent, rest) ← readExponent? rest
    some ({ negative, whole, fraction, exponent }, rest)

theorem length_of_readFraction? {cs digits rest : List Char}
    (h : readFraction? cs = some (digits, rest)) : rest.length ≤ cs.length := by
  unfold readFraction? at h
  split at h
  · next tail =>
    have lengths := length_readDigits tail
    split at h
    · simp at h
    · rw [Option.some.inj h] at lengths
      simp only [List.length_cons] at lengths ⊢; omega
  · cases h; simp

theorem length_readSign (cs : List Char) : (readSign cs).2.length ≤ cs.length := by
  unfold readSign; split <;> simp

theorem length_of_readExponent? {cs rest : List Char} {e : Option Int}
    (h : readExponent? cs = some (e, rest)) : rest.length ≤ cs.length := by
  unfold readExponent? at h
  split at h
  · cases h; simp
  · next c tail =>
    have sign := length_readSign tail
    have digits := length_readDigits (readSign tail).2
    simp only at h
    split at h
    · split at h
      · simp at h
      · cases h; simp only [List.length_cons]; omega
    · cases h; simp

theorem length_of_readNumber? {negative : Bool} {cs rest : List Char} {n : Numeral}
    (h : readNumber? negative cs = some (n, rest)) : rest.length < cs.length := by
  unfold readNumber? at h
  have digits := length_readDigits cs
  simp only at h
  split at h
  · simp at h
  · next some_digit =>
    simp only [Option.bind_eq_bind, Option.bind_eq_some_iff, Prod.exists, Option.some.injEq,
      Prod.mk.injEq] at h
    obtain ⟨fraction, rest₁, found, e, rest₂, found₂, _, rfl⟩ := h
    have := length_of_readFraction? found
    have := length_of_readExponent? found₂
    have : 0 < (readDigits cs).1.length := by
      apply List.length_pos_iff.mpr
      intro eq; exact some_digit (Or.inl eq)
    omega

def isSpace (c : Char) : Bool := c == ' ' || c == '\n' || c == '\t' || c == '\r'

def number? (negative : Bool) (cs : List Char) : Option (Token × List Char) :=
  (readNumber? negative cs).map fun (n, rest) => (number n, rest)

/-- The token that starts here, with what follows it. -/
def first? : List Char → Option (Token × List Char)
  | '[' :: rest => some (openArray, rest)
  | ']' :: rest => some (closeArray, rest)
  | '\x7b' :: rest => some (openObject, rest)
  | '\x7d' :: rest => some (closeObject, rest)
  | ',' :: rest => some (comma, rest)
  | ':' :: rest => some (colon, rest)
  | 'n' :: 'u' :: 'l' :: 'l' :: rest => some (null, rest)
  | 't' :: 'r' :: 'u' :: 'e' :: rest => some (bool true, rest)
  | 'f' :: 'a' :: 'l' :: 's' :: 'e' :: rest => some (bool false, rest)
  | '"' :: rest =>
    (readString? rest).map fun (units, rest) =>
      (string ((Unit16.join? units).map String.ofList), rest)
  | '-' :: rest => number? true rest
  | cs => number? false cs

theorem length_of_number? {negative : Bool} {cs rest : List Char} {t : Token}
    (h : number? negative cs = some (t, rest)) : rest.length < cs.length := by
  obtain ⟨⟨n, rest'⟩, found, eq⟩ := Option.map_eq_some_iff.mp h
  cases eq
  exact length_of_readNumber? found

theorem length_of_first? {cs rest : List Char} {t : Token} (h : first? cs = some (t, rest)) :
    rest.length < cs.length := by
  unfold first? at h
  split at h
  case h_10 =>
    obtain ⟨⟨units, rest'⟩, found, eq⟩ := Option.map_eq_some_iff.mp h
    cases eq
    have := length_of_readString? found
    simp only [List.length_cons]; omega
  case h_11 =>
    have := length_of_number? h
    simp only [List.length_cons]; omega
  case h_12 => exact length_of_number? h
  all_goals
    cases h
    simp only [List.length_cons]; omega

end Token

/-- The tokens of a text. -/
def tokens : List Char → List Token
  | [] => []
  | c :: cs =>
    if Token.isSpace c then tokens cs
    else
      match _h : Token.first? (c :: cs) with
      | some (t, rest) => t :: tokens rest
      | none => [.bad]
termination_by cs => cs.length
decreasing_by
  · simp
  · exact Token.length_of_first? _h

end Mintmark.Json
