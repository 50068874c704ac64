import Mintmark.Json.Printer
import Mintmark.Json.Token
import Mintmark.Proofs.Text.Digits

/-!
# Strings as they are written

Whatever the string, a reader finds it again between its quotes and goes on behind the closing one.
Each character is read back from its own escape, so the induction is on the characters.
-/

namespace Mintmark.Json

namespace Token

theorem hexValue?_digit {d : Nat} (lt : d < 16) : Text.hexValue? (Text.digit d) = some d := by
  have all : ∀ d : Fin 16, Text.hexValue? (Text.digit d) = some d.val := by decide
  exact all ⟨d, lt⟩

theorem zeroPadded_digits {n : Nat} (lt : n < 256) :
    Text.zeroPadded 4 (Text.digits 16 n) =
      ['0', '0', Text.digit (n / 16), Text.digit (n % 16)] := by
  by_cases small : n < 16
  · rw [Text.digits_of_lt small, Nat.div_eq_of_lt small, Nat.mod_eq_of_lt small]
    rfl
  · have high : n / 16 < 16 := Nat.div_lt_of_lt_mul lt
    rw [Text.digits_of_le (by decide) (Nat.le_of_not_lt small), Text.digits_of_lt high]
    rfl

theorem hex4?_digits {n : Nat} (lt : n < 256) :
    hex4? '0' '0' (Text.digit (n / 16)) (Text.digit (n % 16)) = some n := by
  have zero : Text.hexValue? '0' = some 0 := by decide
  have high := hexValue?_digit (Nat.div_lt_of_lt_mul lt : n / 16 < 16)
  have low := hexValue?_digit (Nat.mod_lt n (by decide) : n % 16 < 16)
  simp [hex4?, zero, high, low]
  omega

/-- The unit that the escape of a character is read as. -/
def unitOf (c : Char) : Unit16 :=
  if c ∉ ['\x08', '\x0c', '\n', '\r', '\t'] ∧ c.toNat < 0x20 then .unit c.toNat else .char c

theorem readString?_simple {e c : Char} (found : simpleEscape? e = some c) (rest : List Char) :
    readString? ('\\' :: e :: rest) =
      (readString? rest).map fun (units, rest) => (.char c :: units, rest) := by
  have plain : e ≠ 'u' := by
    rintro rfl
    cases found
  rw [readString?]
  · rw [found]
    cases readString? rest <;> rfl
  · intro a b c d rest unicode
    exact absurd unicode plain

theorem readString?_plain {c : Char} (quote : c ≠ '"') (backslash : c ≠ '\\')
    (control : ¬ c.toNat < 0x20) (rest : List Char) :
    readString? (c :: rest) =
      (readString? rest).map fun (units, rest) => (.char c :: units, rest) := by
  rw [readString?]
  · rw [if_neg (by rintro (low | same) <;> contradiction)]
  · exact quote
  · intro a b c d rest same
    exact absurd same backslash
  · intro e rest same
    exact absurd same backslash

theorem readString?_control {c : Char} (control : c.toNat < 0x20) (rest : List Char) :
    readString? ('\\' :: 'u' :: Text.zeroPadded 4 (Text.digits 16 c.toNat) ++ rest) =
      (readString? rest).map fun (units, rest) => (.unit c.toNat :: units, rest) := by
  have lt : c.toNat < 256 := Nat.lt_trans control (by decide)
  rw [zeroPadded_digits lt]
  simp only [List.cons_append, List.nil_append, readString?, hex4?_digits lt]
  cases readString? rest <;> rfl

theorem readString?_escape (c : Char) (rest : List Char) :
    readString? (escape c ++ rest) =
      (readString? rest).map fun (units, rest) => (unitOf c :: units, rest) := by
  unfold escape
  split
  case h_8 quote backslash back form line ret tab =>
    by_cases control : c.toNat < 0x20
    · have unit : unitOf c = .unit c.toNat := by
        rw [unitOf, if_pos]
        simp only [List.mem_cons, List.not_mem_nil, or_false, not_or]
        exact ⟨⟨back, form, line, ret, tab⟩, control⟩
      rw [if_pos control, unit]
      exact readString?_control control rest
    · have char : unitOf c = .char c := by
        simp [unitOf, control]
      rw [if_neg control, char]
      exact readString?_plain quote backslash control rest
  all_goals exact readString?_simple rfl rest

theorem readString?_escapes (cs rest : List Char) :
    readString? (cs.flatMap escape ++ '"' :: rest) = some (cs.map unitOf, rest) := by
  induction cs with
  | nil => simp [readString?]
  | cons c cs ih =>
    rw [List.flatMap_cons, List.append_assoc, readString?_escape, ih]
    rfl

theorem join?_map_unitOf (cs : List Char) : Unit16.join? (cs.map unitOf) = some cs := by
  induction cs with
  | nil => rfl
  | cons c cs ih =>
    rw [List.map_cons, unitOf]
    split
    · next control =>
      have low : c.toNat < 0xD800 := Nat.lt_trans control.2 (by decide)
      rw [Unit16.join?.eq_def]
      simp only [if_pos (Or.inl low), ih, Option.map_some, Char.ofNat_toNat]
    · rw [Unit16.join?, ih, Option.map_some]

/-- A quoted string is one token. -/
theorem first?_quoted (s : String) (rest : List Char) :
    first? (quoted s ++ rest) = some (string (some s), rest) := by
  rw [quoted, List.cons_append, List.cons_append, List.append_assoc, List.singleton_append, first?,
    readString?_escapes, Option.map_some]
  dsimp only
  rw [join?_map_unitOf, Option.map_some, String.ofList_toList]

end Token

end Mintmark.Json
