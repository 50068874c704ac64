import Mintmark.Json.Bytes

/-!
# Texts and their bytes

The bytes of a text are read as that text. Of other bytes, one that belongs to no character breaks
the text off where it stands outside a string or behind an open backslash. Elsewhere in a string it
does not: the string ends where it would have ended without it, but it has no content. So a string
with content is made of characters only, which is `characters_of_content`.
-/

namespace Mintmark.Json

theorem fromUTF8?_toUTF8 (s : String) : String.fromUTF8? s.toUTF8 = some s := by
  rw [String.fromUTF8?, String.toUTF8_eq_toByteArray, dif_pos s.isValidUTF8]
  rfl

theorem Decoder.ofBytes_toUTF8 {α : Type} (decode : Decoder α) (s : String) :
    ofBytes decode s.toUTF8 = ofText decode s := by
  rw [ofBytes, Bytes.text, fromUTF8?_toUTF8]

namespace Unit16

/-- Half a surrogate pair is followed by another first half. -/
def Spoiled (units : List Unit16) : Prop :=
  ∃ front back, units = front ++ .unit 0xD800 :: .unit 0xD800 :: back

theorem Spoiled.cons {units : List Unit16} (spoiled : Spoiled units) (u : Unit16) :
    Spoiled (u :: units) := by
  obtain ⟨front, back, rfl⟩ := spoiled
  exact ⟨u :: front, back, rfl⟩

theorem join?_of_spoiled {units : List Unit16} (spoiled : Spoiled units) : join? units = none := by
  obtain ⟨front, back, rfl⟩ := spoiled
  fun_induction join? front with
  | case1 => rfl
  | case2 c front ih => rw [List.cons_append, join?, ih, Option.map_none]
  | case3 n front single ih =>
    rw [List.cons_append, join?.eq_def]
    simp only [if_pos single, ih, Option.map_none]
  | case4 n surrogate m front pair ih =>
    rw [List.cons_append, List.cons_append, join?.eq_def]
    simp only [if_neg surrogate, if_pos pair, ih, Option.map_none]
  | case5 n surrogate m front apart =>
    rw [List.cons_append, List.cons_append, join?.eq_def]
    simp only [if_neg surrogate, if_neg apart]
  | case6 n front surrogate alone =>
    rw [List.cons_append, join?.eq_def]
    simp only [if_neg surrogate]
    -- a surrogate without a partner: the two halves come next, or a character
    cases front with
    | nil => simp
    | cons u front =>
      cases u with
      | char c => rfl
      | unit m => exact absurd rfl (alone m front)

end Unit16

namespace Token

/-- What a string begins with, and how it goes on. -/
inductive Reads : List Char → List Unit16 → List Char → Prop
  | closed (rest : List Char) : Reads ('"' :: rest) [] rest
  | unicode {a b c d : Char} {n : Nat} {rest tail : List Char} {units : List Unit16}
      (digits : hex4? a b c d = some n) (later : readString? rest = some (units, tail)) :
      Reads ('\\' :: 'u' :: a :: b :: c :: d :: rest) (.unit n :: units) tail
  | escaped {e c : Char} {rest tail : List Char} {units : List Unit16}
      (simple : simpleEscape? e = some c) (later : readString? rest = some (units, tail)) :
      Reads ('\\' :: e :: rest) (.char c :: units) tail
  | plain {c : Char} {rest tail : List Char} {units : List Unit16} (own : c ≠ '\\')
      (later : readString? rest = some (units, tail)) : Reads (c :: rest) (.char c :: units) tail

theorem reads_of_readString? {cs tail : List Char} {units : List Unit16}
    (read : readString? cs = some (units, tail)) : Reads cs units tail := by
  fun_induction readString? cs generalizing units tail with
  | case1 => cases read
  | case2 rest =>
    cases read
    exact .closed rest
  | case3 a b c d rest n units' tail' later digits _ =>
    cases read
    exact .unicode digits later
  | case4 => cases read
  | case5 e rest _ c units' tail' later simple _ =>
    cases read
    exact .escaped simple later
  | case6 => cases read
  | case7 => cases read
  | case8 c rest _ _ _ allowed _ =>
    obtain ⟨⟨units', tail'⟩, later, same⟩ := Option.map_eq_some_iff.mp read
    cases same
    exact .plain (fun same => allowed (.inr same)) later

theorem ne_backslash_of_hex4? {a b c d : Char} {n : Nat} (read : hex4? a b c d = some n) :
    a ≠ '\\' ∧ b ≠ '\\' ∧ c ≠ '\\' ∧ d ≠ '\\' := by
  have none : Text.hexValue? '\\' = none := by decide
  refine ⟨?_, ?_, ?_, ?_⟩ <;> rintro rfl <;> simp [hex4?, none] at read

end Token

namespace Bytes

open Token Unit16

variable (rest : List (Option Char))

theorem tokens_fill_none : tokens (fill false (none :: rest)) = [.bad] := by
  have unknown (cs : List Char) : first? ('\\' :: cs) = none := rfl
  simp only [fill, halves, Bool.false_eq_true, if_false, List.cons_append, List.nil_append]
  rw [tokens, if_neg (by decide)]
  split
  · next found => cases (unknown _).symm.trans found
  · rfl

theorem readString?_fill_none :
    readString? (fill false (none :: rest)) =
      (readString? (fill false rest)).map fun (units, rest) =>
        (.unit 0xD800 :: .unit 0xD800 :: units, rest) := by
  have half : hex4? 'd' '8' '0' '0' = some 0xD800 := by decide
  simp only [fill, halves, Bool.false_eq_true, if_false, List.cons_append, List.nil_append,
    readString?, half]
  cases readString? (fill false rest) <;> rfl

theorem readString?_fill_open : readString? ('\\' :: fill true (none :: rest)) = none := by
  simp only [fill, if_true, List.cons_append, List.nil_append]
  rw [readString?]
  · rfl
  · intro a b c d rest same
    cases same

section

variable {places : List (Option Char)} {c : Char} {cs tail : List Char} {units : List Unit16}

/-- What is no backslash has not been put in anywhere. -/
theorem places_of_fill (filled : fill false places = c :: cs) (plain : c ≠ '\\') :
    ∃ rest, places = some c :: rest ∧ fill false rest = cs := by
  rcases places with _ | ⟨_ | c', rest⟩
  · cases filled
  · exact absurd (List.cons.inj filled).1.symm plain
  · obtain rfl : c' = c := (List.cons.inj filled).1
    rw [fill, beq_false_of_ne plain, Bool.false_and] at filled
    exact ⟨rest, rfl, (List.cons.inj filled).2⟩

theorem places_of_fill_open (filled : fill true places = c :: cs) (own : c ≠ '\uFFFD') :
    ∃ rest, places = some c :: rest ∧ fill false rest = cs := by
  rcases places with _ | ⟨_ | c', rest⟩
  · cases filled
  · exact absurd (List.cons.inj filled).1.symm own
  · rw [fill, Bool.not_true, Bool.and_false] at filled
    obtain ⟨rfl, rfl⟩ := List.cons.inj filled
    exact ⟨rest, rfl, rfl⟩

/-- There are characters in the first places, and the text goes on behind them. -/
def Characters (places : List (Option Char)) (tail : List Char) : Prop :=
  ∃ (front : List Char) (back : List (Option Char)),
    places = front.map some ++ back ∧ tail = fill false back

theorem Characters.cons (characters : Characters places tail) (c : Char) :
    Characters (some c :: places) tail := by
  obtain ⟨front, back, rfl, rest⟩ := characters
  exact ⟨c :: front, back, rfl, rest⟩

theorem spoiled_or_characters {places : List (Option Char)} {units : List Unit16} {tail : List Char}
    (read : readString? (fill false places) = some (units, tail)) :
    Spoiled units ∨ Characters places tail := by
  have goesOn {rest : List (Option Char)} {units : List Unit16}
      (shorter : rest.length < places.length)
      (later : readString? (fill false rest) = some (units, tail)) :=
    spoiled_or_characters later
  rcases places with _ | ⟨_ | c, rest⟩
  · cases read
  · rw [readString?_fill_none] at read
    obtain ⟨⟨units', tail'⟩, -, same⟩ := Option.map_eq_some_iff.mp read
    cases same
    exact .inl ⟨[], units', rfl⟩
  · generalize filled : fill false (some c :: rest) = cs at read
    cases reads_of_readString? read with
    | closed cs =>
      obtain ⟨_, same, rfl⟩ := places_of_fill filled (by decide)
      cases same
      exact .inr ⟨['"'], rest, rfl, rfl⟩
    | plain own later =>
      obtain ⟨_, same, rfl⟩ := places_of_fill filled own
      cases same
      exact (goesOn (by simp) later).imp (·.cons _) (·.cons _)
    | @unicode h i j k n _ _ _ digits later =>
      obtain ⟨rfl, opened⟩ := List.cons.inj filled
      -- a digit has not been put in either, so all four stand in places of their own
      obtain ⟨one, two, three, four⟩ := ne_backslash_of_hex4? digits
      obtain ⟨rest, rfl, first⟩ := places_of_fill_open opened (by decide)
      obtain ⟨rest, rfl, second⟩ := places_of_fill first one
      obtain ⟨rest, rfl, third⟩ := places_of_fill second two
      obtain ⟨rest, rfl, fourth⟩ := places_of_fill third three
      obtain ⟨rest, rfl, rfl⟩ := places_of_fill fourth four
      refine (goesOn (by simp only [List.length_cons]; omega) later).imp (·.cons _)
        fun characters => ?_
      exact (((((characters.cons k).cons j).cons i).cons h).cons 'u').cons '\\'
    | escaped simple later =>
      obtain ⟨rfl, opened⟩ := List.cons.inj filled
      obtain ⟨rest, rfl, rfl⟩ := places_of_fill_open opened (by rintro rfl; cases simple)
      exact (goesOn (by simp only [List.length_cons]; omega) later).imp (·.cons _)
        fun characters => (characters.cons _).cons _
termination_by places.length
decreasing_by exact shorter

/-- A string that has content is made of characters. -/
theorem characters_of_content {content : List Char}
    (read : readString? (fill false places) = some (units, tail))
    (kept : join? units = some content) : Characters places tail := by
  refine (spoiled_or_characters read).resolve_left fun spoiled => ?_
  rw [join?_of_spoiled spoiled] at kept
  cases kept

end

end Bytes

end Mintmark.Json
