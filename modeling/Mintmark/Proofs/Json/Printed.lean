import Mintmark.Json.Decode
import Mintmark.Proofs.Json.Numerals
import Mintmark.Proofs.Json.Strings

/-!
# Documents read back

Reading the text of a value, on one line or over several, gives the tree of the value and nothing is
left over. The text is cut into the tokens of the value, and these are taken in so that the whole
value ends up in its place; both by induction on the value.
-/

namespace Mintmark.Json

namespace Value

mutual

/-- All numbers in the value are whole and have at most 64 bits. -/
def Plain : Value → Prop
  | number n => ∃ magnitude, n.Fitting magnitude
  | array items => PlainItems items
  | object entries => PlainEntries entries
  | null | bool _ | string _ => True

def PlainItems : List Value → Prop
  | [] => True
  | item :: rest => Plain item ∧ PlainItems rest

def PlainEntries : List (String × Value) → Prop
  | [] => True
  | (_, value) :: rest => Plain value ∧ PlainEntries rest

end

mutual

/-- The tokens that a value is written with. -/
def lexemes : Value → List Token
  | null => [.null]
  | bool b => [.bool b]
  | number n => [.number n]
  | string s => [.string (some s)]
  | array items => .openArray :: itemLexemes items ++ [.closeArray]
  | object entries => .openObject :: entryLexemes entries ++ [.closeObject]

def itemLexemes : List Value → List Token
  | [] => []
  | [item] => lexemes item
  | item :: rest => lexemes item ++ .comma :: itemLexemes rest

def entryLexemes : List (String × Value) → List Token
  | [] => []
  | [(key, value)] => .string (some key) :: .colon :: lexemes value
  | (key, value) :: rest =>
    .string (some key) :: .colon :: lexemes value ++ .comma :: entryLexemes rest

end

end Value

theorem tokens_of_first? {c : Char} {cs rest : List Char} {t : Token}
    (first : Token.first? (c :: cs) = some (t, rest)) (space : Token.isSpace c = false) :
    tokens (c :: cs) = t :: tokens rest := by
  rw [tokens]
  simp only [space, Bool.false_eq_true, if_false]
  split
  · next t' rest' found =>
    rw [first] at found
    cases found
    rfl
  · next found =>
    rw [first] at found
    cases found

theorem tokens_space {c : Char} (space : Token.isSpace c = true) (cs : List Char) :
    tokens (c :: cs) = tokens cs := by
  rw [tokens, if_pos space]

@[simp] theorem tokens_blank (cs : List Char) : tokens (' ' :: cs) = tokens cs :=
  tokens_space (by decide) cs

@[simp] theorem tokens_newLine (level : Nat) (cs : List Char) :
    tokens (Value.newLine level ++ cs) = tokens cs := by
  have blanks (count : Nat) : tokens (List.replicate count ' ' ++ cs) = tokens cs := by
    induction count with
    | zero => rfl
    | succ count ih =>
      rw [List.replicate_succ, List.cons_append, tokens_blank, ih]
  rw [Value.newLine, List.cons_append, tokens_space (by decide), blanks]

@[simp] theorem tokens_quoted (s : String) (rest : List Char) :
    tokens (quoted s ++ rest) = .string (some s) :: tokens rest :=
  tokens_of_first? (Token.first?_quoted s rest) (by decide)

theorem first?_digit {c : Char} (digit : c.isDigit = true) (cs : List Char) :
    Token.first? (c :: cs) = Token.number? false (c :: cs) := by
  unfold Token.first?
  split
  case h_12 => rfl
  all_goals
    next eq =>
      cases eq
      exact absurd digit (by decide)

theorem tokens_number {n : Numeral} {magnitude : Nat} (fitting : n.Fitting magnitude)
    {rest : List Char} (boundary : Boundary rest) :
    tokens (n.text ++ rest) = .number n :: tokens rest := by
  have same : n = { negative := n.negative, whole := Text.digits 10 magnitude } := by
    obtain ⟨negative, whole, fraction, exponent⟩ := n
    obtain ⟨-, rfl, rfl, rfl⟩ := fitting
    rfl
  have read : Token.number? n.negative (Text.digits 10 magnitude ++ rest) =
      some (.number n, rest) := by
    rw [Token.number?, Token.readNumber?_digits boundary, Option.map_some, ← same]
  rw [n.text_of_fitting fitting]
  cases negative : n.negative with
  | true =>
    rw [negative] at read
    exact tokens_of_first? read (by decide)
  | false =>
    rw [negative] at read
    cases front : Text.digits 10 magnitude with
    | nil => exact absurd front (Text.digits_ne_nil 10 magnitude)
    | cons c cs =>
      have digit : c.isDigit = true := Text.isDigit_of_mem_digits (front ▸ List.mem_cons_self)
      rw [front] at read
      refine tokens_of_first? ((first?_digit digit _).trans read) ?_
      cases space : Token.isSpace c with
      | false => rfl
      | true =>
        simp only [Token.isSpace, Bool.or_eq_true, beq_iff_eq] at space
        rcases space with ((rfl | rfl) | rfl) | rfl <;> exact absurd digit (by decide)

@[simp] theorem tokens_openArray (rest : List Char) :
    tokens ('[' :: rest) = .openArray :: tokens rest := tokens_of_first? rfl (by decide)

@[simp] theorem tokens_closeArray (rest : List Char) :
    tokens (']' :: rest) = .closeArray :: tokens rest := tokens_of_first? rfl (by decide)

@[simp] theorem tokens_openObject (rest : List Char) :
    tokens ('\x7b' :: rest) = .openObject :: tokens rest := tokens_of_first? rfl (by decide)

@[simp] theorem tokens_closeObject (rest : List Char) :
    tokens ('\x7d' :: rest) = .closeObject :: tokens rest := tokens_of_first? rfl (by decide)

@[simp] theorem tokens_comma (rest : List Char) :
    tokens (',' :: rest) = .comma :: tokens rest := tokens_of_first? rfl (by decide)

@[simp] theorem tokens_colon (rest : List Char) :
    tokens (':' :: rest) = .colon :: tokens rest := tokens_of_first? rfl (by decide)

theorem boundary_newLine (level : Nat) (rest : List Char) :
    Boundary (Value.newLine level ++ rest) := by
  intro c member
  rw [Value.newLine, List.cons_append, List.head?_cons, Option.mem_some_iff] at member
  rw [← member]
  decide

theorem boundary_cons {c : Char} (stop : c.isDigit = false ∧ c ≠ '.' ∧ c ≠ 'e' ∧ c ≠ 'E')
    (rest : List Char) : Boundary (c :: rest) := by
  intro c' member
  rw [List.head?_cons, Option.mem_some_iff] at member
  rw [← member]
  exact stop

theorem boundary_comma (rest : List Char) : Boundary (',' :: rest) := boundary_cons (by decide) rest

namespace Value

theorem tokens_atom {v : Value} (plain : v.Plain) (single : ∀ items, v ≠ array items)
    (single' : ∀ entries, v ≠ object entries) {rest : List Char} (boundary : Boundary rest) :
    tokens (v.atom ++ rest) = v.lexemes ++ tokens rest := by
  cases v with
  | null => exact tokens_of_first? rfl (by decide)
  | bool b => cases b <;> exact tokens_of_first? rfl (by decide)
  | number n =>
    obtain ⟨magnitude, fitting⟩ := plain
    exact tokens_number fitting boundary
  | string s => exact tokens_quoted s rest
  | array items => exact absurd rfl (single items)
  | object entries => exact absurd rfl (single' entries)

mutual

/-- The indented text is cut into the tokens of the value. -/
theorem tokens_indented (level : Nat) (v : Value) (plain : v.Plain) (rest : List Char)
    (boundary : Boundary rest) :
    tokens (v.indented level ++ rest) = v.lexemes ++ tokens rest := by
  match v with
  | null | bool _ | number _ | string _ =>
    exact tokens_atom plain (by simp) (by simp) boundary
  | array [] => simp [indented, lexemes, itemLexemes]
  | object [] => simp [indented, lexemes, entryLexemes]
  | array (item :: items) =>
    have inner := tokens_indentedItems (level + 1) (item :: items) plain
      (newLine level ++ ']' :: rest) (boundary_newLine level _)
    simp [indented, lexemes, inner]
  | object ((key, value) :: entries) =>
    have inner := tokens_indentedEntries (level + 1) ((key, value) :: entries) plain
      (newLine level ++ '\x7d' :: rest) (boundary_newLine level _)
    simp [indented, lexemes, inner]

theorem tokens_indentedItems (level : Nat) (items : List Value) (plain : PlainItems items)
    (rest : List Char) (boundary : Boundary rest) :
    tokens (indentedItems level items ++ rest) = itemLexemes items ++ tokens rest := by
  match items with
  | [] => rfl
  | [item] =>
    have only := tokens_indented level item plain.1 rest boundary
    simp [indentedItems, itemLexemes, only]
  | item :: next :: items =>
    have first := tokens_indented level item plain.1
      (',' :: (indentedItems level (next :: items) ++ rest)) (boundary_comma _)
    have others := tokens_indentedItems level (next :: items) plain.2 rest boundary
    simp [indentedItems, itemLexemes, first, others]

theorem tokens_indentedEntries (level : Nat) (entries : List (String × Value))
    (plain : PlainEntries entries) (rest : List Char) (boundary : Boundary rest) :
    tokens (indentedEntries level entries ++ rest) = entryLexemes entries ++ tokens rest := by
  match entries with
  | [] => rfl
  | [(key, value)] =>
    have only := tokens_indented level value plain.1 rest boundary
    simp [indentedEntries, entryLexemes, only]
  | (key, value) :: next :: entries =>
    have first := tokens_indented level value plain.1
      (',' :: (indentedEntries level (next :: entries) ++ rest)) (boundary_comma _)
    have others := tokens_indentedEntries level (next :: entries) plain.2 rest boundary
    simp [indentedEntries, entryLexemes, first, others]

end

mutual

/-- So is the text on one line. -/
theorem tokens_compact (v : Value) (plain : v.Plain) (rest : List Char) (boundary : Boundary rest) :
    tokens (v.compact ++ rest) = v.lexemes ++ tokens rest := by
  match v with
  | null | bool _ | number _ | string _ =>
    exact tokens_atom plain (by simp) (by simp) boundary
  | array items =>
    have inner := tokens_compactItems items plain (']' :: rest) (boundary_cons (by decide) rest)
    simp [compact, lexemes, inner]
  | object entries =>
    have inner := tokens_compactEntries entries plain ('\x7d' :: rest)
      (boundary_cons (by decide) rest)
    simp [compact, lexemes, inner]

theorem tokens_compactItems (items : List Value) (plain : PlainItems items) (rest : List Char)
    (boundary : Boundary rest) :
    tokens (compactItems items ++ rest) = itemLexemes items ++ tokens rest := by
  match items with
  | [] => rfl
  | [item] =>
    have only := tokens_compact item plain.1 rest boundary
    simp [compactItems, itemLexemes, only]
  | item :: next :: items =>
    have first := tokens_compact item plain.1 (',' :: (compactItems (next :: items) ++ rest))
      (boundary_comma _)
    have others := tokens_compactItems (next :: items) plain.2 rest boundary
    simp [compactItems, itemLexemes, first, others]

theorem tokens_compactEntries (entries : List (String × Value)) (plain : PlainEntries entries)
    (rest : List Char) (boundary : Boundary rest) :
    tokens (compactEntries entries ++ rest) = entryLexemes entries ++ tokens rest := by
  match entries with
  | [] => rfl
  | [(key, value)] =>
    have only := tokens_compact value plain.1 rest boundary
    simp [compactEntries, entryLexemes, only]
  | (key, value) :: next :: entries =>
    have first := tokens_compact value plain.1 (',' :: (compactEntries (next :: entries) ++ rest))
      (boundary_comma _)
    have others := tokens_compactEntries (next :: entries) plain.2 rest boundary
    simp [compactEntries, entryLexemes, first, others]

end

end Value

/-- The tokens, taken in from where a value is awaited, put the tree in its place. -/
structure Places (ts : List Token) (tree : Tree) : Prop where
  takes : ∃ t rest, ts = t :: rest ∧ t ≠ .closeArray ∧ t ≠ .closeObject ∧
    ∀ frames, rest.foldl Progress.take (begin frames t) = place tree frames

theorem places_single {t : Token} {tree : Tree} (whole : t.tree? = some tree)
    (atom : t ≠ .openArray ∧ t ≠ .openObject) : Places [t] tree := by
  refine ⟨t, [], rfl, ?_, ?_, fun frames => ?_⟩
  · rintro rfl
    cases whole
  · rintro rfl
    cases whole
  · rw [List.foldl_nil, begin]
    · rw [whole]
    · exact atom.1
    · exact atom.2

/-- Where an item is awaited, its tokens add its tree to the array. -/
theorem foldl_item {ts : List Token} {tree : Tree} (places : Places ts tree) {phase : Phase}
    (awaited : phase = .fresh ∨ phase = .item) (items : List Tree) (frames : List Frame) :
    ts.foldl Progress.take (.within phase (.array items :: frames)) =
      .within .after (.array (tree :: items) :: frames) := by
  obtain ⟨t, rest, rfl, notArray, notObject, taken⟩ := places.takes
  have start : Progress.take (.within phase (.array items :: frames)) t =
      begin (.array items :: frames) t := by
    rcases awaited with rfl | rfl
    · cases t <;> first | rfl | exact absurd rfl notArray
    · rfl
  rw [List.foldl_cons, start, taken]
  rfl

/-- Where a key is awaited, a key and a value add an entry to the object. -/
theorem foldl_entry {ts : List Token} {tree : Tree} (places : Places ts tree) {phase : Phase}
    (awaited : phase = .fresh ∨ phase = .item) (key : String) (entries : List (Tree × Tree))
    (frames : List Frame) :
    (.string (some key) :: .colon :: ts).foldl Progress.take
        (.within phase (.object entries :: frames)) =
      .within .after (.object ((.string key, tree) :: entries) :: frames) := by
  obtain ⟨t, rest, rfl, -, -, taken⟩ := places.takes
  have start : Progress.take (.within phase (.object entries :: frames)) (.string (some key)) =
      .within .colon (.entry (.string key) entries :: frames) := by
    rcases awaited with rfl | rfl <;> rfl
  have colon : Progress.take (.within .colon (.entry (.string key) entries :: frames)) .colon =
      .within .item (.entry (.string key) entries :: frames) := rfl
  have value : Progress.take (.within .item (.entry (.string key) entries :: frames)) t =
      begin (.entry (.string key) entries :: frames) t := rfl
  rw [List.foldl_cons, List.foldl_cons, List.foldl_cons, start, colon, value, taken]
  rfl

namespace Value

mutual

/-- The tokens of a value put its tree in its place. -/
theorem places_lexemes (v : Value) (plain : v.Plain) : Places v.lexemes v.toTree := by
  match v with
  | null => exact places_single rfl (by simp)
  | bool b => exact places_single rfl (by simp)
  | string s => exact places_single rfl (by simp)
  | number n =>
    obtain ⟨magnitude, fitting⟩ := plain
    refine places_single ?_ (by simp)
    rw [Token.tree?, n.isOutOfRange_of_fitting fitting]
    rfl
  | array [] => exact ⟨.openArray, [.closeArray], rfl, by simp, by simp, fun _ => rfl⟩
  | object [] => exact ⟨.openObject, [.closeObject], rfl, by simp, by simp, fun _ => rfl⟩
  | array (item :: items) =>
    refine ⟨.openArray, itemLexemes (item :: items) ++ [.closeArray], rfl, by simp, by simp, ?_⟩
    intro frames
    have inner := foldl_itemLexemes (item :: items) (by simp) plain (.inl rfl) [] frames
    rw [List.append_nil] at inner
    rw [List.foldl_append, begin, inner]
    change place (.array (itemsToTrees (item :: items)).reverse.reverse true) frames = _
    rw [List.reverse_reverse]
    rfl
  | object ((key, value) :: entries) =>
    refine ⟨.openObject, entryLexemes ((key, value) :: entries) ++ [.closeObject], rfl, by simp,
      by simp, ?_⟩
    intro frames
    have inner := foldl_entryLexemes ((key, value) :: entries) (by simp) plain (.inl rfl) [] frames
    rw [List.append_nil] at inner
    rw [List.foldl_append, begin, inner]
    change place (.object (entriesToTrees ((key, value) :: entries)).reverse.reverse true) frames = _
    rw [List.reverse_reverse]
    rfl

theorem foldl_itemLexemes (items : List Value) (filled : items ≠ []) (plain : PlainItems items)
    {phase : Phase} (awaited : phase = .fresh ∨ phase = .item) (before : List Tree)
    (frames : List Frame) :
    (itemLexemes items).foldl Progress.take (.within phase (.array before :: frames)) =
      .within .after (.array ((itemsToTrees items).reverse ++ before) :: frames) := by
  match items with
  | [] => exact absurd rfl filled
  | [item] => exact foldl_item (places_lexemes item plain.1) awaited before frames
  | item :: next :: items =>
    have first := foldl_item (places_lexemes item plain.1) awaited before frames
    have others := foldl_itemLexemes (next :: items) (by simp) plain.2 (.inr rfl)
      (item.toTree :: before) frames
    have comma : Progress.take (.within .after (.array (item.toTree :: before) :: frames)) .comma =
        .within .item (.array (item.toTree :: before) :: frames) := rfl
    have lexemes : itemLexemes (item :: next :: items) =
        item.lexemes ++ .comma :: itemLexemes (next :: items) := rfl
    have trees : itemsToTrees (item :: next :: items) =
        item.toTree :: itemsToTrees (next :: items) := rfl
    rw [lexemes, List.foldl_append, first, List.foldl_cons, comma, others, trees,
      List.reverse_cons, List.append_assoc, List.singleton_append]

theorem foldl_entryLexemes (entries : List (String × Value)) (filled : entries ≠ [])
    (plain : PlainEntries entries) {phase : Phase} (awaited : phase = .fresh ∨ phase = .item)
    (before : List (Tree × Tree)) (frames : List Frame) :
    (entryLexemes entries).foldl Progress.take (.within phase (.object before :: frames)) =
      .within .after (.object ((entriesToTrees entries).reverse ++ before) :: frames) := by
  match entries with
  | [] => exact absurd rfl filled
  | [(key, value)] =>
    exact foldl_entry (places_lexemes value plain.1) awaited key before frames
  | (key, value) :: (other, next) :: entries =>
    have first := foldl_entry (places_lexemes value plain.1) awaited key before frames
    have others := foldl_entryLexemes ((other, next) :: entries) (by simp) plain.2 (.inr rfl)
      ((.string key, value.toTree) :: before) frames
    have comma : Progress.take
        (.within .after (.object ((.string key, value.toTree) :: before) :: frames)) .comma =
        .within .item (.object ((.string key, value.toTree) :: before) :: frames) := rfl
    have lexemes : entryLexemes ((key, value) :: (other, next) :: entries) =
        (.string (some key) :: .colon :: value.lexemes) ++
          .comma :: entryLexemes ((other, next) :: entries) := rfl
    have trees : entriesToTrees ((key, value) :: (other, next) :: entries) =
        (.string key, value.toTree) :: entriesToTrees ((other, next) :: entries) := rfl
    rw [lexemes, List.foldl_append, first, List.foldl_cons, comma, others, trees,
      List.reverse_cons, List.append_assoc, List.singleton_append]

end

/-- A text that is cut into the tokens of a value holds its tree and nothing else. -/
theorem read_of_tokens {v : Value} (plain : v.Plain) {cs : List Char}
    (cut : tokens (cs ++ []) = v.lexemes ++ tokens []) : read cs = ⟨v.toTree, true⟩ := by
  rw [List.append_nil, tokens, List.append_nil] at cut
  obtain ⟨t, rest, eq, -, -, taken⟩ := (v.places_lexemes plain).takes
  have start : Progress.take (.within .item []) t = begin [] t := by
    cases t <;> rfl
  rw [read, cut, eq, List.foldl_cons, start, taken]
  rfl

theorem read_indented (v : Value) (plain : v.Plain) : read (v.indented 0) = ⟨v.toTree, true⟩ :=
  read_of_tokens plain (v.tokens_indented 0 plain [] boundary_nil)

theorem read_compact (v : Value) (plain : v.Plain) : read v.compact = ⟨v.toTree, true⟩ :=
  read_of_tokens plain (v.tokens_compact plain [] boundary_nil)

end Value

section

variable {α : Type} (decode : Decoder α) {v : Value}

/-- What a decoder makes of the indented text is what it makes of the tree. -/
theorem Decoder.ofText_prettyText (plain : v.Plain) :
    Decoder.ofText decode v.prettyText = decode v.toTree := by
  rw [Decoder.ofText, Value.prettyText, String.toList_ofList, v.read_indented plain]
  cases decode v.toTree <;> rfl

theorem Decoder.ofText_text (plain : v.Plain) : Decoder.ofText decode v.text = decode v.toTree := by
  rw [Decoder.ofText, Value.text, String.toList_ofList, v.read_compact plain]
  cases decode v.toTree <;> rfl

end

end Mintmark.Json
