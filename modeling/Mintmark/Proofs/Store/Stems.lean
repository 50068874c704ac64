import Mathlib.Data.String.Basic
import Mintmark.Inventory
import Mintmark.Proofs.Store.FileNames
import Mintmark.Proofs.Text.Digits

/-!
# Stems of file names

Different inventory ids have different stems: no escape of a byte is the beginning of another's, so
the escaped bytes can be told apart from the front, and a GUID stands behind a tilde, which no escape
contains. Only two ids that are both too long to be written out rely on their GUIDs.
-/

namespace Mintmark

theorem toList_loop (bytes : ByteArray) (i : Nat) (taken : List UInt8) :
    ByteArray.toList.loop bytes i taken = taken.reverse ++ bytes.data.toList.drop i := by
  fun_induction ByteArray.toList.loop bytes i taken with
  | case1 i taken inside ih =>
    have bound : i < bytes.data.toList.length := inside
    have here : bytes.get! i = bytes.data.toList[i] := by
      rw [ByteArray.get!]
      simp [inside]
    rw [ih, List.reverse_cons, List.append_assoc, List.drop_eq_getElem_cons bound, here]
    rfl
  | case2 i taken outside =>
    rw [List.drop_eq_nil_of_le, List.append_nil]
    exact Nat.le_of_not_lt outside

theorem toUTF8_toList (s : String) : s.toUTF8.toList = s.toByteArray.data.toList :=
  toList_loop s.toUTF8 0 []

theorem toUTF8_toList_inj {s t : String} : s.toUTF8.toList = t.toUTF8.toList ↔ s = t := by
  rw [toUTF8_toList, toUTF8_toList, Array.toList_inj, ← ByteArray.ext_iff, String.toByteArray_inj]

namespace Store.FileName

/-- The characters that file names are made of. -/
def isNameChar (c : Char) : Bool := c.isAlphanum || c == '-' || c == '_' || c == '.' || c == '~'

section

variable {b b' : UInt8}

theorem toNat_ofNat_byte (b : UInt8) : (Char.ofNat b.toNat).toNat = b.toNat := by
  have valid : b.toNat.isValidChar := .inl (Nat.lt_trans b.toNat_lt (by decide))
  rw [Char.ofNat, dif_pos valid]
  rfl

theorem isPlain_iff : isPlain b = true ↔ b < 128 ∧
    ((Char.ofNat b.toNat).isAlphanum = true ∨ Char.ofNat b.toNat = '-' ∨
      Char.ofNat b.toNat = '_') := by
  simp [isPlain, or_assoc]

theorem escape_of_isPlain (plain : isPlain b = true) : escape b = [Char.ofNat b.toNat] := by
  rw [escape, if_pos plain]

theorem escape_of_not_isPlain (odd : ¬ isPlain b = true) :
    escape b = '.' :: Text.zeroPadded 2 (Text.digits 16 b.toNat) := by
  rw [escape, if_neg odd]

theorem ne_dot_of_isPlain (plain : isPlain b = true) : Char.ofNat b.toNat ≠ '.' := by
  intro dot
  have sort := (isPlain_iff.mp plain).2
  rw [dot] at sort
  exact absurd sort (by decide)

theorem length_hex (b : UInt8) : (Text.zeroPadded 2 (Text.digits 16 b.toNat)).length = 2 := by
  have short : (Text.digits 16 b.toNat).length ≤ 2 :=
    Text.length_digits_le (by decide) (by decide) b.toNat_lt
  rw [Text.length_zeroPadded]
  exact Nat.max_eq_left short

/-- What an escape stands for and where it ends can be told from the front. -/
theorem escape_append_inj {r r' : List Char} (eq : escape b ++ r = escape b' ++ r') :
    b = b' ∧ r = r' := by
  by_cases plain : isPlain b = true
  · rw [escape_of_isPlain plain] at eq
    by_cases plain' : isPlain b' = true
    · rw [escape_of_isPlain plain'] at eq
      obtain ⟨same, rest⟩ := List.cons.inj eq
      refine ⟨?_, rest⟩
      rw [← UInt8.toNat_inj, ← toNat_ofNat_byte, same, toNat_ofNat_byte]
    · rw [escape_of_not_isPlain plain'] at eq
      exact absurd (List.cons.inj eq).1 (ne_dot_of_isPlain plain)
  · rw [escape_of_not_isPlain plain] at eq
    by_cases plain' : isPlain b' = true
    · rw [escape_of_isPlain plain'] at eq
      exact absurd (List.cons.inj eq).1.symm (ne_dot_of_isPlain plain')
    · rw [escape_of_not_isPlain plain'] at eq
      obtain ⟨hex, rest⟩ := List.append_inj (List.cons.inj eq).2 (by rw [length_hex, length_hex])
      refine ⟨?_, rest⟩
      rw [← UInt8.toNat_inj]
      exact Text.zeroPadded_digits_injective (by decide) (by decide) hex

theorem escape_ne_nil (b : UInt8) : escape b ≠ [] := by
  rw [escape]
  split <;> exact List.cons_ne_nil _ _

theorem length_escape_le (b : UInt8) : (escape b).length ≤ 3 := by
  by_cases plain : isPlain b = true
  · rw [escape_of_isPlain plain, List.length_singleton]
    decide
  · rw [escape_of_not_isPlain plain, List.length_cons, length_hex]

theorem of_mem_escape {c : Char} (member : c ∈ escape b) :
    c.isAlphanum = true ∨ c = '-' ∨ c = '_' ∨ c = '.' := by
  by_cases plain : isPlain b = true
  · rw [escape_of_isPlain plain, List.mem_singleton] at member
    rw [member]
    rcases (isPlain_iff.mp plain).2 with sort | hyphen | line
    · exact .inl sort
    · exact .inr (.inl hyphen)
    · exact .inr (.inr (.inl line))
  · rw [escape_of_not_isPlain plain] at member
    rcases List.mem_cons.mp member with dot | digit
    · exact .inr (.inr (.inr dot))
    · exact .inl (Text.isAlphanum_of_mem_zeroPadded digit)

end

theorem escaped_inj {bytes bytes' : List UInt8} :
    escaped bytes = escaped bytes' ↔ bytes = bytes' := by
  refine ⟨fun eq => ?_, congrArg escaped⟩
  induction bytes generalizing bytes' with
  | nil =>
    cases bytes' with
    | nil => rfl
    | cons b' bytes' => exact absurd (List.append_eq_nil_iff.mp eq.symm).1 (escape_ne_nil b')
  | cons b bytes ih =>
    cases bytes' with
    | nil => exact absurd (List.append_eq_nil_iff.mp eq).1 (escape_ne_nil b)
    | cons b' bytes' =>
      obtain ⟨rfl, rest⟩ := escape_append_inj eq
      rw [ih rest]

theorem tilde_not_mem_escaped (bytes : List UInt8) : '~' ∉ escaped bytes := by
  intro member
  obtain ⟨b, -, here⟩ := List.mem_flatMap.mp member
  exact absurd (of_mem_escape here) (by decide)

/-- The id is too long for its bytes to be written out. -/
def Long (name : String) : Prop := maxStem < (escaped name.toUTF8.toList).length

theorem not_long_of_utf8ByteSize_le {name : String} (short : 3 * name.utf8ByteSize ≤ maxStem) :
    ¬ Long name := by
  have escapes (bytes : List UInt8) : (escaped bytes).length ≤ 3 * bytes.length := by
    induction bytes with
    | nil => exact Nat.le_refl 0
    | cons b bytes ih =>
      have here := length_escape_le b
      rw [escaped, List.flatMap_cons, ← escaped, List.length_append, List.length_cons]
      omega
  have bytes : name.toUTF8.toList.length = name.utf8ByteSize := by
    rw [toUTF8_toList]
    rfl
  have length := escapes name.toUTF8.toList
  rw [Long]
  omega

def nameGuid (name : String) : Guid := .ofName .objectNames name.toUTF8.toList

theorem toList_stem_of_long {name : String} (long : Long name) :
    (stem name).toList = '~' :: (nameGuid name).plainText := by
  rw [stem, if_neg (Nat.not_le_of_lt long), String.toList_ofList, nameGuid]

theorem toList_stem_of_not_long {name : String} (short : ¬ Long name) :
    (stem name).toList = escaped name.toUTF8.toList := by
  rw [stem, if_pos (Nat.le_of_not_lt short), String.toList_ofList]

theorem plainText_inj {g g' : Guid} : g.plainText = g'.plainText ↔ g = g' := by
  refine ⟨fun eq => ?_, congrArg Guid.plainText⟩
  have same : g.bits = g'.bits :=
    BitVec.eq_of_toNat_eq (Text.zeroPadded_digits_injective (by decide) (by decide) eq)
  cases g
  cases g'
  cases same
  rfl

/-- The ids differ, and so do their GUIDs if both are needed. -/
structure Apart (a b : String) : Prop where
  ne : a ≠ b
  guids : Long a → Long b → nameGuid a ≠ nameGuid b

theorem stem_ne_of_apart {a b : String} (apart : Apart a b) : stem a ≠ stem b := by
  intro same
  have chars := congrArg String.toList same
  by_cases long : Long a
  · rw [toList_stem_of_long long] at chars
    by_cases long' : Long b
    · rw [toList_stem_of_long long'] at chars
      exact apart.guids long long' (plainText_inj.mp (List.cons.inj chars).2)
    · rw [toList_stem_of_not_long long'] at chars
      exact tilde_not_mem_escaped _ (chars ▸ List.mem_cons_self)
  · rw [toList_stem_of_not_long long] at chars
    by_cases long' : Long b
    · rw [toList_stem_of_long long'] at chars
      exact tilde_not_mem_escaped _ (chars ▸ List.mem_cons_self)
    · rw [toList_stem_of_not_long long', escaped_inj, toUTF8_toList_inj] at chars
      exact apart.ne chars

theorem isNameChar_of_mem_stem {name : String} {c : Char} (member : c ∈ (stem name).toList) :
    isNameChar c = true := by
  by_cases long : Long name
  · rw [toList_stem_of_long long] at member
    rcases List.mem_cons.mp member with tilde | digit
    · rw [tilde]
      decide
    · simp [isNameChar, Text.isAlphanum_of_mem_zeroPadded digit]
  · rw [toList_stem_of_not_long long] at member
    obtain ⟨b, -, here⟩ := List.mem_flatMap.mp member
    rcases of_mem_escape here with sort | rfl | rfl | rfl
    · simp [isNameChar, sort]
    · decide
    · decide
    · decide

theorem length_stem_le (name : String) : (stem name).toList.length ≤ maxStem := by
  by_cases long : Long name
  · have digits : (Text.digits 16 (nameGuid name).bits.toNat).length ≤ 32 :=
      Text.length_digits_le (by decide) (by decide) (nameGuid name).bits.isLt
    have padded : (nameGuid name).plainText.length = 32 := by
      rw [Guid.plainText, Text.length_zeroPadded]
      exact Nat.max_eq_left digits
    rw [toList_stem_of_long long, List.length_cons, padded]
    decide
  · rw [toList_stem_of_not_long long]
    exact Nat.le_of_not_lt long

theorem toNat_lt_of_isAlphanum {c : Char} (sort : c.isAlphanum = true) : c.toNat < 128 := by
  have either : ((c.isUpper || c.isLower) || c.isDigit) = true := sort
  rw [Bool.or_eq_true, Bool.or_eq_true] at either
  rcases either with (upper | lower) | digit
  · have bounds : 65 ≤ c.val ∧ c.val ≤ 90 := of_decide_eq_true upper
    exact Nat.lt_of_le_of_lt (UInt32.le_iff_toNat_le.mp bounds.2) (by decide)
  · have bounds : (decide (97 ≤ c.val) && decide (c.val ≤ 122)) = true := lower
    rw [Bool.and_eq_true, decide_eq_true_eq, decide_eq_true_eq] at bounds
    exact Nat.lt_of_le_of_lt (UInt32.le_iff_toNat_le.mp bounds.2) (by decide)
  · have bounds : (decide (48 ≤ c.val) && decide (c.val ≤ 57)) = true := digit
    rw [Bool.and_eq_true, decide_eq_true_eq, decide_eq_true_eq] at bounds
    exact Nat.lt_of_le_of_lt (UInt32.le_iff_toNat_le.mp bounds.2) (by decide)

theorem utf8Size_of_isNameChar {c : Char} (name : isNameChar c = true) : c.utf8Size = 1 := by
  rw [Char.utf8Size_eq_one_iff]
  simp only [isNameChar, Bool.or_eq_true, beq_iff_eq] at name
  rcases name with (((sort | rfl) | rfl) | rfl) | rfl
  · exact UInt32.le_iff_toNat_le.mpr (Nat.le_of_lt_succ (toNat_lt_of_isAlphanum sort))
  · decide
  · decide
  · decide
  · decide

theorem utf8ByteSize_eq_length {s : String} (name : ∀ c ∈ s.toList, isNameChar c = true) :
    s.utf8ByteSize = s.toList.length := by
  rw [← String.ofList_toList (s := s), String.utf8ByteSize_ofList, String.toList_ofList]
  generalize s.toList = cs at name
  induction cs with
  | nil => rfl
  | cons c cs ih =>
    rw [List.forall_mem_cons] at name
    rw [String.utf8Len_cons, ih name.2, utf8Size_of_isNameChar name.1, List.length_cons]

/-- The names of the files of an inventory, in each of the folders it has files in. -/
def files (name : String) : List String := [dataFile name, lockFile name, tempFile name]

/-- The name stands for a file in the folder it is used in, and is not too long for one. -/
structure Proper (file : String) : Prop where
  chars : ∀ c ∈ file.toList, isNameChar c = true
  notHere : file ≠ "."
  notAbove : file ≠ ".."
  noSeparator : '/' ∉ file.toList
  short : file.utf8ByteSize ≤ 209

theorem proper_of_suffix (name : String) {suffix : String}
    (chars : suffix.toList.all isNameChar = true) (long : 2 < suffix.toList.length)
    (short : suffix.toList.length ≤ 9) : Proper (stem name ++ suffix) := by
  have all : ∀ c ∈ (stem name ++ suffix).toList, isNameChar c = true := by
    intro c member
    rw [String.toList_append] at member
    rcases List.mem_append.mp member with front | back
    · exact isNameChar_of_mem_stem front
    · exact List.all_eq_true.mp chars c back
  have length : (stem name ++ suffix).toList.length =
      (stem name).toList.length + suffix.toList.length := by
    rw [String.toList_append, List.length_append]
  have stem := length_stem_le name
  rw [maxStem] at stem
  constructor
  · exact all
  · intro here
    rw [here] at length
    change 1 = _ at length
    omega
  · intro above
    rw [above] at length
    change 2 = _ at length
    omega
  · intro separator
    exact absurd (all '/' separator) (by decide)
  · rw [utf8ByteSize_eq_length all, length]
    omega

theorem proper_of_mem_files {name file : String} (member : file ∈ files name) : Proper file := by
  simp only [files, List.mem_cons, List.not_mem_nil, or_false] at member
  rcases member with rfl | rfl | rfl
  · exact proper_of_suffix name (by decide) (by decide) (by decide)
  · exact proper_of_suffix name (by decide) (by decide) (by decide)
  · exact proper_of_suffix name (by decide) (by decide) (by decide)

theorem ne_of_mem_files {a b file other : String} (apart : Apart a b) (member : file ∈ files a)
    (member' : other ∈ files b) : file ≠ other := by
  have stems := stem_ne_of_apart apart
  simp only [files, List.mem_cons, List.not_mem_nil, or_false] at member member'
  -- names of one sort have different stems, and those of two sorts different ends
  rcases member with rfl | rfl | rfl <;> rcases member' with rfl | rfl | rfl
  · exact fun same => stems ((dataFile_inj a b).mp same)
  · exact dataFile_ne_lockFile a b
  · exact dataFile_ne_tempFile a b
  · exact (dataFile_ne_lockFile b a).symm
  · exact fun same => stems ((lockFile_inj a b).mp same)
  · exact (tempFile_ne_lockFile b a).symm
  · exact (dataFile_ne_tempFile b a).symm
  · exact tempFile_ne_lockFile a b
  · exact fun same => stems ((tempFile_inj a b).mp same)

/-- A file name without its extension, which is what follows the last dot. A dot at the start does
not begin one. -/
def withoutExtension (file : List Char) : List Char :=
  match file.reverse.dropWhile (· ≠ '.') with
  | [] | [_] => file
  | _ :: front => front.reverse

/-- A file name with its extension replaced. -/
def withExtension (file extension : String) : String :=
  String.ofList (withoutExtension file.toList) ++ "." ++ extension

theorem withoutExtension_append {front ending : List Char} (named : front ≠ [])
    (plain : '.' ∉ ending) : withoutExtension (front ++ '.' :: ending) = front := by
  have behind : (front ++ '.' :: ending).reverse.dropWhile (· ≠ '.') = '.' :: front.reverse := by
    rw [List.reverse_append, List.reverse_cons, List.append_assoc, List.dropWhile_append_of_pos]
    · rfl
    · intro c member
      simp only [decide_not, Bool.not_eq_true', decide_eq_false_iff_not]
      rintro rfl
      exact plain (List.mem_reverse.mp member)
  rw [withoutExtension, behind]
  cases back : front.reverse with
  | nil => exact absurd (List.reverse_eq_nil_iff.mp back) named
  | cons c cs =>
    change (c :: cs).reverse = front
    rw [← back, List.reverse_reverse]

theorem stem_ne_nil {name : String} (named : name ≠ "") : (stem name).toList ≠ [] := by
  by_cases long : Long name
  · rw [toList_stem_of_long long]
    exact List.cons_ne_nil _ _
  · rw [toList_stem_of_not_long long]
    have none : "".toUTF8.toList = [] := toList_loop "".toUTF8 0 []
    change escaped _ ≠ escaped []
    rwa [← none, Ne, escaped_inj, toUTF8_toList_inj]

theorem withExtension_dataFile {name : String} (named : name ≠ "") (extension : String) :
    withExtension (dataFile name) extension = stem name ++ ("." ++ extension) := by
  have front : withoutExtension (dataFile name).toList = (stem name).toList := by
    rw [dataFile, String.toList_append]
    exact withoutExtension_append (stem_ne_nil named) (by decide)
  rw [withExtension, front, String.ofList_toList, String.append_assoc]

end Store.FileName

theorem InventoryId.text_ne_empty (id : InventoryId) : id.text ≠ "" := by
  intro empty
  have faultless := id.faultless
  rw [empty] at faultless
  exact absurd faultless (by decide)

end Mintmark
