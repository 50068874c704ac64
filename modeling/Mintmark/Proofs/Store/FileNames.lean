import Mintmark.Store.FileName

/-!
# Names of files

The three files of an inventory have different names, whatever the inventories: the ends of the
names tell them apart. Names of the same sort are the same only for the same stem.
-/

namespace Mintmark.Store.FileName

theorem ne_of_last {s t : String} {a b : Char} (ne : a ≠ b) (last : s.toList.getLast? = some a)
    (last' : t.toList.getLast? = some b) : s ≠ t := by
  rintro rfl
  rw [last] at last'
  exact ne (Option.some.inj last')

theorem getLast?_append (s : String) {suffix : String} {c : Char}
    (last : suffix.toList.getLast? = some c) : (s ++ suffix).toList.getLast? = some c := by
  rw [String.toList_append, List.getLast?_append, last]
  rfl

theorem getLast?_dataFile (name : String) : (dataFile name).toList.getLast? = some 'n' :=
  getLast?_append _ (by decide)

theorem getLast?_lockFile (name : String) : (lockFile name).toList.getLast? = some 'k' :=
  getLast?_append _ (by decide)

theorem getLast?_tempFile (name : String) : (tempFile name).toList.getLast? = some 'p' :=
  getLast?_append _ (by decide)

variable (a b : String)

theorem dataFile_ne_lockFile : dataFile a ≠ lockFile b :=
  ne_of_last (by decide) (getLast?_dataFile a) (getLast?_lockFile b)

theorem dataFile_ne_tempFile : dataFile a ≠ tempFile b :=
  ne_of_last (by decide) (getLast?_dataFile a) (getLast?_tempFile b)

theorem tempFile_ne_lockFile : tempFile a ≠ lockFile b :=
  ne_of_last (by decide) (getLast?_tempFile a) (getLast?_lockFile b)

theorem dataFile_inj : dataFile a = dataFile b ↔ stem a = stem b := String.append_left_inj _

theorem tempFile_inj : tempFile a = tempFile b ↔ stem a = stem b := String.append_left_inj _

theorem lockFile_inj : lockFile a = lockFile b ↔ stem a = stem b := String.append_left_inj _

end Mintmark.Store.FileName
