import Mintmark.Json.Reading
import Mintmark.Settings.Check
import Mintmark.Settings.VariableFile
import Mintmark.Store.Disk
import Mintmark.Toml.Document

/-!
# Loading settings

Settings come in layers, of which each is laid over the one before: a default file, the file of a
profile, and the variables of the environment. A file of variables is read before all of them, for it
may name the profile. Files need not be there, but one that is there has to be readable.
-/

namespace Mintmark.Settings

open Store (Disk Path)

inductive LoadFault where
  /-- a file does not parse, or a value is not what its setting needs -/
  | unreadable
  | invalid (fault : SettingFault)
deriving DecidableEq, Repr

namespace Loose

/-- A JSON number is whole if it fits 64 bits, with a sign or without, and a real one otherwise. -/
def ofNumeral (n : Json.Numeral) : Loose :=
  match n.integer? with
  | some i => if Number.least64 ≤ i && i < Number.bound64 then whole i else real n.binary64
  | none => real n.binary64

mutual

def ofJson : Json.Value → Loose
  | .null => null
  | .bool b => flag b
  | .number n => ofNumeral n
  | .string s => text s
  | .array items => list (ofJsonItems items)
  | .object entries => ofJsonEntries entries (table [])

def ofJsonItems : List Json.Value → List Loose
  | [] => []
  | item :: rest => ofJson item :: ofJsonItems rest

/-- Of a key that repeats the last value counts. -/
def ofJsonEntries : List (String × Json.Value) → Loose → Loose
  | [], before => before
  | (key, value) :: rest, before => ofJsonEntries rest (put key (ofJson value) before)

end

end Loose

inductive FileFormat where
  | toml
  | json
deriving DecidableEq, Repr

namespace FileFormat

/-- The formats, in the order in which their files are looked for. -/
def all : List FileFormat := [toml, json]

def suffix : FileFormat → String
  | toml => "toml"
  | json => "json"

/-- The format that the end of a file name stands for. A point at the start of a name marks no end. -/
def ofFileName? (name : String) : Option FileFormat :=
  match (name.toList.splitOn '.').reverse with
  | [] | [_] | [_, []] => none
  | last :: _ => all.find? (·.suffix.toList = last)

/-- The entries of a document. -/
def entries? (format : FileFormat) (text : String) : Option (List (String × Loose)) :=
  match format with
  | toml => Toml.parse? text
  | json =>
    match (Json.parse? text).map Loose.ofJson with
    | some (.table entries) => some entries
    | _ => none

end FileFormat

def readText? (disk : Disk) (path : Path) : Option String :=
  (disk.read path).toOption.bind String.fromUTF8?

/-- A text without the mark that may stand at its start. -/
def dropMark (text : String) : String :=
  match text.toList with
  | '\ufeff' :: rest => String.ofList rest
  | _ => text

/-- The text of the file that a name leads to. -/
def textAt? (disk : Disk) (name : String) : Option String := (disk.walk? name).bind (readText? disk)

/-- A name as far as the last part that names something. One that ends with a step back to an outer
folder names nothing. -/
def stem? (name : List Char) : Option String :=
  match (name.splitOn '/').reverse.dropWhile fun part => part = [] || part = ['.'] with
  | [] | ['.', '.'] :: _ => none
  | parts => some (String.intercalate "/" (parts.reverse.map String.ofList))

/-- The file of a name, which is the whole name of the file or lacks its end. A file that has the
whole name counts even if its format is not known, and then there is none. -/
def findFile? (disk : Disk) (name : String) : Option (FileFormat × String) :=
  match textAt? disk name with
  | some text => do
    let last ← (name.toList.splitOn '/').getLast?
    return (← FileFormat.ofFileName? (String.ofList last), dropMark text)
  | none => do
    let stem ← stem? name.toList
    FileFormat.all.findSome? fun format =>
      (textAt? disk (stem ++ "." ++ format.suffix)).map (format, dropMark ·)

/-- Lays the entries of a file over the settings so far, if there is such a file. -/
def layFile (disk : Disk) (name : String) (below : Loose) : Except LoadFault Loose :=
  match findFile? disk name with
  | none => .ok below
  | some (format, text) =>
    match format.entries? text with
    | some entries => .ok (Loose.layAll entries below)
    | none => .error .unreadable

/-- The settings that hold in a folder and an environment. -/
def load (disk : Disk) (env : Variables) : Except LoadFault Settings := do
  let env := match readText? disk [".env"] with
    | some text => VariableFile.add env text
    | none => env
  let profile := (env.find? "CUSTOMID_PROFILE").getD "development"
  let layers ← layFile disk "config/default" (.table [])
  let layers ← layFile disk ("config/" ++ profile) layers
  let layers := Loose.layAll (Variables.entries env) layers
  match Loose.model.settings? layers with
  | none => .error .unreadable
  | some settings =>
    match settings.check with
    | .ok () => .ok settings
    | .error fault => .error (.invalid fault)

end Mintmark.Settings
