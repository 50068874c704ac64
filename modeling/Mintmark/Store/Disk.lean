import Mintmark.Table

/-!
# Disks

A tree of folders and files, as a table from paths to nodes. A path is the list of its names, and
the empty path is the root. Every operation first walks to the folder that the last name is in.
-/

namespace Mintmark.Store

inductive IoFault where
  | notFound
  | alreadyExists
  | notFolder
  | isFolder
deriving DecidableEq, Repr

def IoFault.message : IoFault → String
  | notFound => "No such file or directory (os error 2)"
  | alreadyExists => "File exists (os error 17)"
  | notFolder => "Not a directory (os error 20)"
  | isFolder => "Is a directory (os error 21)"

inductive Node where
  | file (content : ByteArray)
  | folder

abbrev Path := List String

/-- The path that a text with slashes stands for, from the root of a disk. -/
def Path.ofText (text : String) : Path :=
  (text.toList.splitOn '/').foldl (fun path name =>
    match String.ofList name with
    | "" | "." => path
    | ".." => path.dropLast
    | name => path ++ [name]) []

structure Disk where
  nodes : Table Path Node := .empty

namespace Disk

def empty : Disk := {}

def node? (d : Disk) (path : Path) : Option Node :=
  if path = [] then some .folder else d.nodes.find? path

/-- The folders that a path passes through, the root first. -/
def ancestors (path : Path) : List Path := (List.range path.length).map path.take

/-- What keeps a path from being reached. -/
def obstacle? (d : Disk) (path : Path) : Option IoFault :=
  (ancestors path).findSome? fun a =>
    match d.node? a with
    | some .folder => none
    | some (.file _) => some .notFolder
    | none => some .notFound

/-- What is at a path that can be reached. -/
def lookup (d : Disk) (path : Path) : Except IoFault (Option Node) :=
  match d.obstacle? path with
  | some fault => .error fault
  | none => .ok (d.node? path)

/-- Goes one step on, from a folder to a place in it that is there. -/
def step? (d : Disk) (path : Path) (name : String) : Option Path :=
  match d.node? path, name with
  | some .folder, "" | some .folder, "." => some path
  | some .folder, ".." => if path = [] then none else some path.dropLast
  | some .folder, name => if (d.node? (path ++ [name])).isSome then some (path ++ [name]) else none
  | _, _ => none

/-- The path that a text with slashes leads to from the root, step by step. -/
def walk? (d : Disk) (text : String) : Option Path :=
  ((text.toList.splitOn '/').map String.ofList).foldlM d.step? []

def put (d : Disk) (path : Path) (node : Node) : Disk := { d with nodes := d.nodes.insert path node }

def read (d : Disk) (path : Path) : Except IoFault ByteArray :=
  match d.lookup path with
  | .error fault => .error fault
  | .ok none => .error .notFound
  | .ok (some .folder) => .error .isFolder
  | .ok (some (.file content)) => .ok content

/-- Writes a file anew, whether it exists or not. -/
def write (d : Disk) (path : Path) (content : ByteArray) : Except IoFault Disk :=
  match d.lookup path with
  | .error fault => .error fault
  | .ok (some .folder) => .error .isFolder
  | .ok _ => .ok (d.put path (.file content))

/-- Makes an empty file unless there is one. -/
def touch (d : Disk) (path : Path) : Except IoFault Disk :=
  match d.lookup path with
  | .error fault => .error fault
  | .ok (some .folder) => .error .isFolder
  | .ok (some (.file _)) => .ok d
  | .ok none => .ok (d.put path (.file .empty))

def remove (d : Disk) (path : Path) : Except IoFault Disk :=
  match d.lookup path with
  | .error fault => .error fault
  | .ok none => .error .notFound
  | .ok (some .folder) => .error .isFolder
  | .ok (some (.file _)) => .ok { d with nodes := d.nodes.erase path }

/-- Moves a file over whatever file has the new name, in one step. -/
def rename (d : Disk) (source target : Path) : Except IoFault Disk :=
  match d.read source, d.lookup target with
  | .error fault, _ => .error fault
  | _, .error fault => .error fault
  | _, .ok (some .folder) => .error .isFolder
  | .ok content, .ok _ =>
    .ok { d with nodes := (d.nodes.erase source).insert target (.file content) }

/-- Makes a folder with all folders on the way to it. -/
def makeFolders (d : Disk) (path : Path) : Except IoFault Disk :=
  (ancestors path ++ [path]).foldlM (fun d a =>
    match d.node? a with
    | some .folder => .ok d
    | some (.file _) => .error (if a = path then .alreadyExists else .notFolder)
    | none => .ok (d.put a .folder)) d

/-- Removes a file or a folder with all that is in it. -/
def removeTree (d : Disk) (path : Path) : Disk :=
  { d with nodes := ⟨d.nodes.entries.filter fun e => !path.isPrefixOf e.1⟩ }

/-- The paths of all files and folders, those of folders with a slash at the end. -/
def list (d : Disk) : List String :=
  let names := d.nodes.entries.map fun (path, node) =>
    String.intercalate "/" path ++ (match node with | .folder => "/" | .file _ => "")
  names.mergeSort fun a b => a ≤ b

end Disk
end Mintmark.Store
