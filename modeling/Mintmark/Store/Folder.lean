import Mintmark.Json.Bytes
import Mintmark.Store.Disk
import Mintmark.Store.FileName
import Mintmark.Wire

/-!
# The store in a folder

Counters and layouts are JSON documents, each in a file of its own. A writer holds the lock file of
the document, writes a temporary file and renames it over the document, so that a reader finds the
old document or the new one and never a part. A document that is empty or does not decode is an
error and not a missing one.
-/

namespace Mintmark.Store

open Json (Value Decoder)

structure Folder where
  /-- the base folder -/
  base : Path
  /-- how the base folder is written in messages -/
  location : String

namespace Folder

/-- One of the two folders of documents. -/
inductive Drawer where
  | sequences
  | configs
deriving DecidableEq, Repr

def Drawer.name : Drawer → String
  | sequences => "sequences"
  | configs => "configs"

def io (fault : IoFault) : StoreError := .fileIO fault.message

variable (f : Folder)

def path (drawer : Drawer) (file : String) : Path := f.base ++ [drawer.name, file]

def dataPath (drawer : Drawer) (id : InventoryId) : Path :=
  f.path drawer (FileName.dataFile id.text)

def lockPath (drawer : Drawer) (id : InventoryId) : Path :=
  f.path drawer (FileName.lockFile id.text)

def tempPath (drawer : Drawer) (id : InventoryId) : Path :=
  f.path drawer (FileName.tempFile id.text)

/-- Decodes the bytes of a document. -/
def decodeBytes {α : Type} (decode : Decoder α) (content : ByteArray) : Except StoreError α :=
  (Decoder.ofBytes decode content).mapError fun
    | .grammar => .serialization "malformed document"
    | .data => .serialization "unexpected value"

/-- The document of an inventory, unless its file does not exist. -/
def load {α : Type} (decode : Decoder α) (drawer : Drawer) (id : InventoryId) (d : Disk) :
    Except StoreError (Option α) :=
  match d.read (f.dataPath drawer id) with
  | .error .notFound => .ok none
  | .error fault => .error (io fault)
  | .ok content =>
    if content.isEmpty then
      .error (.serialization (f.location ++ "/" ++ drawer.name ++ "/" ++ FileName.dataFile id.text
        ++ " is empty"))
    else (decodeBytes decode content).map some

/-- Opens the lock file, which is made on the way and stays. -/
def lock (drawer : Drawer) (id : InventoryId) : Call Disk Unit := fun d =>
  match d.touch (f.lockPath drawer id) with
  | .ok d => (.ok (), d)
  | .error fault => (.error (io fault), d)

/-- Writes a document into the temporary file. -/
def writeTemp (drawer : Drawer) (id : InventoryId) (v : Value) : Call Disk Unit := fun d =>
  match d.write (f.tempPath drawer id) v.prettyText.toUTF8 with
  | .ok d => (.ok (), d)
  | .error fault => (.error (io fault), d)

/-- Puts the temporary file in the place of the document. -/
def publish (drawer : Drawer) (id : InventoryId) : Call Disk Unit := fun d =>
  match d.rename (f.tempPath drawer id) (f.dataPath drawer id) with
  | .ok d => (.ok (), d)
  | .error fault => (.error (io fault), d)

/-- Goes on after a step that succeeded. -/
def andThen {α β : Type} (first : Call Disk α) (next : α → Call Disk β) : Call Disk β := fun d =>
  match first d with
  | (.ok a, d) => next a d
  | (.error error, d) => (.error error, d)

/-- Replaces a document. -/
def replace (drawer : Drawer) (id : InventoryId) (v : Value) : Call Disk Unit :=
  andThen (f.writeTemp drawer id v) fun _ => f.publish drawer id

def allocate (id : InventoryId) (start : UInt64) (now : Int) : Call Disk UInt64 :=
  andThen (f.lock .sequences id) fun _ d =>
    match f.load Counter.decode .sequences id d with
    | .error error => (.error error, d)
    | .ok found =>
      match (found.getD (.fresh id start now)).advance now with
      | .taken value counter =>
        andThen (f.replace .sequences id counter.encode) (fun _ d => (.ok value, d)) d
      | .full => (.error (.overflow id.text), d)
      -- the counter that was moved on in part is never written
      | .halted _ => (.error .halted, d)

def peek (id : InventoryId) (start : UInt64) (d : Disk) : Except StoreError UInt64 :=
  (f.load Counter.decode .sequences id d).map fun found => (found.map (·.next)).getD start

def removeLayout (id : InventoryId) : Call Disk Bool :=
  andThen (f.lock .configs id) fun _ d =>
    match d.remove (f.dataPath .configs id) with
    | .ok d => (.ok true, d)
    | .error .notFound => (.ok false, d)
    | .error fault => (.error (io fault), d)

def probePath : Path := f.base ++ [".health_check"]

/-- Tries to write into the base folder. -/
def checkHealth : Call Disk Unit := fun d =>
  match d.lookup f.base with
  | .error _ | .ok none => (.error .unavailable, d)
  | .ok (some _) =>
    match d.write f.probePath "ok".toUTF8 with
    | .error fault => (.error (.fileIO ("Health check failed: " ++ fault.message)), d)
    | .ok d =>
      match d.remove f.probePath with
      | .error fault => (.error (.fileIO ("Health check cleanup failed: " ++ fault.message)), d)
      | .ok d => (.ok (), d)

/-- Makes the folders of the store. -/
def prepare : Call Disk Unit := fun d =>
  [([], f.base), (["/sequences"], f.base ++ ["sequences"]),
    (["/configs"], f.base ++ ["configs"])].foldl
    (fun (answer, d) (suffix, path) =>
      match answer with
      | .error error => (.error error, d)
      | .ok () =>
        match d.makeFolders path with
        | .ok d => (.ok (), d)
        | .error fault =>
          (.error (.fileIO ("Failed to create directory " ++ f.location ++ String.join suffix ++ ": "
            ++ fault.message)), d))
    (.ok (), d)

def backend : Backend Disk where
  name := "file"
  allocate := f.allocate
  peek id start d := (f.peek id start d, d)
  counter id d := (f.load Counter.decode .sequences id d, d)
  save stored :=
    andThen (f.lock .configs stored.inventory) fun _ =>
      f.replace .configs stored.inventory stored.encode
  load id d := (f.load StoredLayout.decode .configs id d, d)
  remove := f.removeLayout
  checkHealth := f.checkHealth

end Folder
end Mintmark.Store
