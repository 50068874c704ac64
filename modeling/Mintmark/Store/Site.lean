import Mintmark.Settings.Basic
import Mintmark.Store.Folder
import Mintmark.Store.KeyValue
import Mintmark.Store.Memory

/-!
# Sites

A site has everything that a store can keep its data in: the memory of the process, a disk and a
key-value server. The store that the settings choose is opened at a site and has to answer once
before it is used.
-/

namespace Mintmark.Store

/-- A store on one part of a larger state. -/
def Backend.within {σ τ : Type} (get : τ → σ) (set : σ → τ → τ) (b : Backend σ) : Backend τ where
  name := b.name
  allocate id start now := lift (b.allocate id start now)
  peek id start := lift (b.peek id start)
  counter id := lift (b.counter id)
  save stored := lift (b.save stored)
  load id := lift (b.load id)
  remove id := lift (b.remove id)
  checkHealth := lift b.checkHealth
where
  lift {α : Type} (call : Call σ α) : Call τ α := fun t =>
    match call (get t) with
    | (answer, s) => (answer, set s t)

structure Site where
  memory : Memory := .empty
  disk : Disk := .empty
  server : Server := {}

namespace Site

def inMemory : Backend Site := Memory.backend.within (·.memory) fun memory s => { s with memory }

def inFolder (f : Folder) : Backend Site := f.backend.within (·.disk) fun disk s => { s with disk }

def onServer (k : KeyValue) : Backend Site :=
  k.backend.within (·.server) fun server s => { s with server }

/-- A store at this site of which every call fails. -/
def failing (error : StoreError) : Backend Site :=
  (Store.failing error).within (fun _ => ()) fun _ s => s

end Site

/-- The folder of a store, made if need be. -/
def openFolder (location : String) : Call Site Folder := fun s =>
  let folder : Folder := { base := Path.ofText location, location }
  match folder.prepare s.disk with
  | (.ok (), disk) => (.ok folder, { s with disk })
  | (.error error, disk) => (.error error, { s with disk })

/-- The chosen store, without a sign of life so far. There is no way to a database. -/
def choose (stores : Settings.Stores) : Call Site (Backend Site) := fun s =>
  match stores.kind with
  | .memory => (.ok Site.inMemory, s)
  | .file =>
    match openFolder stores.dataFolder s with
    | (.ok folder, s) => (.ok (Site.inFolder folder), s)
    | (.error error, s) => (.error error, s)
  | .redis => (.ok (Site.onServer ⟨stores.redis.keyStart⟩), s)
  | .mysql | .postgresql => (.error (.connection "no database within reach"), s)

/-- Opens the chosen store. -/
def connect (stores : Settings.Stores) : Call Site (Backend Site) := fun s =>
  match choose stores s with
  | (.error error, s) => (.error error, s)
  | (.ok backend, s) =>
    match backend.checkHealth s with
    | (.ok (), s) => (.ok backend, s)
    | (.error error, s) => (.error error, s)

end Mintmark.Store
