import Mintmark.Counter
import Mintmark.Layout.Basic
import Mintmark.Store.Error

/-!
# Stores

A store keeps one counter and one layout for each inventory. What it does is given by a record of
operations on a state of its own, so that whatever is built on stores works over all of them, also
over one that fails as it likes.
-/

namespace Mintmark.Store

/-- A layout as it was saved, with the time of saving in RFC 3339. -/
structure StoredLayout where
  inventory : InventoryId
  layout : Layout
  updatedAt : String
deriving DecidableEq

/-- An operation on a state. It may change the state even if it fails. -/
abbrev Call (σ α : Type) := σ → Except StoreError α × σ

structure Backend (σ : Type) where
  name : String
  /-- takes the next value of a counter, at some time in milliseconds; a counter that does not exist
  is made at the start value -/
  allocate (id : InventoryId) (start : UInt64) (now : Int) : Call σ UInt64
  /-- the value that would be taken next, or the start value -/
  peek (id : InventoryId) (start : UInt64) : Call σ UInt64
  counter (id : InventoryId) : Call σ (Option Counter)
  save (stored : StoredLayout) : Call σ Unit
  load (id : InventoryId) : Call σ (Option StoredLayout)
  /-- whether there was a layout to remove -/
  remove (id : InventoryId) : Call σ Bool
  checkHealth : Call σ Unit

end Mintmark.Store
