/-!
# Store errors
-/

namespace Mintmark.Store

inductive StoreError where
  | connection (reason : String)
  | query (reason : String)
  | serialization (reason : String)
  | lockFailed (reason : String)
  | fileIO (reason : String)
  /-- the counter of this inventory has no value left -/
  | overflow (inventory : String)
  | unavailable
  /-- the call broke off at a number without room; its callers take this for any other error -/
  | halted
deriving DecidableEq, Repr

def StoreError.message : StoreError → String
  | connection reason => s!"Connection failed: {reason}"
  | query reason => s!"Query failed: {reason}"
  | serialization reason => s!"Serialization error: {reason}"
  | lockFailed reason => s!"Failed to acquire lock: {reason}"
  | fileIO reason => s!"File I/O error: {reason}"
  | overflow inventory => s!"Sequence overflow for inventory: {inventory}"
  | unavailable => "Storage backend unavailable"
  | halted => "attempt to add with overflow"

end Mintmark.Store
