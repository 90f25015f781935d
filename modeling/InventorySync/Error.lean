import InventorySync.Container.Location
import InventorySync.Inventory.Creative
import InventorySync.Wire.Basic

/-!
Everything that can go wrong between an operation and the server's answer to it.
-/

namespace InventorySync

set_option autoImplicit false

inductive SyncError where
  | noOpenContainer
  | windowNotOpen (window : WindowId)
  | wrongContainerType (expected actual : UInt8)
  | unresolvedRole (location : Location)
  | missingSlot (location : Location)
  | unknownCreativeItem (source : CreativeSource)
  | channelClosed
  /-- The server answered requests that are not, or no longer, waiting. -/
  | desynchronized (requestIds : List Int32)
  | completionDropped (requestId : Int32)
  | wire (cause : Wire.Error)
  deriving DecidableEq, Repr

namespace SyncError

def message : SyncError → String
  | .noOpenContainer => "no container is open"
  | .windowNotOpen window => s!"window {window.toNat} is not the open container"
  | .wrongContainerType expected actual =>
      s!"open container has type {actual.toNat}, operation needs type {expected.toNat}"
  | .unresolvedRole location =>
      s!"no request role for slot {location.slot.toNat} of window {location.window.toNat}"
  | .missingSlot location =>
      s!"slot {location.slot.toNat} of window {location.window.toNat} is not available"
  | .unknownCreativeItem source => s!"item type of creative source {source.text} is unknown"
  | .channelClosed => "transport error: packet channel closed"
  | .desynchronized requestIds =>
      let ids := ", ".intercalate (requestIds.map fun id => toString id.toInt)
      s!"item stack responses desynchronized, unknown request ids [{ids}]"
  | .completionDropped requestId =>
      s!"completion for request {requestId.toInt} was dropped before the server answered"
  | .wire cause => s!"protocol error: {cause.message}"

/-- After a fatal error client and server disagree about what is under way, and
the session has to end. -/
def isFatal : SyncError → Bool
  | .desynchronized _ => true
  | _ => false

end SyncError

end InventorySync
