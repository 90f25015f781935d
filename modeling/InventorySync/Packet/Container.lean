import InventorySync.Container.Location
import InventorySync.Item.Codec
import InventorySync.Wire.BlockPos

/-!
What the server says about windows: that a container was opened or closed, and
what a window holds.
-/

namespace InventorySync

set_option autoImplicit false

/-- A container and the window that stands for it while it is open. -/
structure OpenedContainer where
  window : WindowId
  containerType : UInt8
  position : BlockPos
  /-- The entity that carries the container, minus one for a block. -/
  entityId : Int64
  deriving DecidableEq, Repr, Inhabited

namespace OpenedContainer

def encode (container : OpenedContainer) : Bytes :=
  [container.window, container.containerType] ++ container.position.encode ++
    Wire.encodeVarInt64 container.entityId

def read : Wire.Reader OpenedContainer := do
  let window ← Wire.readByte
  let containerType ← Wire.readByte
  let position ← BlockPos.read
  let entityId ← Wire.readVarInt64
  return { window, containerType, position, entityId }

end OpenedContainer

/-- A container that was closed, or is to be closed. -/
structure ClosedContainer where
  window : WindowId
  byServer : Bool
  deriving DecidableEq, Repr, Inhabited

namespace ClosedContainer

def encode (container : ClosedContainer) : Bytes :=
  container.window :: Wire.encodeBool container.byServer

def read : Wire.Reader ClosedContainer := do
  let window ← Wire.readByte
  let byServer ← Wire.readBool
  return { window, byServer }

end ClosedContainer

/-- The items of a whole window, in the order of its slots. -/
structure WindowContent where
  windowNumber : UInt32
  items : List Item
  deriving DecidableEq, Repr, Inhabited

namespace WindowContent

def encode (content : WindowContent) : Bytes :=
  Wire.encodeVarUInt32 content.windowNumber ++ Wire.encodeList Item.encode content.items

def read : Wire.Reader WindowContent := do
  let windowNumber ← Wire.readVarUInt32
  let items ← Wire.readList Item.read
  return { windowNumber, items }

end WindowContent

end InventorySync
