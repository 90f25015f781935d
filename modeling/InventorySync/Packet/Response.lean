import InventorySync.Wire.Basic

/-!
Answers to requests. An accepted request is answered with the count, the stack
id and the name of each slot that it touched, grouped by role; the rest of the
item is not repeated. A rejected one has a status and nothing else.
-/

namespace InventorySync

set_option autoImplicit false

/-- What the server says about one slot. -/
structure SlotAck where
  slot : UInt8
  hotbarSlot : UInt8
  count : UInt8
  stackId : Int32
  /-- The name given to the item, empty if it has none. -/
  customName : String
  durabilityCorrection : Int32
  deriving DecidableEq, Repr, Inhabited

namespace SlotAck

def encode (ack : SlotAck) : Bytes :=
  [ack.slot, ack.hotbarSlot, ack.count] ++ Wire.encodeVarInt32 ack.stackId ++
    Wire.encodeString ack.customName ++ Wire.encodeVarInt32 ack.durabilityCorrection

def read : Wire.Reader SlotAck := do
  let slot ← Wire.readByte
  let hotbarSlot ← Wire.readByte
  let count ← Wire.readByte
  let stackId ← Wire.readVarInt32
  let customName ← Wire.readString
  let durabilityCorrection ← Wire.readVarInt32
  return { slot, hotbarSlot, count, stackId, customName, durabilityCorrection }

end SlotAck

/-- What the server says about the slots of one role. -/
structure RoleAcks where
  /-- The number of the role, which need not be a known one. -/
  roleNumber : UInt8
  dynamicId : UInt32
  acks : List SlotAck
  deriving DecidableEq, Repr, Inhabited

namespace RoleAcks

def encode (group : RoleAcks) : Bytes :=
  group.roleNumber :: (Wire.encodeVarUInt32 group.dynamicId ++
    Wire.encodeList SlotAck.encode group.acks)

def read : Wire.Reader RoleAcks := do
  let roleNumber ← Wire.readByte
  let dynamicId ← Wire.readVarUInt32
  let acks ← Wire.readList SlotAck.read
  return { roleNumber, dynamicId, acks }

end RoleAcks

structure StackResponse where
  /-- Zero if the request was accepted. -/
  status : UInt8
  requestId : Int32
  groups : List RoleAcks := []
  deriving DecidableEq, Repr, Inhabited

namespace StackResponse

def isAccepted (response : StackResponse) : Bool := response.status = 0

/-- Only an accepted request is answered with slots. -/
def encode (response : StackResponse) : Bytes :=
  response.status :: (Wire.encodeVarInt32 response.requestId ++
    if response.isAccepted then Wire.encodeList RoleAcks.encode response.groups else [])

def read : Wire.Reader StackResponse := do
  let status ← Wire.readByte
  let requestId ← Wire.readVarInt32
  let groups ← if status = 0 then Wire.readList RoleAcks.read else pure []
  return { status, requestId, groups }

def encodePacket (responses : List StackResponse) : Bytes := Wire.encodeList encode responses

def readPacket : Wire.Reader (List StackResponse) := Wire.readList read

end StackResponse

end InventorySync
