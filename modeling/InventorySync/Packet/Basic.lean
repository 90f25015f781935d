import InventorySync.Packet.Container
import InventorySync.Packet.Request
import InventorySync.Packet.Response

/-!
The packets that are exchanged with the server. A packet is its id and its body.
-/

namespace InventorySync

set_option autoImplicit false

namespace PacketId

def containerOpen : UInt32 := 0x2E

def containerClose : UInt32 := 0x2F

def inventoryContent : UInt32 := 0x31

def stackRequest : UInt32 := 0x93

def stackResponse : UInt32 := 0x94

end PacketId

/-- A packet from the server. -/
inductive ServerPacket where
  | windowContent (content : WindowContent)
  | containerOpened (container : OpenedContainer)
  | containerClosed (container : ClosedContainer)
  | stackResponses (responses : List StackResponse)
  deriving DecidableEq, Repr, Inhabited

namespace ServerPacket

def id : ServerPacket → UInt32
  | .windowContent _ => PacketId.inventoryContent
  | .containerOpened _ => PacketId.containerOpen
  | .containerClosed _ => PacketId.containerClose
  | .stackResponses _ => PacketId.stackResponse

def encodeBody : ServerPacket → Bytes
  | .windowContent content => content.encode
  | .containerOpened container => container.encode
  | .containerClosed container => container.encode
  | .stackResponses responses => StackResponse.encodePacket responses

def encode (packet : ServerPacket) : Bytes :=
  Wire.encodeVarUInt32 packet.id ++ packet.encodeBody

/-- Reads the body of the packet with a given id. -/
def readBody (id : UInt32) : Wire.Reader ServerPacket :=
  if id = PacketId.inventoryContent then return .windowContent (← WindowContent.read)
  else if id = PacketId.containerOpen then return .containerOpened (← OpenedContainer.read)
  else if id = PacketId.containerClose then return .containerClosed (← ClosedContainer.read)
  else if id = PacketId.stackResponse then return .stackResponses (← StackResponse.readPacket)
  else throw (.unknownPacket id)

def read : Wire.Reader ServerPacket := do readBody (← Wire.readVarUInt32)

end ServerPacket

/-- A packet to the server. -/
inductive ClientPacket where
  | stackRequests (requests : List StackRequest)
  | closeContainer (container : ClosedContainer)
  deriving DecidableEq, Repr, Inhabited

namespace ClientPacket

def id : ClientPacket → UInt32
  | .stackRequests _ => PacketId.stackRequest
  | .closeContainer _ => PacketId.containerClose

def encodeBody : ClientPacket → Bytes
  | .stackRequests requests => StackRequest.encodePacket requests
  | .closeContainer container => container.encode

def encode (packet : ClientPacket) : Bytes :=
  Wire.encodeVarUInt32 packet.id ++ packet.encodeBody

end ClientPacket

end InventorySync
