import InventorySync.Proofs.RecordReading
import Mathlib.Data.List.Forall2

/-!
Every kind of value with a written form of its own is read back as it was written, whatever
follows it. Items bring their user data along, whose entries may be written in any order; the
value that is read has them in that order.
-/

namespace InventorySync

set_option autoImplicit false

open Decoder

section Items

/-- The lengths in a list of names can be written. -/
structure Item.NamesSendable (names : List String) : Prop where
  count : names.length < 2 ^ 31
  short : ∀ name ∈ names, Wire.ShortText name

/-- Nothing in the item is lost when it is written, and its user data can be read back. -/
structure Item.Sendable (item : Item) : Prop where
  air : item.typeId = 0 → item = .empty
  userData : ∀ compound, item.userData = some compound → (Nbt.Root.mk "" compound).RoundTrips
  canPlaceOn : Item.NamesSendable item.canPlaceOn
  canDestroy : Item.NamesSendable item.canDestroy

/-- The same item, with the entries of its user data in another order. -/
structure Item.Reorders (item written : Item) : Prop where
  userData : Option.Rel (fun left right => (Nbt.Tag.compound left).Reorders (.compound right))
    item.userData written.userData
  rest : { item with userData := written.userData } = written

namespace Item

theorem readStackId_reads (stackId : Int32) :
    Reads readStackId (encodeStackId stackId) stackId := by
  unfold encodeStackId
  by_cases absent : stackId = 0
  · rw [if_pos absent, absent]
    exact fun _ => rfl
  · rw [if_neg absent]
    exact (Wire.readBool_reads true).bind (Wire.readVarInt32_reads stackId)

theorem readUserData_none : Reads readUserData (encodeUserData none) none := by
  intro rest
  unfold readUserData encodeUserData
  rw [bind_of_ok (Wire.readVarUInt32_reads 0 rest)]
  rfl

theorem readUserData_some {compound : Nbt.Compound}
    (reads : Reads Nbt.readRoot (Nbt.Root.encode ⟨"", compound⟩) ⟨"", compound⟩) :
    Reads readUserData (encodeUserData (some compound)) (some compound) := by
  refine (Wire.readVarUInt32_reads userDataMarker).bind ?_
  rw [if_pos rfl]
  refine Reads.cons ?_
  exact (Reads.mapError reads).map fun root => some root.compound

theorem readNames_reads {names : List String} (sendable : NamesSendable names) :
    Reads readNames (encodeNames names) names := by
  obtain ⟨natural, same⟩ := length_of_int32 sendable.count
  refine (Wire.readVarInt32_reads (Int32.ofNat names.length)).bind ?_
  simp only [natural, if_false, same]
  exact Wire.readCounted_reads Wire.encodeString_ne_nil
    fun name member => Wire.readString_reads (sendable.short name member)

theorem readUserData_reads {userData written : Option Nbt.Compound}
    (roundTrips : ∀ compound, userData = some compound → (Nbt.Root.mk "" compound).RoundTrips)
    (order : Option.Rel (fun left right => (Nbt.Tag.compound left).Reorders (.compound right))
      userData written) :
    Reads readUserData (encodeUserData written) written := by
  cases order with
  | none => exact readUserData_none
  | some inner => exact readUserData_some (roundTrips _ rfl _ ⟨rfl, inner⟩)

theorem read_reads {item written : Item} (sendable : item.Sendable)
    (order : item.Reorders written) : Reads read written.encode written := by
  have userData := readUserData_reads sendable.userData order.userData
  obtain ⟨related, rest⟩ := order
  generalize written.userData = carried at userData related rest
  subst rest
  -- Of air nothing but the type is written, so only an item without anything is told by it.
  by_cases air : item.typeId = 0
  · obtain rfl := sendable.air air
    cases related
    intro rest
    change (Wire.readVarInt32 >>= _) (Wire.encodeVarInt32 0 ++ rest) = _
    rw [bind_of_ok (Wire.readVarInt32_reads 0 rest)]
    rfl
  · unfold encode
    rw [if_neg air]
    simp only [List.append_assoc]
    refine (Wire.readVarInt32_reads item.typeId).bind ?_
    rw [if_neg air]
    refine (Wire.readUInt16_reads item.count).bind ?_
    refine (Wire.readVarUInt32_reads item.metadata.toUInt32).bind ?_
    refine (readStackId_reads item.stackId).bind ?_
    refine (Wire.readVarInt32_reads item.blockTypeId).bind ?_
    refine userData.bind ?_
    refine (readNames_reads sendable.canPlaceOn).bind ?_
    rw [UInt16.toUInt16_toUInt32]
    exact (readNames_reads sendable.canDestroy).map fun canDestroy =>
      { item with userData := carried, canDestroy }

theorem encode_ne_nil (item : Item) : item.encode ≠ [] := by
  unfold encode
  split
  · exact Wire.encodeVarInt32_ne_nil 0
  · simp [Wire.encodeVarInt32_ne_nil]

end Item

/-- The number of items fits into four bytes, and each of them can be written. -/
def WindowContent.Sendable (content : WindowContent) : Prop :=
  Wire.ListSendable Item.Sendable content.items

/-- The same items, with the entries of their user data in another order. -/
structure WindowContent.Reorders (content written : WindowContent) : Prop where
  windowNumber : content.windowNumber = written.windowNumber
  items : List.Forall₂ Item.Reorders content.items written.items

theorem Wire.ListSendable.reordered {α : Type} {Element : α → Prop} {same : α → α → Prop}
    {values written : List α} (sendable : Wire.ListSendable Element values)
    (order : List.Forall₂ same values written) :
    Wire.ListSendable (fun other => ∃ value, Element value ∧ same value other) written := by
  refine ⟨order.length_eq ▸ sendable.count, ?_⟩
  have each := sendable.each
  clear sendable
  induction order with
  | nil => exact List.forall_mem_nil _
  | cons related _ induction =>
      obtain ⟨first, later⟩ := List.forall_mem_cons.1 each
      exact List.forall_mem_cons.2 ⟨⟨_, first, related⟩, induction later⟩

theorem WindowContent.read_reads {content written : WindowContent} (sendable : content.Sendable)
    (order : content.Reorders written) : Reads read written.encode written := by
  obtain ⟨windowNumber, items⟩ := written
  have listed : Reads (Wire.readList Item.read) (Wire.encodeList Item.encode items) items := by
    refine Wire.readList_reads (sendable.reordered order.items) Item.encode_ne_nil ?_
    rintro written ⟨item, writable, same⟩
    exact Item.read_reads writable same
  refine (Wire.readVarUInt32_reads windowNumber).bind ?_
  exact listed.map (WindowContent.mk windowNumber)

end Items

section Packets

namespace ServerPacket

def Sendable : ServerPacket → Prop
  | .windowContent content => content.Sendable
  | .stackResponses responses => Wire.ListSendable StackResponse.Sendable responses
  | .containerOpened _ | .containerClosed _ => True

/-- The same packet, with the entries of user data in another order. -/
inductive Reorders : ServerPacket → ServerPacket → Prop where
  | windowContent {content written : WindowContent} (order : content.Reorders written) :
      Reorders (.windowContent content) (.windowContent written)
  | containerOpened (container : OpenedContainer) :
      Reorders (.containerOpened container) (.containerOpened container)
  | containerClosed (container : ClosedContainer) :
      Reorders (.containerClosed container) (.containerClosed container)
  | stackResponses (responses : List StackResponse) :
      Reorders (.stackResponses responses) (.stackResponses responses)

theorem read_reads {packet written : ServerPacket} (sendable : packet.Sendable)
    (order : packet.Reorders written) : Reads read written.encode written := by
  refine (Wire.readVarUInt32_reads written.id).bind ?_
  cases order with
  | windowContent order =>
      exact (WindowContent.read_reads sendable order).map ServerPacket.windowContent
  | containerOpened container =>
      exact (OpenedContainer.read_reads container).map ServerPacket.containerOpened
  | containerClosed container =>
      exact (ClosedContainer.read_reads container).map ServerPacket.containerClosed
  | stackResponses responses =>
      exact (StackResponse.readPacket_reads sendable).map ServerPacket.stackResponses

end ServerPacket

namespace ClientPacket

/-- How a packet to the server is read there: its id, and the body that goes with the id. -/
def read : Wire.Reader ClientPacket := do
  let id ← Wire.readVarUInt32
  if id = PacketId.stackRequest then return .stackRequests (← StackRequest.readPacket)
  else if id = PacketId.containerClose then return .closeContainer (← ClosedContainer.read)
  else throw (.unknownPacket id)

def Sendable : ClientPacket → Prop
  | .stackRequests requests => Wire.ListSendable StackRequest.Sendable requests
  | .closeContainer _ => True

theorem read_reads {packet : ClientPacket} (sendable : packet.Sendable) :
    Reads read packet.encode packet := by
  refine (Wire.readVarUInt32_reads packet.id).bind ?_
  cases packet with
  | stackRequests requests =>
      exact (StackRequest.readPacket_reads sendable).map ClientPacket.stackRequests
  | closeContainer container =>
      exact (ClosedContainer.read_reads container).map ClientPacket.closeContainer

end ClientPacket

end Packets

/-- The kinds of values that have a written form of their own. -/
inductive WireFormat where
  | varInt32
  | varUInt32
  | varInt64
  | blockPos
  | item
  | windowContent
  | openedContainer
  | closedContainer
  | slotRef
  | stackAction
  | stackRequest
  | requestPacket
  | slotAck
  | roleAcks
  | stackResponse
  | responsePacket
  | serverPacket
  | clientPacket
  deriving DecidableEq, Repr

namespace WireFormat

def Value : WireFormat → Type
  | .varInt32 => Int32
  | .varUInt32 => UInt32
  | .varInt64 => Int64
  | .blockPos => BlockPos
  | .item => Item
  | .windowContent => WindowContent
  | .openedContainer => OpenedContainer
  | .closedContainer => ClosedContainer
  | .slotRef => SlotRef
  | .stackAction => StackAction
  | .stackRequest => StackRequest
  | .requestPacket => List StackRequest
  | .slotAck => SlotAck
  | .roleAcks => RoleAcks
  | .stackResponse => StackResponse
  | .responsePacket => List StackResponse
  | .serverPacket => ServerPacket
  | .clientPacket => ClientPacket

def encode : (format : WireFormat) → format.Value → Bytes
  | .varInt32 => Wire.encodeVarInt32
  | .varUInt32 => Wire.encodeVarUInt32
  | .varInt64 => Wire.encodeVarInt64
  | .blockPos => BlockPos.encode
  | .item => Item.encode
  | .windowContent => WindowContent.encode
  | .openedContainer => OpenedContainer.encode
  | .closedContainer => ClosedContainer.encode
  | .slotRef => SlotRef.encode
  | .stackAction => StackAction.encode
  | .stackRequest => StackRequest.encode
  | .requestPacket => StackRequest.encodePacket
  | .slotAck => SlotAck.encode
  | .roleAcks => RoleAcks.encode
  | .stackResponse => StackResponse.encode
  | .responsePacket => StackResponse.encodePacket
  | .serverPacket => ServerPacket.encode
  | .clientPacket => ClientPacket.encode

def read : (format : WireFormat) → Wire.Reader format.Value
  | .varInt32 => Wire.readVarInt32
  | .varUInt32 => Wire.readVarUInt32
  | .varInt64 => Wire.readVarInt64
  | .blockPos => BlockPos.read
  | .item => Item.read
  | .windowContent => WindowContent.read
  | .openedContainer => OpenedContainer.read
  | .closedContainer => ClosedContainer.read
  | .slotRef => SlotRef.read
  | .stackAction => StackAction.read
  | .stackRequest => StackRequest.read
  | .requestPacket => StackRequest.readPacket
  | .slotAck => SlotAck.read
  | .roleAcks => RoleAcks.read
  | .stackResponse => StackResponse.read
  | .responsePacket => StackResponse.readPacket
  | .serverPacket => ServerPacket.read
  | .clientPacket => ClientPacket.read

/-- Nothing in the value is lost when it is written. -/
def Sendable : (format : WireFormat) → format.Value → Prop
  | .item => Item.Sendable
  | .windowContent => WindowContent.Sendable
  | .stackAction => StackAction.Sendable
  | .stackRequest => StackRequest.Sendable
  | .requestPacket => Wire.ListSendable StackRequest.Sendable
  | .slotAck => SlotAck.Sendable
  | .roleAcks => RoleAcks.Sendable
  | .stackResponse => StackResponse.Sendable
  | .responsePacket => Wire.ListSendable StackResponse.Sendable
  | .serverPacket => ServerPacket.Sendable
  | .clientPacket => ClientPacket.Sendable
  | .varInt32 | .varUInt32 | .varInt64 | .blockPos | .openedContainer | .closedContainer
  | .slotRef => fun _ => True

/-- The same value, with the entries of user data in another order. -/
def Reorders : (format : WireFormat) → format.Value → format.Value → Prop
  | .item => Item.Reorders
  | .windowContent => WindowContent.Reorders
  | .serverPacket => ServerPacket.Reorders
  | .varInt32 | .varUInt32 | .varInt64 | .blockPos | .openedContainer | .closedContainer
  | .slotRef | .stackAction | .stackRequest | .requestPacket | .slotAck | .roleAcks
  | .stackResponse | .responsePacket | .clientPacket => Eq

/-- Whatever can be written is read back as it was written, in whatever order the entries of
user data are written and whatever follows. -/
theorem written_values_are_read_back (format : WireFormat) {value written : format.Value}
    (sendable : format.Sendable value) (order : format.Reorders value written) (tail : Bytes) :
    format.read (format.encode written ++ tail) = .ok (written, tail) := by
  cases format with
  | item => exact Item.read_reads sendable order tail
  | windowContent => exact WindowContent.read_reads sendable order tail
  | serverPacket => exact ServerPacket.read_reads sendable order tail
  | varInt32 => exact Wire.readVarInt32_reads written tail
  | varUInt32 => exact Wire.readVarUInt32_reads written tail
  | varInt64 => exact Wire.readVarInt64_reads written tail
  | blockPos => exact BlockPos.read_reads written tail
  | openedContainer => exact OpenedContainer.read_reads written tail
  | closedContainer => exact ClosedContainer.read_reads written tail
  | slotRef => exact SlotRef.read_reads written tail
  | stackAction =>
      cases order
      exact StackAction.read_reads sendable tail
  | stackRequest =>
      cases order
      exact StackRequest.read_reads sendable tail
  | requestPacket =>
      cases order
      exact StackRequest.readPacket_reads sendable tail
  | slotAck =>
      cases order
      exact SlotAck.read_reads sendable tail
  | roleAcks =>
      cases order
      exact RoleAcks.read_reads sendable tail
  | stackResponse =>
      cases order
      exact StackResponse.read_reads sendable tail
  | responsePacket =>
      cases order
      exact StackResponse.readPacket_reads sendable tail
  | clientPacket =>
      cases order
      exact ClientPacket.read_reads sendable tail

/-- A sword with a name. -/
def sword (userData : Nbt.Compound) : Item where
  typeId := 307
  count := 1
  userData := some userData
  canPlaceOn := ["minecraft:stone"]
  stackId := -7

def swordData : Nbt.Compound :=
  [("display", .compound [("Name", .string "Foo")]), ("RepairCost", .int 1)]

theorem sword_sendable : (sword swordData).Sendable := by
  have names (list : List String) (short : list.length < 2 ^ 31 ∧
      ∀ name ∈ list, Wire.ShortText name) : Item.NamesSendable list := ⟨short.1, short.2⟩
  refine ⟨fun air => absurd air (by decide), ?_, names _ (by decide +kernel), names _ (by decide)⟩
  intro compound carried
  obtain rfl : swordData = compound := Option.some.inj carried
  exact Nbt.Root.roundTrips_of_shallow (by decide +kernel) (by decide +kernel)

def swordPacket (userData : Nbt.Compound) : ServerPacket :=
  .windowContent ⟨0, [sword userData]⟩

/-- The entries of the sword are written in the other order than they are kept. -/
theorem sword_is_read_back :
    WireFormat.serverPacket.read (ServerPacket.encode (swordPacket swordData.reverse) ++ [7]) =
      .ok (swordPacket swordData.reverse, [7]) := by
  have sendable : WireFormat.serverPacket.Sendable (swordPacket swordData) :=
    ⟨by decide, List.forall_mem_singleton.2 sword_sendable⟩
  have order : WireFormat.serverPacket.Reorders (swordPacket swordData)
      (swordPacket swordData.reverse) :=
    .windowContent ⟨rfl, .cons ⟨.some (.entries (List.reverse_perm _).symm), rfl⟩ .nil⟩
  exact written_values_are_read_back .serverPacket sendable order [7]

end WireFormat

end InventorySync
