import InventorySync.Packet.Basic
import InventorySync.Proofs.NbtRoundTrip
import InventorySync.Proofs.WireReading

/-!
The records of packets are read back as they were written. What cannot be told from the
written form is not asked for: air is its type alone, and a rejected request is answered
without slots.
-/

namespace InventorySync

set_option autoImplicit false

open Decoder

theorem BlockPos.read_reads (position : BlockPos) :
    Reads BlockPos.read position.encode position := by
  unfold BlockPos.encode
  rw [List.append_assoc]
  have height : position.y.toUInt32.toInt32 = position.y := rfl
  refine (Wire.readVarInt32_reads position.x).bind ?_
  refine (Wire.readVarUInt32_reads position.y.toUInt32).bind ?_
  rw [height]
  exact (Wire.readVarInt32_reads position.z).map (BlockPos.mk position.x position.y)

theorem OpenedContainer.read_reads (container : OpenedContainer) :
    Reads OpenedContainer.read container.encode container := by
  unfold OpenedContainer.encode
  rw [List.append_assoc]
  refine Reads.cons (Reads.cons ?_)
  refine (BlockPos.read_reads container.position).bind ?_
  exact (Wire.readVarInt64_reads container.entityId).map
    (OpenedContainer.mk container.window container.containerType container.position)

theorem ClosedContainer.read_reads (container : ClosedContainer) :
    Reads ClosedContainer.read container.encode container :=
  Reads.cons ((Wire.readBool_reads container.byServer).map
    (ClosedContainer.mk container.window))

section Requests

theorem SlotRef.read_reads (reference : SlotRef) :
    Reads SlotRef.read reference.encode reference := by
  unfold SlotRef.encode
  refine Reads.cons ?_
  rw [Role.ofNumber_number]
  refine Reads.cons ?_
  exact (Wire.readVarInt32_reads reference.stackId).map
    (SlotRef.mk reference.role reference.slot)

/-- The lengths in an action can be written. -/
def StackAction.Sendable : StackAction → Prop
  | .craftRecipeAuto _ _ ingredients => Wire.ListSendable (fun _ => True) ingredients
  | .craftLoom pattern => Wire.ShortText pattern
  | _ => True

theorem StackAction.read_reads {action : StackAction} (sendable : action.Sendable) :
    Reads StackAction.read action.encode action := by
  refine Reads.cons ?_
  cases action with
  | take count source target =>
      refine Reads.cons ((SlotRef.read_reads source).bind ?_)
      exact (SlotRef.read_reads target).map (StackAction.take count source)
  | place count source target =>
      refine Reads.cons ((SlotRef.read_reads source).bind ?_)
      exact (SlotRef.read_reads target).map (StackAction.place count source)
  | swap source target =>
      refine (SlotRef.read_reads source).bind ?_
      exact (SlotRef.read_reads target).map (StackAction.swap source)
  | drop count source randomly =>
      refine Reads.cons ((SlotRef.read_reads source).bind ?_)
      exact (Wire.readBool_reads randomly).map (StackAction.drop count source)
  | destroy count source =>
      exact Reads.cons ((SlotRef.read_reads source).map (StackAction.destroy count))
  | consume count source =>
      exact Reads.cons ((SlotRef.read_reads source).map (StackAction.consume count))
  | create resultSlot => exact (Wire.readByte_reads resultSlot).map StackAction.create
  | craftRecipe recipe => exact (Wire.readVarUInt32_reads recipe).map StackAction.craftRecipe
  | craftRecipeAuto recipe times ingredients =>
      have slots : Reads (Wire.readList Wire.readByte)
          (Wire.encodeList (fun slot => [slot]) ingredients) ingredients :=
        Wire.readList_reads sendable (fun slot => List.cons_ne_nil slot [])
          fun _ => Wire.readByte_reads _
      refine (Wire.readVarUInt32_reads recipe).bind (Reads.cons ?_)
      exact slots.map (StackAction.craftRecipeAuto recipe times)
  | craftCreative entry => exact (Wire.readVarUInt32_reads entry).map StackAction.craftCreative
  | craftRecipeOptional recipe filterString =>
      refine (Wire.readVarUInt32_reads recipe).bind ?_
      exact (Wire.readVarInt32_reads filterString).map (StackAction.craftRecipeOptional recipe)
  | craftGrindstone recipe =>
      exact (Wire.readVarUInt32_reads recipe).map StackAction.craftGrindstone
  | craftLoom pattern => exact (Wire.readString_reads sendable).map StackAction.craftLoom

/-- The lengths in a request can be written. -/
structure StackRequest.Sendable (request : StackRequest) : Prop where
  actions : Wire.ListSendable StackAction.Sendable request.actions
  filterStrings : Wire.ListSendable Wire.ShortText request.filterStrings

theorem StackRequest.read_reads {request : StackRequest} (sendable : request.Sendable) :
    Reads StackRequest.read request.encode request := by
  have actions : Reads (Wire.readList StackAction.read)
      (Wire.encodeList StackAction.encode request.actions) request.actions :=
    Wire.readList_reads sendable.actions (fun _ => List.cons_ne_nil _ _)
      StackAction.read_reads
  have filterStrings : Reads (Wire.readList Wire.readString)
      (Wire.encodeList Wire.encodeString request.filterStrings) request.filterStrings :=
    Wire.readList_reads sendable.filterStrings Wire.encodeString_ne_nil Wire.readString_reads
  unfold StackRequest.encode
  rw [List.append_assoc, List.append_assoc]
  refine (Wire.readVarInt32_reads request.id).bind (actions.bind (filterStrings.bind ?_))
  exact (Wire.readVarInt32_reads request.filterCause).map
    (StackRequest.mk request.id request.actions request.filterStrings)

theorem StackRequest.encode_ne_nil (request : StackRequest) : request.encode ≠ [] := by
  unfold StackRequest.encode
  simp [Wire.encodeVarInt32_ne_nil]

theorem StackRequest.readPacket_reads {requests : List StackRequest}
    (sendable : Wire.ListSendable StackRequest.Sendable requests) :
    Reads StackRequest.readPacket (StackRequest.encodePacket requests) requests :=
  Wire.readList_reads sendable StackRequest.encode_ne_nil StackRequest.read_reads

end Requests

section Responses

def SlotAck.Sendable (ack : SlotAck) : Prop := Wire.ShortText ack.customName

def RoleAcks.Sendable (group : RoleAcks) : Prop :=
  Wire.ListSendable SlotAck.Sendable group.acks

/-- The lengths in an answer can be written, and it has no slots if it is a rejection. -/
structure StackResponse.Sendable (response : StackResponse) : Prop where
  rejected : response.status ≠ 0 → response.groups = []
  groups : Wire.ListSendable RoleAcks.Sendable response.groups

theorem SlotAck.read_reads {ack : SlotAck} (sendable : ack.Sendable) :
    Reads SlotAck.read ack.encode ack := by
  unfold SlotAck.encode
  rw [List.append_assoc, List.append_assoc]
  refine Reads.cons (Reads.cons (Reads.cons ?_))
  refine (Wire.readVarInt32_reads ack.stackId).bind ((Wire.readString_reads sendable).bind ?_)
  exact (Wire.readVarInt32_reads ack.durabilityCorrection).map
    (SlotAck.mk ack.slot ack.hotbarSlot ack.count ack.stackId ack.customName)

theorem RoleAcks.read_reads {group : RoleAcks} (sendable : group.Sendable) :
    Reads RoleAcks.read group.encode group := by
  have acks : Reads (Wire.readList SlotAck.read) (Wire.encodeList SlotAck.encode group.acks)
      group.acks :=
    Wire.readList_reads sendable (fun _ => List.cons_ne_nil _ _) SlotAck.read_reads
  refine Reads.cons ((Wire.readVarUInt32_reads group.dynamicId).bind ?_)
  exact acks.map (RoleAcks.mk group.roleNumber group.dynamicId)

theorem StackResponse.read_reads {response : StackResponse} (sendable : response.Sendable) :
    Reads StackResponse.read response.encode response := by
  obtain ⟨status, requestId, groups⟩ := response
  refine Reads.cons ((Wire.readVarInt32_reads requestId).bind ?_)
  by_cases accepted : status = 0
  · subst accepted
    have listed : Reads (Wire.readList RoleAcks.read) (Wire.encodeList RoleAcks.encode groups)
        groups :=
      Wire.readList_reads sendable.groups (fun _ => List.cons_ne_nil _ _) RoleAcks.read_reads
    exact listed.map (StackResponse.mk 0 requestId)
  · obtain rfl : groups = [] := sendable.rejected accepted
    have silent : (⟨status, requestId, []⟩ : StackResponse).isAccepted = false :=
      decide_eq_false accepted
    simp only [if_neg accepted, silent, Bool.false_eq_true, if_false]
    exact fun _ => rfl

theorem StackResponse.readPacket_reads {responses : List StackResponse}
    (sendable : Wire.ListSendable StackResponse.Sendable responses) :
    Reads StackResponse.readPacket (StackResponse.encodePacket responses) responses :=
  Wire.readList_reads sendable (fun _ => List.cons_ne_nil _ _) StackResponse.read_reads

end Responses

end InventorySync
