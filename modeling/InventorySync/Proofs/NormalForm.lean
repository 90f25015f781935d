import InventorySync.Proofs.NbtNormalForm

/-!
Reading brings a value into its normal form. Whatever was read from irregular bytes is written
in as many bytes or fewer, and read back from them as the same value. This covers numbers in
more groups than they need or with bits beyond their width, truth values of any byte, user data
of the oldest form or behind a name, and a stack id of zero that is spelled out.
-/

namespace InventorySync

set_option autoImplicit false

open Decoder

/-- Values that need nothing to be written. -/
abbrev Unconditionally {α : Type} : α → Prop := fun _ => True

theorem BlockPos.read_shrinks : Shrinks BlockPos.read BlockPos.encode Unconditionally := by
  refine Wire.readVarInt32_answers.bind fun x first xRoom => ?_
  refine Wire.readVarUInt32_answers.bind fun y second yRoom => ?_
  refine Wire.readVarInt32_answers.map fun z third zRoom => ⟨trivial, ?_⟩
  rw [BlockPos.encode, List.length_append, List.length_append, Nat.add_assoc]
  exact Nat.add_le_add xRoom (Nat.add_le_add yRoom zRoom)

section Items

namespace Item

theorem readStackId_answers :
    Answers readStackId fun stackId size => (encodeStackId stackId).length ≤ size := by
  refine Wire.readBool_answers.bind fun present size one => .ite (fun _ => ?_) fun _ => ?_
  · refine Wire.readVarInt32_answers.weaken fun stackId more room => ?_
    unfold encodeStackId
    split
    · rw [Wire.length_encodeBool, one]
      exact Nat.le_add_right 1 more
    · rw [List.length_append, Wire.length_encodeBool, one]
      exact Nat.add_le_add_left room 1
  · exact .pure (Nat.le_of_eq one.symm)

/-- User data that is kept has a normal form of its own; user data that is passed over leaves
nothing. -/
theorem readUserData_answers : Answers readUserData fun userData size =>
    (∀ compound, userData = some compound →
      (Nbt.Root.mk "" compound).Writable ∧ (Nbt.Root.mk "" compound).Shallow) ∧
        (encodeUserData userData).length ≤ size := by
  have root : Answers (do
      let root ← Decoder.mapError Wire.Error.userData Nbt.readRoot
      return some root.compound) fun userData size => ∃ compound, userData = some compound ∧
        (Nbt.Root.mk "" compound).Writable ∧ (Nbt.Root.mk "" compound).Shallow ∧
          (Nbt.Root.mk "" compound).encode.length ≤ size := by
    refine Nbt.readRoot_shrinks.mapError.map fun root size read => ?_
    obtain ⟨⟨writable, shallow⟩, room⟩ := read
    obtain ⟨unnamed, shorter⟩ := Nbt.Root.unnamed writable
    exact ⟨root.compound, rfl, unnamed, shallow, Nat.le_trans shorter room⟩
  refine Wire.readVarUInt32_answers.bind fun marker size markerRoom => .ite ?_ fun _ => ?_
  · rintro rfl
    refine Wire.readByte_answers.bind fun version one single => .ite (fun _ => ?_) fun _ => ?_
    · exact .failing _
    · refine root.weaken ?_
      rintro _ more ⟨compound, rfl, writable, shallow, room⟩
      refine ⟨?_, ?_⟩
      · rintro other ⟨⟩
        exact ⟨writable, shallow⟩
      · rw [encodeUserData, List.length_append, List.length_cons]
        omega
  · refine (Answers.take _).bind fun passed more _ => .pure ⟨fun _ absent => (nomatch absent), ?_⟩
    have one : (encodeUserData none).length = 1 := by decide +kernel
    have least := Varint.length_encode_pos marker.toNat
    have room : (Varint.encode marker.toNat).length ≤ size := markerRoom
    rw [one]
    omega

theorem readNames_shrinks : Shrinks readNames encodeNames NamesSendable := by
  refine Wire.readVarInt32_answers.bind fun count size room => .ite (fun _ => ?_) fun natural => ?_
  · exact .failing _
  · refine (Wire.readCounted_shrinks Wire.readString_shrinks count.toInt.toNat).weaken ?_
    rintro names more ⟨⟨length, short⟩, row⟩
    have bounded := count.toInt_lt
    have positive : 0 ≤ count.toInt := Int32.le_iff_toInt_le.1 (Int32.not_lt.1 natural)
    have same : Int32.ofNat names.length = count := by
      rw [length, ← Int32.ofInt_eq_ofNat, Int.toNat_of_nonneg positive, Int32.ofInt_toInt]
    refine ⟨⟨by omega, short⟩, ?_⟩
    rw [encodeNames, List.length_append, same]
    exact Nat.add_le_add room row

theorem length_encode_of_ne_zero {item : Item} (solid : item.typeId ≠ 0) : item.encode.length =
    (Wire.encodeVarInt32 item.typeId).length + 2 +
      (Wire.encodeVarUInt32 item.metadata.toUInt32).length + (encodeStackId item.stackId).length +
      (Wire.encodeVarInt32 item.blockTypeId).length + (encodeUserData item.userData).length +
      (encodeNames item.canPlaceOn).length + (encodeNames item.canDestroy).length := by
  simp only [encode, if_neg solid, List.length_append, Wire.length_encodeUInt16]

/-- Metadata is not longer after it is cut to two bytes. -/
theorem length_encodeVarUInt32_cut (metadata : UInt32) :
    (Wire.encodeVarUInt32 metadata.toUInt16.toUInt32).length ≤
      (Wire.encodeVarUInt32 metadata).length := by
  apply Varint.length_encode_of_le
  rw [UInt16.toNat_toUInt32, UInt32.toNat_toUInt16]
  exact Nat.mod_le _ _

theorem read_shrinks : Shrinks read encode Sendable := by
  refine Wire.readVarInt32_answers.bind fun typeId size typeRoom => .ite ?_ fun solid => ?_
  · rintro rfl
    refine .pure ⟨?_, typeRoom⟩
    have none : NamesSendable [] := ⟨by decide, List.forall_mem_nil _⟩
    exact ⟨fun _ => rfl, fun _ absent => (nomatch absent), none, none⟩
  · refine Wire.readUInt16_answers.bind fun count countSize two => ?_
    refine Wire.readVarUInt32_answers.bind fun metadata metadataSize metadataRoom => ?_
    refine readStackId_answers.bind fun stackId stackIdSize stackIdRoom => ?_
    refine Wire.readVarInt32_answers.bind fun blockTypeId blockSize blockRoom => ?_
    refine readUserData_answers.bind fun userData userDataSize kept => ?_
    refine readNames_shrinks.bind fun canPlaceOn placeSize placed => ?_
    refine readNames_shrinks.map fun canDestroy destroySize destroyed => ⟨?_, ?_⟩
    · refine ⟨fun air => absurd air solid, fun compound carried => ?_, placed.1, destroyed.1⟩
      obtain ⟨writable, shallow⟩ := kept.1 compound carried
      exact Nbt.Root.roundTrips_of_shallow writable shallow
    · have cut := length_encodeVarUInt32_cut metadata
      have userDataRoom := kept.2
      have placeRoom := placed.2
      have destroyRoom := destroyed.2
      rw [length_encode_of_ne_zero solid]
      dsimp only
      omega

theorem length_encodeUserData_reordered {left right : Option Nbt.Compound}
    (order : Option.Rel (fun left right => (Nbt.Tag.compound left).Reorders (.compound right))
      left right) : (encodeUserData right).length = (encodeUserData left).length := by
  cases order with
  | none => rfl
  | @some first second inner =>
      have root : (Nbt.Root.mk "" first).Reorders (Nbt.Root.mk "" second) := ⟨rfl, inner⟩
      simp only [encodeUserData, List.length_append, List.length_cons, root.length_encode]

theorem Reorders.length_encode {item written : Item} (order : item.Reorders written) :
    written.encode.length = item.encode.length := by
  obtain ⟨related, rest⟩ := order
  have userData := length_encodeUserData_reordered related
  generalize written.userData = carried at userData rest
  subst rest
  by_cases air : item.typeId = 0
  · simp only [encode, if_pos air]
  · have solid : ({ item with userData := carried } : Item).typeId ≠ 0 := air
    rw [length_encode_of_ne_zero solid, length_encode_of_ne_zero air, userData]

end Item

theorem WindowContent.read_shrinks :
    Shrinks WindowContent.read WindowContent.encode WindowContent.Sendable := by
  refine Wire.readVarUInt32_answers.bind fun number size room => ?_
  refine (Wire.readList_shrinks Item.read_shrinks).map fun items more listed => ⟨listed.1, ?_⟩
  rw [WindowContent.encode, List.length_append]
  exact Nat.add_le_add room listed.2

theorem length_flatMap_of_forall₂ {α : Type} {encode : α → Bytes} {same : α → α → Prop}
    (length : ∀ {value written}, same value written →
      (encode written).length = (encode value).length) {values written : List α}
    (order : List.Forall₂ same values written) :
    (written.flatMap encode).length = (values.flatMap encode).length := by
  induction order with
  | nil => rfl
  | cons here _ induction =>
      rw [List.flatMap_cons, List.flatMap_cons, List.length_append, List.length_append,
        length here, induction]

theorem WindowContent.Reorders.length_encode {content written : WindowContent}
    (order : content.Reorders written) : written.encode.length = content.encode.length := by
  have items : (written.items.flatMap Item.encode).length =
      (content.items.flatMap Item.encode).length :=
    length_flatMap_of_forall₂ (fun same => Item.Reorders.length_encode same) order.items
  simp only [WindowContent.encode, Wire.encodeList, List.length_append, order.windowNumber,
    order.items.length_eq, items]

end Items

section Windows

theorem OpenedContainer.read_shrinks :
    Shrinks OpenedContainer.read OpenedContainer.encode Unconditionally := by
  refine Wire.readByte_answers.bind fun window first one => ?_
  refine Wire.readByte_answers.bind fun type second two => ?_
  refine BlockPos.read_shrinks.bind fun position third placed => ?_
  refine Wire.readVarInt64_answers.map fun entityId fourth room => ⟨trivial, ?_⟩
  have placeRoom := placed.2
  simp only [OpenedContainer.encode, List.length_append, List.length_cons, List.length_nil]
  omega

theorem ClosedContainer.read_shrinks :
    Shrinks ClosedContainer.read ClosedContainer.encode Unconditionally := by
  refine Wire.readByte_answers.bind fun window first one => ?_
  refine Wire.readBool_answers.map fun byServer second two => ⟨trivial, ?_⟩
  apply Nat.le_of_eq
  rw [ClosedContainer.encode, List.length_cons, Wire.length_encodeBool, one, two]

end Windows

section Requests

theorem SlotRef.read_shrinks : Shrinks SlotRef.read SlotRef.encode Unconditionally := by
  refine Wire.readByte_answers.bind fun number first one => ?_
  split
  · exact .throw _
  · next role _ =>
      refine Wire.readByte_answers.bind fun slot second two => ?_
      refine Wire.readVarInt32_answers.map fun stackId third room => ⟨trivial, ?_⟩
      simp only [SlotRef.encode, List.length_append, List.length_cons, List.length_nil]
      omega

/-- What follows the number of its type. -/
theorem StackAction.length_encode (action : StackAction) :
    action.encode.length = action.encodeFields.length + 1 := rfl

theorem StackAction.readFields_shrinks (typeNumber : UInt8) :
    Shrinks (readFields typeNumber) encodeFields Sendable := by
  -- Two references and what stands in front of them.
  have moved {make : UInt8 → SlotRef → SlotRef → StackAction}
      (fields : ∀ count source target, (make count source target).Sendable ∧
        (make count source target).encodeFields = count :: (source.encode ++ target.encode)) :
      Shrinks (do return make (← Wire.readByte) (← SlotRef.read) (← SlotRef.read))
        encodeFields Sendable := by
    refine Wire.readByte_answers.bind fun count first one => ?_
    refine SlotRef.read_shrinks.bind fun source second from_ => ?_
    refine SlotRef.read_shrinks.map fun target third to_ => ⟨(fields ..).1, ?_⟩
    have sourceRoom := from_.2
    have targetRoom := to_.2
    rw [(fields ..).2, List.length_cons, List.length_append]
    omega
  have removed {make : UInt8 → SlotRef → StackAction}
      (fields : ∀ count source, (make count source).Sendable ∧
        (make count source).encodeFields = count :: source.encode) :
      Shrinks (do return make (← Wire.readByte) (← SlotRef.read)) encodeFields Sendable := by
    refine Wire.readByte_answers.bind fun count first one => ?_
    refine SlotRef.read_shrinks.map fun source second from_ => ⟨(fields ..).1, ?_⟩
    rw [(fields ..).2, List.length_cons, one, Nat.add_comm]
    exact Nat.add_le_add_left from_.2 1
  unfold readFields
  split
  · exact moved fun _ _ _ => ⟨trivial, rfl⟩
  · exact moved fun _ _ _ => ⟨trivial, rfl⟩
  · refine SlotRef.read_shrinks.bind fun source first from_ => ?_
    refine SlotRef.read_shrinks.map fun target second to_ => ⟨trivial, ?_⟩
    rw [encodeFields, List.length_append]
    exact Nat.add_le_add from_.2 to_.2
  · refine Wire.readByte_answers.bind fun count first one => ?_
    refine SlotRef.read_shrinks.bind fun source second from_ => ?_
    refine Wire.readBool_answers.map fun randomly third two => ⟨trivial, ?_⟩
    have sourceRoom := from_.2
    rw [encodeFields, List.length_cons, List.length_append, Wire.length_encodeBool]
    omega
  · exact removed fun _ _ => ⟨trivial, rfl⟩
  · exact removed fun _ _ => ⟨trivial, rfl⟩
  · exact Wire.readByte_answers.map fun _ _ one => ⟨trivial, Nat.le_of_eq one.symm⟩
  · exact Wire.readVarUInt32_answers.map fun _ _ room => ⟨trivial, room⟩
  · have each : Shrinks Wire.readByte (fun slot => [slot]) Unconditionally :=
      Wire.readByte_answers.weaken fun _ _ one => ⟨trivial, Nat.le_of_eq one.symm⟩
    refine Wire.readVarUInt32_answers.bind fun recipe first recipeRoom => ?_
    refine Wire.readByte_answers.bind fun times second one => ?_
    refine (Wire.readList_shrinks each).map fun ingredients third listed => ⟨listed.1, ?_⟩
    have listRoom := listed.2
    rw [encodeFields, List.length_append, List.length_cons]
    omega
  · exact Wire.readVarUInt32_answers.map fun _ _ room => ⟨trivial, room⟩
  · refine Wire.readVarUInt32_answers.bind fun recipe first recipeRoom => ?_
    refine Wire.readVarInt32_answers.map fun filterString second room => ⟨trivial, ?_⟩
    rw [encodeFields, List.length_append]
    exact Nat.add_le_add recipeRoom room
  · exact Wire.readVarUInt32_answers.map fun _ _ room => ⟨trivial, room⟩
  · exact Wire.readString_shrinks.map fun _ _ read => read
  · exact .throw _

theorem StackAction.read_shrinks : Shrinks StackAction.read StackAction.encode Sendable := by
  refine Wire.readByte_answers.bind fun typeNumber first one => ?_
  refine (readFields_shrinks typeNumber).weaken fun action second fields => ⟨fields.1, ?_⟩
  rw [length_encode, one, Nat.add_comm]
  exact Nat.add_le_add_left fields.2 1

theorem StackRequest.read_shrinks :
    Shrinks StackRequest.read StackRequest.encode StackRequest.Sendable := by
  refine Wire.readVarInt32_answers.bind fun id first idRoom => ?_
  refine (Wire.readList_shrinks StackAction.read_shrinks).bind fun actions second listed => ?_
  refine (Wire.readList_shrinks Wire.readString_shrinks).bind fun strings third named => ?_
  refine Wire.readVarInt32_answers.map fun cause fourth room => ⟨⟨listed.1, named.1⟩, ?_⟩
  have actionRoom := listed.2
  have stringRoom := named.2
  simp only [StackRequest.encode, List.length_append]
  omega

theorem StackRequest.readPacket_shrinks : Shrinks StackRequest.readPacket
    StackRequest.encodePacket (Wire.ListSendable StackRequest.Sendable) :=
  Wire.readList_shrinks StackRequest.read_shrinks

end Requests

section Responses

theorem SlotAck.read_shrinks : Shrinks SlotAck.read SlotAck.encode SlotAck.Sendable := by
  refine Wire.readByte_answers.bind fun slot first one => ?_
  refine Wire.readByte_answers.bind fun hotbarSlot second two => ?_
  refine Wire.readByte_answers.bind fun count third three => ?_
  refine Wire.readVarInt32_answers.bind fun stackId fourth idRoom => ?_
  refine Wire.readString_shrinks.bind fun name fifth named => ?_
  refine Wire.readVarInt32_answers.map fun correction sixth room => ⟨named.1, ?_⟩
  have nameRoom := named.2
  simp only [SlotAck.encode, List.length_append, List.length_cons, List.length_nil]
  omega

theorem RoleAcks.read_shrinks : Shrinks RoleAcks.read RoleAcks.encode RoleAcks.Sendable := by
  refine Wire.readByte_answers.bind fun role first one => ?_
  refine Wire.readVarUInt32_answers.bind fun dynamicId second room => ?_
  refine (Wire.readList_shrinks SlotAck.read_shrinks).map fun acks third listed => ⟨listed.1, ?_⟩
  have listRoom := listed.2
  simp only [RoleAcks.encode, List.length_cons, List.length_append]
  omega

theorem StackResponse.read_shrinks :
    Shrinks StackResponse.read StackResponse.encode StackResponse.Sendable := by
  refine Wire.readByte_answers.bind fun status first one => ?_
  refine Wire.readVarInt32_answers.bind fun id second idRoom => .ite ?_ fun rejected => ?_
  · rintro rfl
    refine (Wire.readList_shrinks RoleAcks.read_shrinks).map fun groups third listed => ?_
    refine ⟨⟨fun rejected => absurd rfl rejected, listed.1⟩, ?_⟩
    have listRoom := listed.2
    have accepted : (⟨0, id, groups⟩ : StackResponse).isAccepted = true := rfl
    simp only [StackResponse.encode, if_pos accepted, List.length_cons, List.length_append]
    omega
  · have silent : (⟨status, id, []⟩ : StackResponse).isAccepted = false :=
      decide_eq_false rejected
    have none : Wire.ListSendable RoleAcks.Sendable [] := ⟨by decide, List.forall_mem_nil _⟩
    refine .pure ⟨⟨fun _ => rfl, none⟩, ?_⟩
    simp only [StackResponse.encode, silent, Bool.false_eq_true, if_false, List.append_nil,
      List.length_cons]
    omega

theorem StackResponse.readPacket_shrinks : Shrinks StackResponse.readPacket
    StackResponse.encodePacket (Wire.ListSendable StackResponse.Sendable) :=
  Wire.readList_shrinks StackResponse.read_shrinks

end Responses

section Packets

namespace ServerPacket

/-- The body of a packet without its id. -/
theorem readBody_shrinks (id : UInt32) : Answers (readBody id) fun packet size =>
    (packet.id = id ∧ packet.Sendable) ∧ packet.encodeBody.length ≤ size := by
  refine .ite ?_ fun _ => .ite ?_ fun _ => .ite ?_ fun _ => .ite ?_ fun _ => .throw _
  · exact fun same => WindowContent.read_shrinks.map fun _ _ read => ⟨⟨same.symm, read.1⟩, read.2⟩
  · exact fun same => OpenedContainer.read_shrinks.map fun _ _ read =>
      ⟨⟨same.symm, trivial⟩, read.2⟩
  · exact fun same => ClosedContainer.read_shrinks.map fun _ _ read =>
      ⟨⟨same.symm, trivial⟩, read.2⟩
  · exact fun same => StackResponse.readPacket_shrinks.map fun _ _ read =>
      ⟨⟨same.symm, read.1⟩, read.2⟩

theorem read_shrinks : Shrinks read encode Sendable := by
  refine Wire.readVarUInt32_answers.bind fun id size room => (readBody_shrinks id).weaken ?_
  rintro packet more ⟨⟨rfl, sendable⟩, body⟩
  refine ⟨sendable, ?_⟩
  rw [encode, List.length_append]
  exact Nat.add_le_add room body

theorem Reorders.length_encode {packet written : ServerPacket} (order : packet.Reorders written) :
    written.encode.length = packet.encode.length := by
  cases order with
  | windowContent order =>
      simp only [encode, id, encodeBody, List.length_append, order.length_encode]
  | containerOpened | containerClosed | stackResponses => rfl

end ServerPacket

namespace ClientPacket

theorem read_shrinks : Shrinks read encode Sendable := by
  refine Wire.readVarUInt32_answers.bind fun id size room => .ite ?_ fun _ => .ite ?_ fun _ => ?_
  · rintro rfl
    refine StackRequest.readPacket_shrinks.map fun requests more read => ⟨read.1, ?_⟩
    rw [encode, List.length_append]
    exact Nat.add_le_add room read.2
  · rintro rfl
    refine ClosedContainer.read_shrinks.map fun container more read => ⟨trivial, ?_⟩
    rw [encode, List.length_append]
    exact Nat.add_le_add room read.2
  · exact .throw _

end ClientPacket

end Packets

section Normalising

/-- What was read, however it is written again, takes no more bytes than it was read from, and
nothing but these bytes is needed to read it. -/
def Normalises {ε α : Type} (reader : Decoder ε α) (encode : α → Bytes)
    (same : α → α → Prop) : Prop :=
  ∀ ⦃input rest : Bytes⦄ ⦃value written : α⦄, reader input = .ok (value, rest) →
    same value written → (encode written).length + rest.length ≤ input.length ∧
      reader (encode written) = .ok (written, [])

variable {ε α : Type} {reader : Decoder ε α} {encode : α → Bytes} {admitted : α → Prop}
  {same : α → α → Prop}

theorem Normalises.of_shrinks (shrinks : Shrinks reader encode admitted)
    (length : ∀ {value written}, same value written →
      (encode written).length = (encode value).length)
    (reads : ∀ {value written}, admitted value → same value written →
      Reads reader (encode written) written) : Normalises reader encode same := by
  intro input rest value written succeeds order
  obtain ⟨size, taken, accepted, room⟩ := shrinks succeeds
  refine ⟨?_, ?_⟩
  · rw [taken, length order]
    exact Nat.add_le_add_right room _
  · have back := reads accepted order []
    rw [List.append_nil] at back
    exact back

theorem Normalises.of_eq (shrinks : Shrinks reader encode admitted)
    (reads : ∀ {value}, admitted value → Reads reader (encode value) value) :
    Normalises reader encode Eq := by
  refine .of_shrinks shrinks ?_ ?_
  · rintro value _ rfl
    rfl
  · rintro value _ accepted rfl
    exact reads accepted

theorem Normalises.of_answers
    (answers : Answers reader fun value size => (encode value).length ≤ size)
    (reads : ∀ value, Reads reader (encode value) value) : Normalises reader encode Eq :=
  .of_eq (answers.weaken fun _ _ room => ⟨trivial, room⟩ : Shrinks reader encode Unconditionally)
    fun _ => reads _

theorem Nbt.readRoot_normalises :
    Normalises Nbt.readRoot Nbt.Root.encode Nbt.Root.Reorders :=
  .of_shrinks Nbt.readRoot_shrinks (fun order => order.length_encode)
    fun accepted order => Nbt.Root.roundTrips_of_shallow accepted.1 accepted.2 _ order

theorem WireFormat.read_normalises (format : WireFormat) :
    Normalises format.read format.encode format.Reorders := by
  cases format with
  | varInt32 => exact .of_answers Wire.readVarInt32_answers Wire.readVarInt32_reads
  | varUInt32 => exact .of_answers Wire.readVarUInt32_answers Wire.readVarUInt32_reads
  | varInt64 => exact .of_answers Wire.readVarInt64_answers Wire.readVarInt64_reads
  | blockPos => exact .of_eq BlockPos.read_shrinks fun _ => BlockPos.read_reads _
  | item => exact .of_shrinks Item.read_shrinks Item.Reorders.length_encode Item.read_reads
  | windowContent =>
      exact .of_shrinks WindowContent.read_shrinks WindowContent.Reorders.length_encode
        WindowContent.read_reads
  | openedContainer =>
      exact .of_eq OpenedContainer.read_shrinks fun _ => OpenedContainer.read_reads _
  | closedContainer =>
      exact .of_eq ClosedContainer.read_shrinks fun _ => ClosedContainer.read_reads _
  | slotRef => exact .of_eq SlotRef.read_shrinks fun _ => SlotRef.read_reads _
  | stackAction => exact .of_eq StackAction.read_shrinks StackAction.read_reads
  | stackRequest => exact .of_eq StackRequest.read_shrinks StackRequest.read_reads
  | requestPacket => exact .of_eq StackRequest.readPacket_shrinks StackRequest.readPacket_reads
  | slotAck => exact .of_eq SlotAck.read_shrinks SlotAck.read_reads
  | roleAcks => exact .of_eq RoleAcks.read_shrinks RoleAcks.read_reads
  | stackResponse => exact .of_eq StackResponse.read_shrinks StackResponse.read_reads
  | responsePacket =>
      exact .of_eq StackResponse.readPacket_shrinks StackResponse.readPacket_reads
  | serverPacket =>
      exact .of_shrinks ServerPacket.read_shrinks ServerPacket.Reorders.length_encode
        ServerPacket.read_reads
  | clientPacket => exact .of_eq ClientPacket.read_shrinks ClientPacket.read_reads

/-- Whatever any reader accepts is written in no more bytes than it was accepted from, in
whatever order the entries of compounds are written, and these bytes stand for it. -/
theorem reading_normalises :
    Normalises Nbt.readRoot Nbt.Root.encode Nbt.Root.Reorders ∧
      ∀ format : WireFormat, Normalises format.read format.encode format.Reorders :=
  ⟨Nbt.readRoot_normalises, WireFormat.read_normalises⟩

end Normalising

end InventorySync
