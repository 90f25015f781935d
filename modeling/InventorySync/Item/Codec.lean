import InventorySync.Item.Basic
import InventorySync.Wire.Basic

/-!
The written form of an item stack. Air is its type alone. Anything else has all
its fields, with user data as one nameless compound behind a marker and a
version.
-/

namespace InventorySync.Item

set_option autoImplicit false

/-- Stands where the length of user data of the oldest form would stand. -/
def userDataMarker : UInt32 := 0xFFFFFFFF

def userDataVersion : UInt8 := 1

def encodeUserData : Option Nbt.Compound → Bytes
  | some compound =>
      Wire.encodeVarUInt32 userDataMarker ++ userDataVersion :: Nbt.Root.encode ⟨"", compound⟩
  | none => Wire.encodeVarUInt32 0

/-- Names of blocks stand behind their signed number. -/
def encodeNames (names : List String) : Bytes :=
  Wire.encodeVarInt32 (Int32.ofNat names.length) ++ names.flatMap Wire.encodeString

def encodeStackId (stackId : Int32) : Bytes :=
  if stackId = 0 then Wire.encodeBool false
  else Wire.encodeBool true ++ Wire.encodeVarInt32 stackId

def encode (item : Item) : Bytes :=
  if item.typeId = 0 then
    Wire.encodeVarInt32 0
  else
    Wire.encodeVarInt32 item.typeId ++ Wire.encodeUInt16 item.count ++
      Wire.encodeVarUInt32 item.metadata.toUInt32 ++ encodeStackId item.stackId ++
      Wire.encodeVarInt32 item.blockTypeId ++ encodeUserData item.userData ++
      encodeNames item.canPlaceOn ++ encodeNames item.canDestroy

def readStackId : Wire.Reader Int32 := do
  if ← Wire.readBool then Wire.readVarInt32 else return 0

/-- User data without the marker is of a form that is passed over. -/
def readUserData : Wire.Reader (Option Nbt.Compound) := do
  let marker ← Wire.readVarUInt32
  if marker = userDataMarker then
    let version ← Wire.readByte
    if version ≠ userDataVersion then throw (.userDataVersion version)
    let root ← Decoder.mapError .userData Nbt.readRoot
    return some root.compound
  else
    let _ ← Decoder.take marker.toNat (.tooShort marker.toNat)
    return none

def readNames : Wire.Reader (List String) := do
  let count ← Wire.readVarInt32
  if count < 0 then throw (.negativeCount count)
  Wire.readCounted count.toInt.toNat Wire.readString

/-- Metadata is cut to two bytes. -/
def read : Wire.Reader Item := do
  let typeId ← Wire.readVarInt32
  if typeId = 0 then
    return empty
  else
    let count ← Wire.readUInt16
    let metadata ← Wire.readVarUInt32
    let stackId ← readStackId
    let blockTypeId ← Wire.readVarInt32
    let userData ← readUserData
    let canPlaceOn ← readNames
    let canDestroy ← readNames
    return { typeId, count, metadata := metadata.toUInt16, blockTypeId, userData, canPlaceOn,
             canDestroy, stackId }

end InventorySync.Item
