import InventorySync.Container.Role
import InventorySync.Wire.Basic

/-!
Requests to change item stacks. A request is an ordered list of primitive
actions on slots, each named by its role and by the stack that the client
believes to be there. The server answers every request of a packet by its id.
-/

namespace InventorySync

set_option autoImplicit false

/-- A slot in an action. A negative stack id is that of a request: it stands for
the stack that the request leaves in the slot. -/
structure SlotRef where
  role : Role
  slot : UInt8
  stackId : Int32
  deriving DecidableEq, Repr, Inhabited

namespace SlotRef

def encode (reference : SlotRef) : Bytes :=
  [reference.role.number, reference.slot] ++ Wire.encodeVarInt32 reference.stackId

def read : Wire.Reader SlotRef := do
  let number ← Wire.readByte
  match Role.ofNumber? number with
  | none => throw (.unknownRole number)
  | some role =>
      let slot ← Wire.readByte
      return ⟨role, slot, ← Wire.readVarInt32⟩

end SlotRef

inductive StackAction where
  | take (count : UInt8) (source target : SlotRef)
  | place (count : UInt8) (source target : SlotRef)
  | swap (source target : SlotRef)
  | drop (count : UInt8) (source : SlotRef) (randomly : Bool)
  | destroy (count : UInt8) (source : SlotRef)
  | consume (count : UInt8) (source : SlotRef)
  | create (resultSlot : UInt8)
  | craftRecipe (recipe : UInt32)
  | craftRecipeAuto (recipe : UInt32) (times : UInt8) (ingredients : List UInt8)
  | craftCreative (entry : UInt32)
  /-- Crafts with one of the filter strings of the request, such as a new name. -/
  | craftRecipeOptional (recipe : UInt32) (filterString : Int32)
  | craftGrindstone (recipe : UInt32)
  | craftLoom (pattern : String)
  deriving DecidableEq, Repr, Inhabited

namespace StackAction

def typeNumber : StackAction → UInt8
  | .take .. => 0
  | .place .. => 1
  | .swap .. => 2
  | .drop .. => 3
  | .destroy .. => 4
  | .consume .. => 5
  | .create .. => 6
  | .craftRecipe .. => 12
  | .craftRecipeAuto .. => 13
  | .craftCreative .. => 14
  | .craftRecipeOptional .. => 15
  | .craftGrindstone .. => 16
  | .craftLoom .. => 17

def encodeFields : StackAction → Bytes
  | .take count source target | .place count source target =>
      count :: (source.encode ++ target.encode)
  | .swap source target => source.encode ++ target.encode
  | .drop count source randomly => count :: (source.encode ++ Wire.encodeBool randomly)
  | .destroy count source | .consume count source => count :: source.encode
  | .create resultSlot => [resultSlot]
  | .craftRecipe recipe | .craftGrindstone recipe => Wire.encodeVarUInt32 recipe
  | .craftRecipeAuto recipe times ingredients =>
      Wire.encodeVarUInt32 recipe ++ times :: Wire.encodeList (fun slot => [slot]) ingredients
  | .craftCreative entry => Wire.encodeVarUInt32 entry
  | .craftRecipeOptional recipe filterString =>
      Wire.encodeVarUInt32 recipe ++ Wire.encodeVarInt32 filterString
  | .craftLoom pattern => Wire.encodeString pattern

def encode (action : StackAction) : Bytes := action.typeNumber :: action.encodeFields

/-- An action of another type has an unknown length, so nothing behind it can be
read either. -/
def readFields (typeNumber : UInt8) : Wire.Reader StackAction :=
  match typeNumber with
  | 0 => return .take (← Wire.readByte) (← SlotRef.read) (← SlotRef.read)
  | 1 => return .place (← Wire.readByte) (← SlotRef.read) (← SlotRef.read)
  | 2 => return .swap (← SlotRef.read) (← SlotRef.read)
  | 3 => return .drop (← Wire.readByte) (← SlotRef.read) (← Wire.readBool)
  | 4 => return .destroy (← Wire.readByte) (← SlotRef.read)
  | 5 => return .consume (← Wire.readByte) (← SlotRef.read)
  | 6 => return .create (← Wire.readByte)
  | 12 => return .craftRecipe (← Wire.readVarUInt32)
  | 13 =>
      return .craftRecipeAuto (← Wire.readVarUInt32) (← Wire.readByte)
        (← Wire.readList Wire.readByte)
  | 14 => return .craftCreative (← Wire.readVarUInt32)
  | 15 => return .craftRecipeOptional (← Wire.readVarUInt32) (← Wire.readVarInt32)
  | 16 => return .craftGrindstone (← Wire.readVarUInt32)
  | 17 => return .craftLoom (← Wire.readString)
  | other => throw (.unknownAction other)

def read : Wire.Reader StackAction := do readFields (← Wire.readByte)

/-- The slots that an action names, the source before the target. -/
def references : StackAction → List SlotRef
  | .take _ source target | .place _ source target | .swap source target => [source, target]
  | .drop _ source _ | .destroy _ source | .consume _ source => [source]
  | .create _ | .craftRecipe _ | .craftRecipeAuto .. | .craftCreative _
  | .craftRecipeOptional .. | .craftGrindstone _ | .craftLoom _ => []

end StackAction

namespace FilterCause

/-- The cause of a request without filter strings. -/
def none : Int32 := 0

/-- The filter strings are names given in an anvil. -/
def anvilText : Int32 := 3

end FilterCause

structure StackRequest where
  id : Int32
  actions : List StackAction
  filterStrings : List String := []
  filterCause : Int32 := FilterCause.none
  deriving DecidableEq, Repr, Inhabited

namespace StackRequest

def encode (request : StackRequest) : Bytes :=
  Wire.encodeVarInt32 request.id ++ Wire.encodeList StackAction.encode request.actions ++
    Wire.encodeList Wire.encodeString request.filterStrings ++
    Wire.encodeVarInt32 request.filterCause

def read : Wire.Reader StackRequest := do
  let id ← Wire.readVarInt32
  let actions ← Wire.readList StackAction.read
  let filterStrings ← Wire.readList Wire.readString
  let filterCause ← Wire.readVarInt32
  return { id, actions, filterStrings, filterCause }

def encodePacket (requests : List StackRequest) : Bytes := Wire.encodeList encode requests

def readPacket : Wire.Reader (List StackRequest) := Wire.readList read

end StackRequest

end InventorySync
