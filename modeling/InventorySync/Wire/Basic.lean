import InventorySync.Bytes.Decoder
import InventorySync.Bytes.Varint
import InventorySync.Nbt.Codec

/-!
The scalars that packets are made of, with the errors of everything that is read
from a packet.
-/

namespace InventorySync.Wire

set_option autoImplicit false

inductive Error where
  | tooShort (needed remaining : Nat)
  | varint (cause : Varint.Error)
  | invalidUtf8
  | unknownPacket (id : UInt32)
  | unknownAction (typeNumber : UInt8)
  | userData (cause : Nbt.Error)
  | userDataVersion (version : UInt8)
  | negativeCount (count : Int32)
  | unknownRole (number : UInt8)
  deriving DecidableEq, Repr

/-- Upper-case digits to base sixteen, at least two of them. -/
def hexNumber (number : Nat) : String :=
  let digits := ((Nat.toDigits 16 number).map Char.toUpper)
  String.ofList (List.replicate (2 - digits.length) '0' ++ digits)

def Error.message : Error → String
  | .tooShort needed remaining => s!"buffer too short: need {needed} more bytes, have {remaining}"
  | .varint cause => s!"VarInt encoding error: {cause.message}"
  | .invalidUtf8 => "invalid UTF-8 string"
  | .unknownPacket id => s!"unknown packet id: 0x{hexNumber id.toNat}"
  | .unknownAction typeNumber => s!"unknown stack action type: {typeNumber.toNat}"
  | .userData cause => s!"item user data: {cause.message}"
  | .userDataVersion version =>
      s!"invalid data: unsupported item user data version {version.toNat}"
  | .negativeCount count => s!"invalid data: negative list length {count.toInt}"
  | .unknownRole number => s!"invalid data: unknown container id {number.toNat}"

/-- Whether the error says no more than that the bytes ended too early. -/
def Error.isTruncation : Error → Bool
  | .tooShort _ _ => true
  | .varint .endOfInput => true
  | .userData .unexpectedEnd => true
  | _ => false

abbrev Reader := Decoder Error

def readByte : Reader UInt8 := Decoder.byte (.tooShort 1)

/-- Any byte but zero is true. -/
def readBool : Reader Bool := return (← readByte) ≠ 0

def encodeBool (value : Bool) : Bytes := [if value then 1 else 0]

def readUInt16 : Reader UInt16 := return UInt16.ofNat (← Decoder.unsigned 2 (.tooShort 2))

def encodeUInt16 (value : UInt16) : Bytes := littleEndianBytes 2 value.toNat

/-- A number in at most `limit` groups of seven bits. -/
def readVarint (limit : Nat) : Reader Nat := fun input =>
  (Varint.decode limit input).mapError .varint

def readVarUInt32 : Reader UInt32 := return UInt32.ofNat (← readVarint 5)

def encodeVarUInt32 (value : UInt32) : Bytes := Varint.encode value.toNat

/-- The groups are cut to the width before the sign is unfolded. -/
def readVarInt32 : Reader Int32 := do
  return Int32.ofInt (Varint.unzigzag (UInt32.ofNat (← readVarint 5)).toNat)

def encodeVarInt32 (value : Int32) : Bytes := Varint.encode (Varint.zigzag value.toInt)

def readVarInt64 : Reader Int64 := do
  return Int64.ofInt (Varint.unzigzag (UInt64.ofNat (← readVarint 10)).toNat)

def encodeVarInt64 (value : Int64) : Bytes := Varint.encode (Varint.zigzag value.toInt)

/-- A string stands behind the number of its bytes. -/
def encodeString (value : String) : Bytes :=
  let content := utf8Bytes value
  encodeVarUInt32 (UInt32.ofNat content.length) ++ content

def readString : Reader String := do
  let length := (← readVarUInt32).toNat
  Decoder.text length (.tooShort length) .invalidUtf8

section Lists

variable {α : Type}

/-- A list stands behind the number of its elements. -/
def encodeList (encode : α → Bytes) (elements : List α) : Bytes :=
  encodeVarUInt32 (UInt32.ofNat elements.length) ++ elements.flatMap encode

/-- Reads `count` elements. Each takes at least one byte, so a count beyond the
bytes that are left is refused before any element is read. -/
def readCounted (count : Nat) (reader : Reader α) : Reader (List α) := do
  Decoder.require count (.tooShort count)
  Decoder.replicate reader count

def readList (reader : Reader α) : Reader (List α) := do
  readCounted (← readVarUInt32).toNat reader

end Lists

end InventorySync.Wire
