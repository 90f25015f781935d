import InventorySync.Bytes.Decoder
import InventorySync.Nbt.Tag

/-!
The little-endian written form of named binary tags. Integers take their width,
lengths of arrays and lists are signed and take four bytes, and a string is
preceded by its length in two bytes.
-/

namespace InventorySync.Nbt

set_option autoImplicit false

inductive Error where
  | unexpectedEnd
  | expectedCompound (typeNumber : UInt8)
  | unknownTagType (typeNumber : UInt8)
  | invalidUtf8
  | nestingTooDeep
  | negativeLength (length : Int32)
  deriving DecidableEq, Repr

/-- The level of the innermost tags that are still read. The entries of the root
are at level zero. -/
def deepestLevel : Nat := 512

def Error.message : Error → String
  | .unexpectedEnd => "unexpected end of data"
  | .expectedCompound typeNumber =>
      s!"expected TAG_Compound (10) at root, got {typeNumber.toNat}"
  | .unknownTagType typeNumber => s!"unknown tag type: {typeNumber.toNat}"
  | .invalidUtf8 => "invalid UTF-8 in NBT string"
  | .nestingTooDeep => s!"nesting too deep (limit: {deepestLevel})"
  | .negativeLength length => s!"negative length: {length.toInt}"

def endTypeNumber : UInt8 := 0

def compoundTypeNumber : UInt8 := 10

section Writing

/-- The length is cut to two bytes, the text is not. -/
def encodeString (value : String) : Bytes :=
  let content := utf8Bytes value
  littleEndianBytes 2 content.length ++ content

def encodeLength (length : Nat) : Bytes := littleEndianBytes 4 length

def encodeInt32 (value : Int32) : Bytes := littleEndianBytes 4 value.toUInt32.toNat

def encodeInt64 (value : Int64) : Bytes := littleEndianBytes 8 value.toUInt64.toNat

mutual

/-- A list announces the type of its first element for all of them, and the end
type if it is empty. -/
def Tag.encode : Tag → Bytes
  | .byte value => [value.toUInt8]
  | .short value => littleEndianBytes 2 value.toUInt16.toNat
  | .int value => encodeInt32 value
  | .long value => encodeInt64 value
  | .float bits => littleEndianBytes 4 bits.toNat
  | .double bits => littleEndianBytes 8 bits.toNat
  | .byteArray values => encodeLength values.length ++ values.map Int8.toUInt8
  | .string value => encodeString value
  | .list elements =>
      (elements.head?.map Tag.typeNumber).getD endTypeNumber ::
        (encodeLength elements.length ++ encodeElements elements)
  | .compound entries => encodeEntries entries
  | .intArray values => encodeLength values.length ++ values.flatMap encodeInt32
  | .longArray values => encodeLength values.length ++ values.flatMap encodeInt64

def encodeElements : List Tag → Bytes
  | [] => []
  | first :: others => first.encode ++ encodeElements others

def encodeEntries : List (String × Tag) → Bytes
  | [] => [endTypeNumber]
  | (name, tag) :: others =>
      tag.typeNumber :: (encodeString name ++ tag.encode ++ encodeEntries others)

end

def Root.encode (root : Root) : Bytes :=
  compoundTypeNumber :: (encodeString root.name ++ encodeEntries root.compound)

end Writing

section Reading

abbrev Reader := Decoder Error

def readByte : Reader UInt8 := Decoder.byte fun _ => .unexpectedEnd

def readUnsigned (width : Nat) : Reader Nat := Decoder.unsigned width fun _ => .unexpectedEnd

def readInt8 : Reader Int8 := return (← readByte).toInt8

def readInt32 : Reader Int32 := return (UInt32.ofNat (← readUnsigned 4)).toInt32

def readInt64 : Reader Int64 := return (UInt64.ofNat (← readUnsigned 8)).toInt64

def readString : Reader String := do
  let length ← readUnsigned 2
  Decoder.text length (fun _ => .unexpectedEnd) .invalidUtf8

def readLength : Reader Nat := do
  let length ← readInt32
  if length < 0 then throw (.negativeLength length)
  return length.toInt.toNat

/-- Reads a counted row of numbers. -/
def readArray {α : Type} (reader : Reader α) : Reader (List α) := do
  Decoder.replicate reader (← readLength)

/-- Reads one entry of a compound, or its end. -/
def readEntry (readTag : UInt8 → Reader Tag) : Reader (Option (String × Tag)) := do
  let typeNumber ← readByte
  if typeNumber = endTypeNumber then
    return none
  else
    let name ← readString
    return some (name, ← readTag typeNumber)

/-- Reads the entries of a compound. If a name occurs again, the later entry counts. -/
def readEntries (readTag : UInt8 → Reader Tag) : Reader Compound :=
  return Compound.ofEntries (← Decoder.repeatUntilNone (readEntry readTag) .unexpectedEnd)

/-- Reads a tag of a given type. `levels` counts the levels that are left for it
and for the tags inside it. A compound needs the level below it even if it has
no entry, a list only if it has an element. -/
def readTag : Nat → UInt8 → Reader Tag
  | 0, _ => throw .nestingTooDeep
  | levels + 1, typeNumber =>
      match typeNumber with
      | 1 => return .byte (← readInt8)
      | 2 => return .short (UInt16.ofNat (← readUnsigned 2)).toInt16
      | 3 => return .int (← readInt32)
      | 4 => return .long (← readInt64)
      | 5 => return .float (UInt32.ofNat (← readUnsigned 4))
      | 6 => return .double (UInt64.ofNat (← readUnsigned 8))
      | 7 => return .byteArray (← readArray readInt8)
      | 8 => return .string (← readString)
      | 9 => do
          let elementType ← readByte
          return .list (← readArray (readTag levels elementType))
      | 10 =>
          if levels = 0 then throw .nestingTooDeep
          else return .compound (← readEntries (readTag levels))
      | 11 => return .intArray (← readArray readInt32)
      | 12 => return .longArray (← readArray readInt64)
      | other => throw (.unknownTagType other)

def readRoot : Reader Root := do
  let typeNumber ← readByte
  if typeNumber ≠ compoundTypeNumber then throw (.expectedCompound typeNumber)
  let name ← readString
  return ⟨name, ← readEntries (readTag (deepestLevel + 1))⟩

end Reading

end InventorySync.Nbt
