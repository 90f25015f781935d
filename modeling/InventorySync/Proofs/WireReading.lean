import InventorySync.Proofs.Reading
import InventorySync.Wire.BlockPos

/-!
The scalars and lists of packets are read back as they were written. A number takes as
many groups as it needs, which are never more than the reader allows for its width; a list
is at least as many bytes as its count says, so the count is never refused.
-/

namespace InventorySync

set_option autoImplicit false

open Decoder

namespace Varint

theorem encode_ne_nil (number : Nat) : encode number ≠ [] := by
  unfold encode
  split
  · exact List.cons_ne_nil _ _
  · exact List.cons_ne_nil _ _

theorem zigzag_lt {half : Nat} {number : Int} (low : -half ≤ number) (high : number < half) :
    zigzag number < 2 * half := by
  cases number with
  | ofNat number =>
      rw [Int.ofNat_eq_natCast] at high
      change 2 * number < 2 * half
      omega
  | negSucc number =>
      rw [Int.negSucc_eq] at low
      change 2 * number + 1 < 2 * half
      omega

end Varint

namespace Wire

/-- The number of bytes of the text fits into four bytes. -/
def ShortText (content : String) : Prop := (utf8Bytes content).length < 2 ^ 32

instance (content : String) : Decidable (ShortText content) :=
  inferInstanceAs (Decidable ((utf8Bytes content).length < 2 ^ 32))

section Scalars

theorem readByte_reads (value : UInt8) : Reads readByte [value] value := Reads.byte value

theorem readBool_reads (value : Bool) : Reads readBool (encodeBool value) value := by
  have found := (readByte_reads (if value then 1 else 0)).map fun byte => decide (byte ≠ 0)
  have same : decide ((if value then (1 : UInt8) else 0) ≠ 0) = value := by
    cases value <;> rfl
  rw [same] at found
  exact found

theorem readUInt16_reads (value : UInt16) : Reads readUInt16 (encodeUInt16 value) value := by
  have digits : Reads (Decoder.unsigned 2 (Error.tooShort 2)) (encodeUInt16 value)
      (value.toNat % 256 ^ 2) := Reads.unsigned 2 value.toNat
  have width : value.toNat % 256 ^ 2 = value.toNat := Nat.mod_eq_of_lt value.toNat_lt
  rw [width] at digits
  have number := digits.map UInt16.ofNat
  rw [UInt16.ofNat_toNat] at number
  exact number

theorem readVarint_reads {groups number : Nat} (fits : number < 128 ^ (groups + 1)) :
    Reads (readVarint (groups + 1)) (Varint.encode number) number := by
  intro rest
  unfold readVarint
  rw [Varint.decode_encode groups number rest fits]
  rfl

theorem readVarUInt32_reads (value : UInt32) :
    Reads readVarUInt32 (encodeVarUInt32 value) value := by
  have fits : value.toNat < 128 ^ 5 := Nat.lt_trans value.toNat_lt (by decide)
  have number := (readVarint_reads fits).map UInt32.ofNat
  rw [UInt32.ofNat_toNat] at number
  exact number

theorem readVarInt32_reads (value : Int32) :
    Reads readVarInt32 (encodeVarInt32 value) value := by
  have width : Varint.zigzag value.toInt < 2 * 2 ^ 31 :=
    Varint.zigzag_lt value.le_toInt value.toInt_lt
  have fits : Varint.zigzag value.toInt < 128 ^ 5 := Nat.lt_trans width (by decide)
  have number := (readVarint_reads fits).map fun folded =>
    Int32.ofInt (Varint.unzigzag (UInt32.ofNat folded).toNat)
  rw [UInt32.toNat_ofNat_of_lt' width, Varint.unzigzag_zigzag, Int32.ofInt_toInt] at number
  exact number

theorem readVarInt64_reads (value : Int64) :
    Reads readVarInt64 (encodeVarInt64 value) value := by
  have width : Varint.zigzag value.toInt < 2 * 2 ^ 63 :=
    Varint.zigzag_lt value.le_toInt value.toInt_lt
  have fits : Varint.zigzag value.toInt < 128 ^ 10 := Nat.lt_trans width (by decide)
  have number := (readVarint_reads fits).map fun folded =>
    Int64.ofInt (Varint.unzigzag (UInt64.ofNat folded).toNat)
  rw [UInt64.toNat_ofNat_of_lt' width, Varint.unzigzag_zigzag, Int64.ofInt_toInt] at number
  exact number

theorem readString_reads {content : String} (short : ShortText content) :
    Reads readString (encodeString content) content := by
  have length := readVarUInt32_reads (UInt32.ofNat (utf8Bytes content).length)
  have kept : (UInt32.ofNat (utf8Bytes content).length).toNat = (utf8Bytes content).length :=
    UInt32.toNat_ofNat_of_lt' short
  refine length.bind ?_
  rw [kept]
  exact Reads.text content

theorem encodeVarInt32_ne_nil (value : Int32) : encodeVarInt32 value ≠ [] :=
  Varint.encode_ne_nil _

theorem encodeString_ne_nil (content : String) : encodeString content ≠ [] := by
  unfold encodeString encodeVarUInt32
  exact List.append_ne_nil_of_left_ne_nil (Varint.encode_ne_nil _) _

end Scalars

section Lists

variable {α : Type} {reader : Reader α} {encode : α → Bytes} {values : List α}

/-- The number of elements fits into four bytes, and each of them can be written. -/
structure ListSendable (Element : α → Prop) (values : List α) : Prop where
  count : values.length < 2 ^ 32
  each : ∀ value ∈ values, Element value

theorem readCounted_reads (visible : ∀ value, encode value ≠ [])
    (each : ∀ value ∈ values, Reads reader (encode value) value) :
    Reads (readCounted values.length reader) (values.flatMap encode) values := by
  intro rest
  have enough : ¬(values.flatMap encode ++ rest).length < values.length := by
    have room := length_le_flatMap fun value (_ : value ∈ values) => visible value
    rw [List.length_append]
    omega
  -- The count is checked against everything that is left, the tail included.
  have granted : Decoder.require values.length (Error.tooShort values.length)
      (values.flatMap encode ++ rest) = .ok ((), values.flatMap encode ++ rest) := by
    unfold Decoder.require
    split
    · rfl
    · next cut => exact absurd (split?_eq_none_iff.1 cut) enough
  unfold readCounted
  rw [bind_of_ok granted]
  exact Reads.replicate each rest

theorem readList_reads {Element : α → Prop} (sendable : ListSendable Element values)
    (visible : ∀ value, encode value ≠ [])
    (each : ∀ {value}, Element value → Reads reader (encode value) value) :
    Reads (readList reader) (encodeList encode values) values := by
  have kept : (UInt32.ofNat values.length).toNat = values.length :=
    UInt32.toNat_ofNat_of_lt' sendable.count
  refine (readVarUInt32_reads (UInt32.ofNat values.length)).bind ?_
  rw [kept]
  exact readCounted_reads visible fun value member => each (sendable.each value member)

end Lists

end Wire

end InventorySync
