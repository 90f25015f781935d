import InventorySync.Proofs.ReadingCost
import Mathlib.Data.Nat.Digits.Defs

/-!
Numbers of a fixed width, group by group. A number ends at the first byte without the high bit.
Its value is that of the groups up to there, as digits to base 128, cut to the width. The same
comes out of a register of sixty-four bits into which the groups are shifted one above the other,
as what is shifted out of it would be cut off anyway. Signs are folded in and out by shifts of
the word, which say for words what the library says for integers.
-/

namespace InventorySync

set_option autoImplicit false

open Decoder

namespace Varint

section Signs

variable {width : Nat}

/-- The word with its sign as the lowest bit. -/
def foldSign (bits : BitVec width) : BitVec width :=
  bits <<< 1 ^^^ bits.sshiftRight (width - 1)

def unfoldSign (bits : BitVec width) : BitVec width :=
  bits >>> 1 ^^^ -(bits &&& .ofNat width 1)

/-- Nothing but the sign is left of a word that is shifted as far as it goes. -/
theorem sshiftRight_sign (bits : BitVec width) :
    bits.sshiftRight (width - 1) = if bits.msb then .allOnes width else .ofNat width 0 := by
  apply BitVec.eq_of_getLsbD_eq
  intro index inside
  rw [BitVec.getLsbD_sshiftRight]
  by_cases lowest : index = 0
  · have last : bits.getLsbD (width - 1 + index) = bits.msb := by
      rw [lowest, Nat.add_zero, BitVec.msb_eq_getLsbD_last]
    rw [if_pos (by omega), last]
    cases bits.msb <;> simp [inside]
  · rw [if_neg (by omega)]
    cases bits.msb <;> simp [inside]

theorem toNat_foldSign (bits : BitVec width) : (foldSign bits).toNat = zigzag bits.toInt := by
  have bound := bits.isLt
  unfold foldSign
  rw [sshiftRight_sign]
  cases sign : bits.msb with
  | false =>
      have small : 2 * bits.toNat < 2 ^ width := BitVec.msb_eq_false_iff_two_mul_lt.1 sign
      have own : bits.toInt = Int.ofNat bits.toNat := BitVec.toInt_eq_toNat_of_lt small
      have doubled : (bits <<< 1).toNat = 2 * bits.toNat := by
        rw [BitVec.toNat_shiftLeft, Nat.shiftLeft_eq, Nat.mod_eq_of_lt (by omega)]
        omega
      simp [own, zigzag, doubled]
  | true =>
      have large : 2 ^ width ≤ 2 * bits.toNat := BitVec.msb_eq_true_iff_two_mul_ge.1 sign
      have own : bits.toInt = Int.negSucc (2 ^ width - 1 - bits.toNat) := by
        rw [BitVec.toInt_eq_toNat_cond, if_neg (Nat.not_lt.2 large), Int.negSucc_eq]
        omega
      have doubled : (bits <<< 1).toNat = 2 * bits.toNat - 2 ^ width := by
        rw [BitVec.toNat_shiftLeft, Nat.shiftLeft_eq, Nat.mod_eq_sub_mod (by omega),
          Nat.mod_eq_of_lt (by omega)]
        omega
      rw [own, zigzag, if_pos rfl, BitVec.xor_allOnes, BitVec.toNat_not, doubled]
      omega

theorem and_one_eq (bits : BitVec width) :
    bits &&& .ofNat width 1 = .ofNat width (bits.toNat % 2) := by
  cases width with
  | zero => exact Subsingleton.elim _ _
  | succ width =>
      have fits : bits.toNat % 2 < 2 ^ (width + 1) := by
        rw [Nat.pow_succ]
        have least := Nat.two_pow_pos width
        omega
      apply BitVec.eq_of_toNat_eq
      rw [BitVec.toNat_and, BitVec.toNat_one (Nat.zero_lt_succ width), Nat.and_one_is_mod,
        BitVec.toNat_ofNat, Nat.mod_eq_of_lt fits]

theorem toInt_unfoldSign (bits : BitVec width) :
    (unfoldSign bits).toInt = unzigzag bits.toNat := by
  have bound := bits.isLt
  have half : (bits >>> 1).toNat = bits.toNat / 2 := by
    rw [BitVec.toNat_ushiftRight, Nat.shiftRight_one]
  unfold unfoldSign unzigzag
  rw [and_one_eq]
  split
  · next even =>
      have small : 2 * (bits >>> 1).toNat < 2 ^ width := by omega
      simp [even, BitVec.toInt_eq_toNat_of_lt small, half]
  · next odd =>
      have top : (~~~(bits >>> 1)).toNat = 2 ^ width - 1 - bits.toNat / 2 := by
        rw [BitVec.toNat_not, half]
      have large : ¬2 * (~~~(bits >>> 1)).toNat < 2 ^ width := by omega
      have one : bits.toNat % 2 = 1 := by omega
      rw [one, BitVec.neg_one_eq_allOnes, BitVec.xor_allOnes, BitVec.toInt_eq_toNat_cond,
        if_neg large, top, Int.negSucc_eq]
      omega

theorem unfoldSign_foldSign (bits : BitVec width) : unfoldSign (foldSign bits) = bits := by
  apply BitVec.eq_of_toInt_eq
  rw [toInt_unfoldSign, toNat_foldSign, unzigzag_zigzag]

theorem foldSign_unfoldSign (bits : BitVec width) : foldSign (unfoldSign bits) = bits := by
  apply BitVec.eq_of_toNat_eq
  rw [toNat_foldSign, toInt_unfoldSign, zigzag_unzigzag]

end Signs

section Registers

theorem and_not_eq_zero_iff {word mask : UInt64} :
    word &&& ~~~mask = 0 ↔ word &&& mask = word := by
  constructor
  · intro none
    apply UInt64.toBitVec_inj.1
    apply BitVec.eq_of_getLsbD_eq
    intro index inside
    have bit := congrArg (fun found => found.toBitVec.getLsbD index) none
    simpa [inside] using bit
  · intro kept
    rw [← kept, UInt64.and_assoc, UInt64.and_not_self, UInt64.and_zero]

theorem toNat_and_lowest (word : UInt64) : (word &&& 0x7F).toNat = word.toNat % 128 := by
  rw [UInt64.toNat_and]
  exact Nat.and_two_pow_sub_one_eq_mod _ 7

theorem fits_lowest_iff (word : UInt64) : word &&& ~~~0x7F = 0 ↔ word.toNat < 128 := by
  rw [and_not_eq_zero_iff, ← UInt64.toNat_inj, toNat_and_lowest]
  omega

/-- Takes groups off a register until the lowest is all that is left. -/
def writeRegister (register : UInt64) : Bytes :=
  if register &&& ~~~0x7F = 0 then [register.toUInt8]
  else (register &&& 0x7F ||| 0x80).toUInt8 :: writeRegister (register >>> 7)
termination_by register.toNat
decreasing_by
  next more =>
    have large := mt (fits_lowest_iff register).2 more
    rw [UInt64.toNat_shiftRight]
    change register.toNat >>> 7 < register.toNat
    rw [Nat.shiftRight_eq_div_pow]
    omega

theorem writeRegister_eq (register : UInt64) :
    writeRegister register = encode register.toNat := by
  induction number : register.toNat using Nat.strongRecOn generalizing register with
  | ind number induction =>
      subst number
      rw [writeRegister, encode]
      by_cases low : register.toNat < 128
      · rw [if_pos ((fits_lowest_iff register).2 low), if_pos low]
        rfl
      · have shifted : (register >>> 7).toNat = register.toNat / 128 := by
          rw [UInt64.toNat_shiftRight]
          exact Nat.shiftRight_eq_div_pow _ 7
        have joined : 128 + register.toNat % 128 = 128 ||| register.toNat % 128 :=
          Nat.two_pow_add_eq_or_of_lt (Nat.mod_lt register.toNat (by decide : 0 < 2 ^ 7)) 1
        have marked : (register &&& 0x7F ||| 0x80).toUInt8 =
            UInt8.ofNat (register.toNat % 128 + 128) := by
          apply UInt8.toNat_inj.1
          rw [UInt64.toNat_toUInt8, UInt64.toNat_or, toNat_and_lowest, Nat.or_comm]
          change (128 ||| register.toNat % 128) % 2 ^ 8 = _
          rw [← joined, UInt8.toNat_ofNat', Nat.add_comm]
        rw [if_neg (mt (fits_lowest_iff register).1 low), if_neg low, marked,
          induction _ (by omega) (register >>> 7) shifted]

/-- The register with the group of one round above those of the rounds before. -/
def fill (register : UInt64) (round : Nat) (byte : UInt8) : UInt64 :=
  register ||| (byte &&& 0x7F).toUInt64 <<< UInt64.ofNat (7 * round)

/-- Fills a register with the groups of the rounds that are left. -/
def readRegister (limit : Nat) : Nat → Nat → UInt64 → Bytes → Except Error (UInt64 × Bytes)
  | 0, _, _, _ => .error (.tooLong limit)
  | _ + 1, _, _, [] => .error .endOfInput
  | rounds + 1, round, register, byte :: rest =>
      if byte &&& 0x80 = 0 then .ok (fill register round byte, rest)
      else readRegister limit rounds (round + 1) (fill register round byte) rest

theorem highBit_clear_iff (byte : UInt8) : byte &&& 0x80 = 0 ↔ byte < 128 := by
  have each : ∀ number : Fin 256, number.val &&& 128 = 0 ↔ number.val < 128 := by
    decide +kernel
  rw [← UInt8.toNat_inj, UInt8.lt_iff_toNat_lt, UInt8.toNat_and]
  exact each ⟨byte.toNat, byte.toNat_lt⟩

section Rounds

variable {register : UInt64} {round : Nat} (byte : UInt8)

/-- A group above what is in the register is added to it, as far as there are bits. -/
theorem toNat_fill (room : register.toNat < 2 ^ (7 * round)) (inside : round < 10) :
    (fill register round byte).toNat =
      (register.toNat + 2 ^ (7 * round) * (byte.toNat % 128)) % 2 ^ 64 := by
  have group : (byte &&& 0x7F).toNat = byte.toNat % 128 := by
    rw [UInt8.toNat_and]
    exact Nat.and_two_pow_sub_one_eq_mod _ 7
  have place : (UInt64.ofNat (7 * round)).toNat % 64 = 7 * round := by
    rw [UInt64.toNat_ofNat']
    omega
  have whole : register.toNat % 2 ^ 64 = register.toNat := Nat.mod_eq_of_lt register.toNat_lt
  unfold fill
  rw [UInt64.toNat_or, UInt64.toNat_shiftLeft, UInt8.toNat_toUInt64, group, place, ← whole,
    ← Nat.or_mod_two_pow, whole, Nat.shiftLeft_eq, Nat.mul_comm, Nat.or_comm,
    ← Nat.two_pow_add_eq_or_of_lt room, Nat.add_comm]

theorem pow_next_round (round : Nat) : 2 ^ (7 * (round + 1)) = 2 ^ (7 * round) * 128 := by
  rw [Nat.mul_succ, Nat.pow_add]

theorem toNat_fill_lt (room : register.toNat < 2 ^ (7 * round)) (inside : round < 10) :
    (fill register round byte).toNat < 2 ^ (7 * (round + 1)) := by
  have group : byte.toNat % 128 ≤ 127 := by omega
  have most := Nat.mul_le_mul_left (2 ^ (7 * round)) group
  rw [toNat_fill byte room inside, pow_next_round]
  apply Nat.lt_of_le_of_lt (Nat.mod_le _ _)
  omega

/-- What is added above a filled register might as well be added before it is filled. -/
theorem ofNat_fill_add (high : Nat) (room : register.toNat < 2 ^ (7 * round))
    (inside : round < 10) :
    UInt64.ofNat ((fill register round byte).toNat + 2 ^ (7 * (round + 1)) * high) =
      UInt64.ofNat (register.toNat + 2 ^ (7 * round) * (byte.toNat % 128 + 128 * high)) := by
  apply UInt64.toNat_inj.1
  rw [UInt64.toNat_ofNat', UInt64.toNat_ofNat', toNat_fill byte room inside, Nat.mod_add_mod,
    pow_next_round, Nat.mul_add, Nat.mul_assoc, Nat.add_assoc]

end Rounds

/-- The register holds the exact number, but for the bits that do not fit. -/
theorem readRegister_eq (limit rounds round : Nat) {register : UInt64} (input : Bytes)
    (room : register.toNat < 2 ^ (7 * round)) (inside : round + rounds ≤ 10) :
    readRegister limit rounds round register input =
      (decodeWithin limit rounds input).map fun (number, rest) =>
        (UInt64.ofNat (register.toNat + 2 ^ (7 * round) * number), rest) := by
  induction rounds generalizing round register input with
  | zero => rfl
  | succ rounds induction =>
      cases input with
      | nil => rfl
      | cons byte rest =>
          have early : round < 10 := by omega
          rw [readRegister, decodeWithin]
          by_cases low : byte < 128
          · have own : byte.toNat % 128 = byte.toNat :=
              Nat.mod_eq_of_lt (UInt8.lt_iff_toNat_lt.1 low)
            have last : fill register round byte =
                UInt64.ofNat (register.toNat + 2 ^ (7 * round) * byte.toNat) := by
              apply UInt64.toNat_inj.1
              rw [toNat_fill byte room early, own, UInt64.toNat_ofNat']
            rw [if_pos ((highBit_clear_iff byte).2 low), if_pos low, last]
            rfl
          · rw [if_neg (mt (highBit_clear_iff byte).1 low), if_neg low,
              induction (round + 1) rest (toNat_fill_lt byte room early) (by omega)]
            cases decodeWithin limit rounds rest with
            | error failure => rfl
            | ok answer =>
                obtain ⟨high, left⟩ := answer
                exact congrArg (fun number => Except.ok (number, left))
                  (ofNat_fill_add byte high room early)

end Registers

section Groups

/-- Which byte ends a number: the first without the high bit, among the first `limit`. -/
def lastGroup? (limit : Nat) (input : Bytes) : Option Nat :=
  (input.take limit).findIdx? (· < 128)

/-- What some groups hold, as digits to base 128. -/
def groupsValue (groups : Bytes) : Nat :=
  Nat.ofDigits 128 (groups.map fun byte => byte.toNat % 128)

theorem lastGroup?_cons (limit : Nat) (byte : UInt8) (rest : Bytes) :
    lastGroup? (limit + 1) (byte :: rest) =
      if byte < 128 then some 0 else (lastGroup? limit rest).map (· + 1) := by
  unfold lastGroup?
  rw [List.take_succ_cons, List.findIdx?_cons]
  simp

theorem groupsValue_cons (byte : UInt8) (others : Bytes) :
    groupsValue (byte :: others) = byte.toNat % 128 + 128 * groupsValue others :=
  Nat.ofDigits_cons

theorem decodeWithin_eq (limit groups : Nat) (input : Bytes) :
    decodeWithin limit groups input =
      match lastGroup? groups input with
      | some last => .ok (groupsValue (input.take (last + 1)), input.drop (last + 1))
      | none => .error (if groups ≤ input.length then .tooLong limit else .endOfInput) := by
  induction groups generalizing input with
  | zero => simp [decodeWithin, lastGroup?]
  | succ groups induction =>
      cases input with
      | nil => simp [decodeWithin, lastGroup?]
      | cons byte rest =>
          rw [decodeWithin, lastGroup?_cons]
          by_cases low : byte < 128
          · have own : byte.toNat % 128 = byte.toNat :=
              Nat.mod_eq_of_lt (UInt8.lt_iff_toNat_lt.1 low)
            simp [low, groupsValue, own]
          · rw [if_neg low, if_neg low, induction]
            cases lastGroup? groups rest with
            | none => simp
            | some last => simp [groupsValue_cons]

end Groups

end Varint

namespace Wire

/-- A form for numbers of some bits, in at most so many groups. -/
structure NumberFormat (α : Type) where
  limit : Nat
  width : Nat
  reader : Reader α
  encode : α → Bytes
  ofBits : BitVec width → α
  toBits : α → BitVec width

namespace NumberFormat

def varUInt32 : NumberFormat UInt32 where
  limit := 5
  width := 32
  reader := readVarUInt32
  encode := encodeVarUInt32
  ofBits := .ofBitVec
  toBits := UInt32.toBitVec

/-- A form for numbers with a sign, which is folded into their bits. -/
def signed {α : Type} (limit : Nat) {width : Nat} (reader : Reader α) (encode : α → Bytes)
    (ofBits : BitVec width → α) (toBits : α → BitVec width) : NumberFormat α where
  limit := limit
  width := width
  reader := reader
  encode := encode
  ofBits bits := ofBits (Varint.unfoldSign bits)
  toBits value := Varint.foldSign (toBits value)

def varInt32 : NumberFormat Int32 :=
  signed 5 readVarInt32 encodeVarInt32 .ofBitVec Int32.toBitVec

def varInt64 : NumberFormat Int64 :=
  signed 10 readVarInt64 encodeVarInt64 .ofBitVec Int64.toBitVec

variable {α : Type} {format : NumberFormat α}

/-- What is read and written in a form, bit by bit. -/
structure Exact (format : NumberFormat α) : Prop where
  /-- A number ends at the first byte without the high bit, and is cut to its width. -/
  stops : ∀ input, format.reader input =
    match Varint.lastGroup? format.limit input with
    | some last =>
        .ok (format.ofBits (.ofNat format.width (Varint.groupsValue (input.take (last + 1)))),
          input.drop (last + 1))
    | none =>
        .error (.varint
          (if format.limit ≤ input.length then .tooLong format.limit else .endOfInput))
  /-- A register of sixty-four bits is enough to read a number, and to write it. -/
  shiftsIn : ∀ input, format.reader input =
    match Varint.readRegister format.limit format.limit 0 0 input with
    | .ok (register, rest) =>
        .ok (format.ofBits (register.toBitVec.setWidth format.width), rest)
    | .error failure => .error (.varint failure)
  shiftsOut : ∀ value, format.encode value =
    Varint.writeRegister (.ofBitVec ((format.toBits value).setWidth 64))
  ofBits_toBits : ∀ value, format.ofBits (format.toBits value) = value
  toBits_ofBits : ∀ bits, format.toBits (format.ofBits bits) = bits
  /-- What was written is read back, and nothing behind it is touched. -/
  restores : ∀ value rest, format.reader (format.encode value ++ rest) = .ok (value, rest)
  /-- No number is read from fewer bytes than it is written in. -/
  shortest : ∀ {input rest value}, format.reader input = .ok (value, rest) →
    (format.encode value).length + rest.length ≤ input.length

theorem reader_eq
    (reads : format.reader =
      do return format.ofBits (.ofNat format.width (← readVarint format.limit)))
    (input : Bytes) :
    format.reader input =
      match Varint.decodeWithin format.limit format.limit input with
      | .ok (number, rest) => .ok (format.ofBits (.ofNat format.width number), rest)
      | .error failure => .error (.varint failure) := by
  rw [reads]
  cases found : Varint.decodeWithin format.limit format.limit input with
  | error failure =>
      have fails : readVarint format.limit input = .error (.varint failure) := by
        unfold readVarint Varint.decode
        rw [found]
        rfl
      exact bind_of_error fails
  | ok answer =>
      obtain ⟨number, rest⟩ := answer
      have succeeds : readVarint format.limit input = .ok (number, rest) := by
        unfold readVarint Varint.decode
        rw [found]
        rfl
      exact bind_of_ok succeeds

/-- A form that is cut out of an exact number and written as one. -/
theorem Exact.of_bits (narrow : format.width ≤ 64) (few : format.limit ≤ 10)
    (reads : format.reader =
      do return format.ofBits (.ofNat format.width (← readVarint format.limit)))
    (writes : ∀ value, format.encode value = Varint.encode (format.toBits value).toNat)
    (ofBits_toBits : ∀ value, format.ofBits (format.toBits value) = value)
    (toBits_ofBits : ∀ bits, format.toBits (format.ofBits bits) = bits)
    (restores : ∀ value, Reads format.reader (format.encode value) value)
    (answers : Answers format.reader fun value size => (format.encode value).length ≤ size) :
    format.Exact where
  stops input := by
    rw [reader_eq reads, Varint.decodeWithin_eq]
    cases Varint.lastGroup? format.limit input <;> rfl
  shiftsIn input := by
    have empty : (0 : UInt64).toNat < 2 ^ (7 * 0) := by decide
    rw [reader_eq reads, Varint.readRegister_eq format.limit format.limit 0 input empty (by omega)]
    cases Varint.decodeWithin format.limit format.limit input with
    | error failure => rfl
    | ok answer =>
        have cut : (UInt64.ofNat (0 + 2 ^ (7 * 0) * answer.1)).toBitVec.setWidth format.width =
            BitVec.ofNat format.width answer.1 := by
          simp only [Nat.mul_zero, Nat.pow_zero, Nat.one_mul, Nat.zero_add]
          exact BitVec.setWidth_ofNat_of_le narrow answer.1
        exact congrArg (fun bits => Except.ok (format.ofBits bits, answer.2)) cut.symm
  shiftsOut value := by
    have kept : (UInt64.ofBitVec ((format.toBits value).setWidth 64)).toNat =
        (format.toBits value).toNat := by
      change ((format.toBits value).setWidth 64).toNat = _
      rw [BitVec.toNat_setWidth]
      exact Nat.mod_eq_of_lt (BitVec.toNat_lt_twoPow_of_le narrow)
    rw [writes, Varint.writeRegister_eq, kept]
  ofBits_toBits := ofBits_toBits
  toBits_ofBits := toBits_ofBits
  restores value rest := restores value rest
  shortest := by
    intro input rest value succeeds
    obtain ⟨size, taken, room⟩ := answers succeeds
    omega

theorem varUInt32_exact : varUInt32.Exact := by
  apply Exact.of_bits
  · decide
  · decide
  · rfl
  · exact fun _ => rfl
  · exact fun _ => rfl
  · exact fun _ => rfl
  · exact readVarUInt32_reads
  · exact readVarUInt32_answers

/-- A form that folds the sign of integers as the library does. -/
theorem Exact.of_signed {limit width : Nat} {reader : Reader α} {encode : α → Bytes}
    {ofBits : BitVec width → α} {toBits : α → BitVec width} (ofInt : Int → α)
    (narrow : width ≤ 64) (few : limit ≤ 10)
    (reads : reader =
      do return ofInt (Varint.unzigzag (BitVec.ofNat width (← readVarint limit)).toNat))
    (writes : ∀ value, encode value = Varint.encode (Varint.zigzag (toBits value).toInt))
    (ofInt_toInt : ∀ bits : BitVec width, ofInt bits.toInt = ofBits bits)
    (ofBits_toBits : ∀ value, ofBits (toBits value) = value)
    (toBits_ofBits : ∀ bits, toBits (ofBits bits) = bits)
    (restores : ∀ value, Reads reader (encode value) value)
    (answers : Answers reader fun value size => (encode value).length ≤ size) :
    (signed limit reader encode ofBits toBits).Exact := by
  refine Exact.of_bits narrow few ?_ ?_ ?_ ?_ restores answers
  · have cut (number : Nat) : ofInt (Varint.unzigzag (BitVec.ofNat width number).toNat) =
        ofBits (Varint.unfoldSign (.ofNat width number)) := by
      rw [← Varint.toInt_unfoldSign, ofInt_toInt]
    exact reads.trans
      (congrArg (fun change : Nat → α => do return change (← readVarint limit)) (funext cut))
  · intro value
    change encode value = Varint.encode (Varint.foldSign (toBits value)).toNat
    rw [writes, Varint.toNat_foldSign]
  · intro value
    change ofBits (Varint.unfoldSign (Varint.foldSign (toBits value))) = value
    rw [Varint.unfoldSign_foldSign, ofBits_toBits]
  · intro (bits : BitVec width)
    change Varint.foldSign (toBits (ofBits (Varint.unfoldSign bits))) = bits
    rw [toBits_ofBits, Varint.foldSign_unfoldSign]

theorem varInt32_exact : varInt32.Exact := by
  apply Exact.of_signed Int32.ofInt
  · decide
  · decide
  · rfl
  · exact fun _ => rfl
  · exact Int32.ofInt_bitVecToInt
  · exact fun _ => rfl
  · exact fun _ => rfl
  · exact readVarInt32_reads
  · exact readVarInt32_answers

theorem varInt64_exact : varInt64.Exact := by
  apply Exact.of_signed Int64.ofInt
  · decide
  · decide
  · rfl
  · exact fun _ => rfl
  · exact Int64.ofInt_bitVecToInt
  · exact fun _ => rfl
  · exact fun _ => rfl
  · exact readVarInt64_reads
  · exact readVarInt64_answers

/-- Numbers are read exactly as far as they go, and written in the fewest bytes. Signs are folded
into words of any width as into integers, and nothing is lost of a word. -/
theorem numbers_are_exact_and_shortest :
    varInt32.Exact ∧ varUInt32.Exact ∧ varInt64.Exact ∧
      ∀ {width : Nat} (bits : BitVec width),
        (Varint.foldSign bits).toNat = Varint.zigzag bits.toInt ∧
          (Varint.unfoldSign bits).toInt = Varint.unzigzag bits.toNat ∧
          Varint.unfoldSign (Varint.foldSign bits) = bits ∧
          Varint.foldSign (Varint.unfoldSign bits) = bits := by
  refine ⟨varInt32_exact, varUInt32_exact, varInt64_exact, fun bits => ⟨?_, ?_, ?_, ?_⟩⟩
  · exact Varint.toNat_foldSign bits
  · exact Varint.toInt_unfoldSign bits
  · exact Varint.unfoldSign_foldSign bits
  · exact Varint.foldSign_unfoldSign bits

/-- Of a tenth group only the lowest bit fits into sixty-four. -/
example : readVarInt64 (List.replicate 9 0x80 ++ [0x7F, 5]) = .ok (2 ^ 62, [5]) := by
  decide +kernel

end NumberFormat

end Wire

end InventorySync
