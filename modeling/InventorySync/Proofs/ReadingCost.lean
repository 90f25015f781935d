import InventorySync.Proofs.PrefixStability

/-!
What a value cost to read, in bytes. A reader that is put together from smaller ones adds up
what they take, so a bound on the written form of each part is a bound on the whole. Numbers
are written in the fewest groups that hold them, and a number that is cut to its width is not
larger than it was.
-/

namespace InventorySync

set_option autoImplicit false

namespace Decoder

section Logic

variable {ε δ α β : Type}

/-- Whenever the reader answers, the claim holds of the value and of the number of bytes that
were taken for it. -/
def Answers (reader : Decoder ε α) (claim : α → Nat → Prop) : Prop :=
  ∀ ⦃input rest : Bytes⦄ ⦃value : α⦄, reader input = .ok (value, rest) →
    ∃ size, input.length = size + rest.length ∧ claim value size

/-- What is read is admitted, and its written form is no longer than what was read. -/
abbrev Shrinks (reader : Decoder ε α) (encode : α → Bytes) (admitted : α → Prop) : Prop :=
  Answers reader fun value size => admitted value ∧ (encode value).length ≤ size

variable {reader : Decoder ε α} {next : α → Decoder ε β} {claim other : α → Nat → Prop}

namespace Answers

theorem weaken (answers : Answers reader claim)
    (implied : ∀ value size, claim value size → other value size) : Answers reader other := by
  intro input rest value succeeds
  obtain ⟨size, length, holds⟩ := answers succeeds
  exact ⟨size, length, implied value size holds⟩

theorem pure {value : α} (holds : claim value 0) :
    Answers (pure value : Decoder ε α) claim := by
  intro input rest result succeeds
  cases succeeds
  exact ⟨0, (Nat.zero_add _).symm, holds⟩

theorem throw (failure : ε) : Answers (throw failure : Decoder ε α) claim :=
  fun _ _ _ succeeds => nomatch succeeds

theorem bind {result : β → Nat → Prop} (head : Answers reader claim)
    (tail : ∀ value size, claim value size →
      Answers (next value) fun answer more => result answer (size + more)) :
    Answers (reader >>= next) result := by
  intro input rest answer succeeds
  obtain ⟨value, left, found, later⟩ := eq_ok_of_bind succeeds
  obtain ⟨size, before, holds⟩ := head found
  obtain ⟨more, behind, concluded⟩ := tail value size holds later
  refine ⟨size + more, ?_, concluded⟩
  rw [before, behind, Nat.add_assoc]

/-- What follows a failure is never reached. -/
theorem failing (failure : ε) {result : β → Nat → Prop} :
    Answers ((MonadExcept.throw failure : Decoder ε α) >>= next) result :=
  (throw failure : Answers _ fun _ _ => False).bind fun _ _ never => never.elim

theorem map {result : β → Nat → Prop} {change : α → β} (head : Answers reader claim)
    (changed : ∀ value size, claim value size → result (change value) size) :
    Answers (do return change (← reader)) result :=
  head.bind fun value size holds => .pure (changed value size holds)

theorem ite {condition : Prop} [Decidable condition] {alternative : Decoder ε α}
    (here : condition → Answers reader claim) (there : ¬condition → Answers alternative claim) :
    Answers (if condition then reader else alternative) claim := by
  split
  · next met => exact here met
  · next missed => exact there missed

theorem mapError {wrap : ε → δ} (answers : Answers reader claim) :
    Answers (Decoder.mapError wrap reader) claim := by
  intro input rest value succeeds
  unfold Decoder.mapError at succeeds
  cases found : reader input with
  | error failure =>
      rw [found] at succeeds
      cases succeeds
  | ok answer =>
      rw [found] at succeeds
      cases succeeds
      exact answers found

section Bytes

variable {short : Nat → ε}

theorem byte : Answers (Decoder.byte short) fun _ size => size = 1 := by
  intro input rest value succeeds
  cases input with
  | nil => cases succeeds
  | cons first others =>
      cases succeeds
      exact ⟨1, Nat.add_comm _ _, rfl⟩

theorem take (count : Nat) :
    Answers (Decoder.take count short) fun bytes size => bytes.length = count ∧ size = count := by
  intro input rest bytes succeeds
  unfold Decoder.take at succeeds
  split at succeeds
  · next cut =>
      cases succeeds
      obtain ⟨same, length⟩ := eq_append_of_split? cut
      refine ⟨count, ?_, length, rfl⟩
      rw [same, List.length_append, length]
  · cases succeeds

theorem require (count : Nat) :
    Answers (Decoder.require count short) fun _ size => size = 0 := by
  intro input rest value succeeds
  unfold Decoder.require at succeeds
  split at succeeds
  · cases succeeds
    exact ⟨0, (Nat.zero_add _).symm, rfl⟩
  · cases succeeds

theorem littleEndian_lt (bytes : Bytes) : littleEndian bytes < 256 ^ bytes.length := by
  induction bytes with
  | nil => exact Nat.one_pos
  | cons low high induction =>
      have digit := low.toNat_lt
      rw [littleEndian, List.length_cons, Nat.pow_succ]
      omega

theorem unsigned (width : Nat) :
    Answers (Decoder.unsigned width short) fun number size =>
      number < 256 ^ width ∧ size = width := by
  refine (take width).map fun bytes size taken => ⟨?_, taken.2⟩
  rw [← taken.1]
  exact littleEndian_lt bytes

theorem text {invalid : ε} (count : Nat) :
    Answers (Decoder.text count short invalid) fun content size =>
      (utf8Bytes content).length = count ∧ size = count := by
  refine (take count).bind fun bytes size taken => ?_
  split
  · next content valid =>
      obtain ⟨wellFormed, same⟩ := Option.dite_none_right_eq_some.1 valid
      cases same
      refine .pure ⟨?_, taken.2⟩
      rw [← taken.1]
      rfl
  · exact .throw invalid

end Bytes

section Rows

variable {encode : α → Bytes} {admitted : α → Prop}

theorem replicate (each : Shrinks reader encode admitted) (count : Nat) :
    Shrinks (Decoder.replicate reader count) (List.flatMap encode)
      fun values => values.length = count ∧ ∀ value ∈ values, admitted value := by
  induction count with
  | zero => exact .pure ⟨⟨rfl, List.forall_mem_nil _⟩, Nat.le_refl 0⟩
  | succ count induction =>
      refine each.bind fun first size here => induction.map fun others more row => ?_
      obtain ⟨⟨length, inner⟩, room⟩ := row
      refine ⟨⟨congrArg Nat.succ length, List.forall_mem_cons.2 ⟨here.1, inner⟩⟩, ?_⟩
      rw [List.flatMap_cons, List.length_append]
      exact Nat.add_le_add here.2 room

variable {optional : Decoder ε (Option α)} {exhausted : ε} {last : Nat}

/-- What is read in a row, with so many bytes to end it. -/
theorem repeatUntilNone (each : Answers optional fun answer size =>
      (∀ value ∈ answer, admitted value) ∧
        (answer.elim last fun value => (encode value).length) ≤ size) :
    Answers (Decoder.repeatUntilNone optional exhausted) fun values size =>
      (∀ value ∈ values, admitted value) ∧ (values.flatMap encode).length + last ≤ size := by
  have within (rounds : Nat) :
      Answers (Decoder.repeatWithin optional exhausted rounds) fun values size =>
        (∀ value ∈ values, admitted value) ∧ (values.flatMap encode).length + last ≤ size := by
    induction rounds with
    | zero => exact .throw exhausted
    | succ rounds induction =>
        refine each.bind fun answer size here => ?_
        cases answer with
        | none =>
            refine .pure ⟨List.forall_mem_nil _, ?_⟩
            rw [List.flatMap_nil, List.length_nil, Nat.zero_add]
            exact here.2
        | some first =>
            refine induction.map fun others more row => ?_
            refine ⟨List.forall_mem_cons.2 ⟨here.1 first rfl, row.1⟩, ?_⟩
            rw [List.flatMap_cons, List.length_append, Nat.add_assoc]
            exact Nat.add_le_add here.2 row.2
  exact fun input rest values succeeds => within (input.length + 1) succeeds

end Rows

end Answers

end Logic

end Decoder

open Decoder

namespace Varint

theorem length_encode_of_lt {number : Nat} (low : number < 128) : (encode number).length = 1 := by
  rw [encode, if_pos low, List.length_singleton]

theorem length_encode_of_not_lt {number : Nat} (high : ¬number < 128) :
    (encode number).length = (encode (number / 128)).length + 1 := by
  rw [encode, if_neg high, List.length_cons]

theorem length_encode_pos (number : Nat) : 0 < (encode number).length :=
  List.length_pos_iff.2 (encode_ne_nil number)

theorem length_encode_of_le {small large : Nat} (order : small ≤ large) :
    (encode small).length ≤ (encode large).length := by
  induction large using Nat.strongRecOn generalizing small with
  | ind large induction =>
      by_cases low : small < 128
      · rw [length_encode_of_lt low]
        exact length_encode_pos large
      · have high : ¬large < 128 := by omega
        rw [length_encode_of_not_lt low, length_encode_of_not_lt high]
        apply Nat.succ_le_succ
        exact induction (large / 128) (by omega) (Nat.div_le_div_right order)

/-- No number is read from fewer groups than it is written in. -/
theorem decodeWithin_answers (limit groups : Nat) :
    Answers (ε := Error) (decodeWithin limit groups) fun number size =>
      (encode number).length ≤ size := by
  induction groups with
  | zero => exact .throw _
  | succ groups induction =>
      intro input rest number succeeds
      cases input with
      | nil => cases succeeds
      | cons byte others =>
          rw [decodeWithin] at succeeds
          split at succeeds
          · next low =>
              cases succeeds
              exact ⟨1, Nat.add_comm _ _,
                Nat.le_of_eq (length_encode_of_lt (UInt8.lt_iff_toNat_lt.1 low))⟩
          · obtain ⟨high, left, found, last⟩ :
                ∃ high left, decodeWithin limit groups others = .ok (high, left) ∧
                  (byte.toNat % 128 + 128 * high, left) = (number, rest) := by
              cases found : decodeWithin limit groups others with
              | error failure =>
                  rw [found] at succeeds
                  cases succeeds
              | ok answer =>
                  rw [found] at succeeds
                  cases succeeds
                  exact ⟨_, _, rfl, rfl⟩
            cases last
            obtain ⟨size, length, room⟩ := induction found
            refine ⟨size + 1, by rw [List.length_cons, length]; omega, ?_⟩
            change (encode (byte.toNat % 128 + 128 * high)).length ≤ size + 1
            by_cases small : byte.toNat % 128 + 128 * high < 128
            · rw [length_encode_of_lt small]
              exact Nat.succ_le_succ (Nat.zero_le size)
            · have quotient : (byte.toNat % 128 + 128 * high) / 128 = high := by omega
              rw [length_encode_of_not_lt small, quotient]
              exact Nat.succ_le_succ room

theorem unzigzag_bounds {half folded : Nat} (width : folded < 2 * half) :
    -half ≤ unzigzag folded ∧ unzigzag folded < half := by
  unfold unzigzag
  split
  · rw [Int.ofNat_eq_natCast]
    omega
  · rw [Int.negSucc_eq]
    omega

end Varint

namespace Wire

section Scalars

theorem readByte_answers : Answers readByte fun _ size => size = 1 := .byte

theorem readBool_answers : Answers readBool fun _ size => size = 1 :=
  readByte_answers.map fun _ _ one => one

theorem length_encodeBool (value : Bool) : (encodeBool value).length = 1 := rfl

theorem readUInt16_answers : Answers readUInt16 fun _ size => size = 2 := by
  have digits : Answers (Decoder.unsigned 2 (Error.tooShort 2)) fun number size =>
      number < 256 ^ 2 ∧ size = 2 := .unsigned 2
  exact digits.map fun _ _ taken => taken.2

theorem length_encodeUInt16 (value : UInt16) : (encodeUInt16 value).length = 2 :=
  length_littleEndianBytes 2 value.toNat

theorem readVarint_answers (limit : Nat) :
    Answers (readVarint limit) fun number size => (Varint.encode number).length ≤ size :=
  (Varint.decodeWithin_answers limit limit).mapError

theorem readVarUInt32_answers :
    Answers readVarUInt32 fun value size => (encodeVarUInt32 value).length ≤ size := by
  refine (readVarint_answers 5).map fun number size room => ?_
  unfold encodeVarUInt32
  rw [UInt32.toNat_ofNat']
  exact Nat.le_trans (Varint.length_encode_of_le (Nat.mod_le number _)) room

theorem readVarInt32_answers :
    Answers readVarInt32 fun value size => (encodeVarInt32 value).length ≤ size := by
  refine (readVarint_answers 5).map fun number size room => ?_
  -- The bits that are left of the number are those that its sign is folded into again.
  have folded : (UInt32.ofNat number).toNat ≤ number := by
    rw [UInt32.toNat_ofNat']
    exact Nat.mod_le number _
  have width : (UInt32.ofNat number).toNat < 2 * 2 ^ 31 := UInt32.toNat_lt _
  obtain ⟨low, high⟩ := Varint.unzigzag_bounds width
  unfold encodeVarInt32
  rw [Int32.toInt_ofInt_of_le low high, Varint.zigzag_unzigzag]
  exact Nat.le_trans (Varint.length_encode_of_le folded) room

theorem readVarInt64_answers :
    Answers readVarInt64 fun value size => (encodeVarInt64 value).length ≤ size := by
  refine (readVarint_answers 10).map fun number size room => ?_
  have folded : (UInt64.ofNat number).toNat ≤ number := by
    rw [UInt64.toNat_ofNat']
    exact Nat.mod_le number _
  have width : (UInt64.ofNat number).toNat < 2 * 2 ^ 63 := UInt64.toNat_lt _
  obtain ⟨low, high⟩ := Varint.unzigzag_bounds width
  unfold encodeVarInt64
  rw [Int64.toInt_ofInt_of_le low high, Varint.zigzag_unzigzag]
  exact Nat.le_trans (Varint.length_encode_of_le folded) room

theorem readString_shrinks : Shrinks readString encodeString ShortText := by
  refine readVarUInt32_answers.bind fun count size room => (Answers.text _).weaken ?_
  intro content more taken
  have short : ShortText content := by
    unfold ShortText
    rw [taken.1]
    exact count.toNat_lt
  refine ⟨short, ?_⟩
  change (encodeVarUInt32 (UInt32.ofNat (utf8Bytes content).length) ++
    utf8Bytes content).length ≤ size + more
  rw [taken.1, UInt32.ofNat_toNat, List.length_append, taken.1, taken.2]
  exact Nat.add_le_add_right room _

end Scalars

section Lists

variable {α : Type} {reader : Reader α} {encode : α → Bytes} {admitted : α → Prop}

theorem readCounted_shrinks (each : Shrinks reader encode admitted) (count : Nat) :
    Shrinks (readCounted count reader) (List.flatMap encode)
      fun values => values.length = count ∧ ∀ value ∈ values, admitted value := by
  refine (Answers.require count).bind fun _ size none => (Answers.replicate each count).weaken ?_
  intro values more row
  rw [none, Nat.zero_add]
  exact row

theorem readList_shrinks (each : Shrinks reader encode admitted) :
    Shrinks (readList reader) (encodeList encode) (ListSendable admitted) := by
  refine readVarUInt32_answers.bind fun count size room =>
    (readCounted_shrinks each count.toNat).weaken ?_
  rintro values more ⟨⟨length, inner⟩, elements⟩
  refine ⟨⟨by rw [length]; exact count.toNat_lt, inner⟩, ?_⟩
  unfold encodeList
  rw [length, UInt32.ofNat_toNat, List.length_append]
  exact Nat.add_le_add room elements

end Lists

end Wire

end InventorySync
