import InventorySync.Proofs.PacketRoundTrip

/-!
Where a value ends is settled by its own bytes. Bytes behind a value change nothing about it,
a value that is cut off anywhere is reported as cut off, and a fault is reported as the same
fault whatever follows it. Several readers look ahead at what is left before they read on; all
that they can conclude from it is that the bytes end too early.
-/

namespace InventorySync

set_option autoImplicit false

namespace Decoder

section Logic

variable {ε δ α β : Type} {short : ε → Prop}

/-- Reading does not depend on what comes after the bytes that were looked at. The failures in
`short` say that the bytes ended too early. -/
structure PrefixStable (short : ε → Prop) (reader : Decoder ε α) : Prop where
  /-- What follows a value is left behind it. -/
  extended : ∀ {input rest : Bytes} {value : α}, reader input = .ok (value, rest) →
    rest <:+ input ∧ ∀ tail, reader (input ++ tail) = .ok (value, rest ++ tail)
  /-- Fewer bytes than the value takes are too few. -/
  truncated : ∀ {input rest : Bytes} {value : α}, reader input = .ok (value, rest) →
    ∀ size, size + rest.length < input.length →
      ∃ failure, short failure ∧ reader (input.take size) = .error failure
  /-- No other failure is undone by what follows. -/
  refused : ∀ {input : Bytes} {failure : ε}, reader input = .error failure → ¬short failure →
    ∀ tail, reader (input ++ tail) = .error failure

/-- The same by pieces: the bytes that were taken are enough for the value, and the bytes that
were refused are enough for the failure. -/
structure Settles (short : ε → Prop) (reader : Decoder ε α) : Prop where
  accepts : ∀ {input rest : Bytes} {value : α}, reader input = .ok (value, rest) →
    ∃ taken, input = taken ++ rest ∧ Reads reader taken value
  rejects : ∀ {input : Bytes} {failure : ε}, reader input = .error failure → ¬short failure →
    Refuses reader input failure

/-- No value is read from nothing. -/
def NeedsInput (reader : Decoder ε α) : Prop := ∃ failure, reader [] = .error failure

variable {reader : Decoder ε α} {next : α → Decoder ε β}

theorem eq_ok_of_bind {input rest : Bytes} {result : β}
    (succeeds : (reader >>= next) input = .ok (result, rest)) :
    ∃ value left, reader input = .ok (value, left) ∧ next value left = .ok (result, rest) := by
  cases found : reader input with
  | error failure =>
      rw [bind_of_error found] at succeeds
      cases succeeds
  | ok answer =>
      rw [bind_of_ok found] at succeeds
      exact ⟨answer.1, answer.2, rfl, succeeds⟩

theorem eq_error_of_bind {input : Bytes} {failure : ε}
    (fails : (reader >>= next) input = .error failure) :
    reader input = .error failure ∨
      ∃ value left, reader input = .ok (value, left) ∧ next value left = .error failure := by
  cases found : reader input with
  | error other =>
      rw [bind_of_error found] at fails
      cases fails
      exact .inl rfl
  | ok answer =>
      rw [bind_of_ok found] at fails
      exact .inr ⟨answer.1, answer.2, rfl, fails⟩

theorem NeedsInput.bind (needs : NeedsInput reader) : NeedsInput (reader >>= next) := by
  obtain ⟨failure, fails⟩ := needs
  exact ⟨failure, bind_of_error fails⟩

theorem NeedsInput.ne_nil (needs : NeedsInput reader) {taken : Bytes} {value : α}
    (reads : Reads reader taken value) : taken ≠ [] := by
  rintro rfl
  obtain ⟨failure, fails⟩ := needs
  have succeeds := reads []
  rw [List.nil_append, fails] at succeeds
  cases succeeds

namespace Settles

theorem prefixStable (settles : Settles short reader) : PrefixStable short reader := by
  constructor
  case extended =>
    intro input rest value succeeds
    obtain ⟨taken, rfl, reads⟩ := settles.accepts succeeds
    refine ⟨List.suffix_append taken rest, fun tail => ?_⟩
    rw [List.append_assoc]
    exact reads _
  case truncated =>
    intro input rest value succeeds size cut
    -- A value read from the first bytes would have to be the one that is read from all of
    -- them, and a fault in them would persist: only an early end remains.
    cases fewer : reader (input.take size) with
    | ok answer =>
        obtain ⟨taken, front, reads⟩ := settles.accepts fewer
        have again := reads (answer.2 ++ input.drop size)
        rw [← List.append_assoc, ← front, List.take_append_drop, succeeds] at again
        cases again
        rw [List.length_append, List.length_drop] at cut
        omega
    | error failure =>
        by_cases early : short failure
        · exact ⟨failure, early, rfl⟩
        · have again := settles.rejects fewer early (input.drop size)
          rw [List.take_append_drop, succeeds] at again
          cases again
  case refused => exact fun fails other => settles.rejects fails other

theorem pure (value : α) : Settles short (pure value : Decoder ε α) where
  accepts succeeds := by
    cases succeeds
    exact ⟨[], rfl, Reads.pure value⟩
  rejects fails := nomatch fails

theorem throw (failure : ε) : Settles short (throw failure : Decoder ε α) where
  accepts succeeds := nomatch succeeds
  rejects fails _ := by
    cases fails
    exact fun _ => rfl

theorem bind (head : Settles short reader) (tail : ∀ value, Settles short (next value)) :
    Settles short (reader >>= next) where
  accepts succeeds := by
    obtain ⟨value, left, found, later⟩ := eq_ok_of_bind succeeds
    obtain ⟨first, rfl, reads⟩ := head.accepts found
    obtain ⟨second, rfl, others⟩ := (tail value).accepts later
    exact ⟨first ++ second, (List.append_assoc ..).symm, reads.bind others⟩
  rejects fails other := by
    intro rest
    rcases eq_error_of_bind fails with here | ⟨value, left, found, later⟩
    · exact bind_of_error (head.rejects here other rest)
    · obtain ⟨first, rfl, reads⟩ := head.accepts found
      rw [List.append_assoc, bind_of_ok (reads _)]
      exact (tail value).rejects later other rest

theorem map (change : α → β) (head : Settles short reader) :
    Settles short (do return change (← reader)) := head.bind fun value => .pure (change value)

theorem ite {condition : Prop} [Decidable condition] {other : Decoder ε α}
    (here : Settles short reader) (there : Settles short other) :
    Settles short (if condition then reader else other) := by
  split
  · exact here
  · exact there

theorem mapError {fewer : δ → Prop} {wrap : δ → ε} {inner : Decoder δ α}
    (settles : Settles fewer inner) (wrapped : ∀ failure, fewer failure → short (wrap failure)) :
    Settles short (Decoder.mapError wrap inner) where
  accepts {input rest value} succeeds := by
    unfold Decoder.mapError at succeeds
    cases found : inner input with
    | error failure =>
        rw [found] at succeeds
        cases succeeds
    | ok answer =>
        rw [found] at succeeds
        cases succeeds
        obtain ⟨taken, same, reads⟩ := settles.accepts found
        exact ⟨taken, same, reads.mapError⟩
  rejects {input failure} fails other := by
    unfold Decoder.mapError at fails
    cases found : inner input with
    | ok answer =>
        rw [found] at fails
        cases fails
    | error cause =>
        rw [found] at fails
        cases fails
        intro tail
        unfold Decoder.mapError
        rw [settles.rejects found (fun early => other (wrapped cause early)) tail]
        rfl

section Bytes

variable {noticed : Nat → ε}

theorem byte (early : ∀ remaining, short (noticed remaining)) :
    Settles short (Decoder.byte noticed) where
  accepts {input rest value} succeeds := by
    cases input with
    | nil => cases succeeds
    | cons first others =>
        cases succeeds
        exact ⟨[value], rfl, Reads.byte value⟩
  rejects {input failure} fails other := by
    cases input with
    | nil =>
        cases fails
        exact absurd (early 0) other
    | cons first others => cases fails

theorem take (count : Nat) (early : ∀ remaining, short (noticed remaining)) :
    Settles short (Decoder.take count noticed) where
  accepts succeeds := by
    unfold Decoder.take at succeeds
    split at succeeds
    · next cut =>
        cases succeeds
        obtain ⟨same, rfl⟩ := eq_append_of_split? cut
        exact ⟨_, same, Reads.take _⟩
    · cases succeeds
  rejects fails other := by
    unfold Decoder.take at fails
    split at fails
    · cases fails
    · cases fails
      exact absurd (early _) other

theorem unsigned (width : Nat) (early : ∀ remaining, short (noticed remaining)) :
    Settles short (Decoder.unsigned width noticed) := (take width early).map littleEndian

theorem text (count : Nat) (invalid : ε) (early : ∀ remaining, short (noticed remaining)) :
    Settles short (Decoder.text count noticed invalid) := by
  refine (take count early).bind fun bytes => ?_
  split
  · exact .pure _
  · exact .throw invalid

end Bytes

theorem replicate (each : Settles short reader) (count : Nat) :
    Settles short (Decoder.replicate reader count) := by
  induction count with
  | zero => exact .pure []
  | succ count induction => exact each.bind fun first => induction.map (first :: ·)

end Settles

/-- Values in a row take at least one byte each. -/
theorem length_add_le_of_replicate (each : Settles short reader) (needs : NeedsInput reader)
    {count : Nat} {input rest : Bytes} {values : List α}
    (succeeds : Decoder.replicate reader count input = .ok (values, rest)) :
    count + rest.length ≤ input.length := by
  induction count generalizing input values with
  | zero =>
      cases succeeds
      exact Nat.le_of_eq (Nat.zero_add _)
  | succ count induction =>
      obtain ⟨first, left, found, later⟩ := eq_ok_of_bind succeeds
      obtain ⟨others, behind, row, last⟩ := eq_ok_of_bind later
      cases last
      obtain ⟨taken, rfl, reads⟩ := each.accepts found
      have one := List.length_pos_iff.2 (needs.ne_nil reads)
      have more := induction row
      rw [List.length_append]
      omega

section Repetition

variable {optional : Decoder ε (Option α)} {exhausted : ε}

/-- Each round takes at least one byte, the last one included, so rounds for all the bytes that
are taken are enough. -/
theorem repeatWithin_accepts (each : Settles short optional) (needs : NeedsInput optional)
    {rounds : Nat} {input rest : Bytes} {values : List α}
    (succeeds : repeatWithin optional exhausted rounds input = .ok (values, rest)) :
    ∃ taken, input = taken ++ rest ∧ ∀ enough, taken.length ≤ enough →
      Reads (repeatWithin optional exhausted enough) taken values := by
  induction rounds generalizing input values with
  | zero => cases succeeds
  | succ rounds induction =>
      obtain ⟨answer, left, found, later⟩ := eq_ok_of_bind succeeds
      obtain ⟨first, rfl, reads⟩ := each.accepts found
      have one := List.length_pos_iff.2 (needs.ne_nil reads)
      cases answer with
      | none =>
          cases later
          refine ⟨first, rfl, fun enough room => ?_⟩
          obtain ⟨enough, rfl⟩ := Nat.exists_eq_add_one.2 (Nat.lt_of_lt_of_le one room)
          exact fun tail => bind_of_ok (reads tail)
      | some value =>
          obtain ⟨others, behind, row, last⟩ := eq_ok_of_bind later
          cases last
          obtain ⟨second, rfl, further⟩ := induction row
          refine ⟨first ++ second, (List.append_assoc ..).symm, fun enough room => ?_⟩
          rw [List.length_append] at room
          obtain ⟨enough, rfl⟩ := Nat.exists_eq_add_one.2 (by omega : 0 < enough)
          exact reads.bind ((further enough (by omega)).map (value :: ·))

/-- More rounds than were made do not help against a fault. -/
theorem repeatWithin_rejects (each : Settles short optional) (early : short exhausted)
    {rounds more : Nat} {input : Bytes} {failure : ε} (enough : rounds ≤ more)
    (fails : repeatWithin optional exhausted rounds input = .error failure)
    (other : ¬short failure) :
    Refuses (repeatWithin optional exhausted more) input failure := by
  induction rounds generalizing more input with
  | zero =>
      cases fails
      exact absurd early other
  | succ rounds induction =>
      obtain ⟨more, rfl⟩ := Nat.exists_eq_add_one.2 (Nat.lt_of_lt_of_le (Nat.succ_pos _) enough)
      intro tail
      rcases eq_error_of_bind fails with here | ⟨answer, left, found, later⟩
      · exact bind_of_error (each.rejects here other tail)
      · obtain ⟨first, rfl, reads⟩ := each.accepts found
        rw [List.append_assoc]
        refine (bind_of_ok (reads _)).trans ?_
        cases answer with
        | none => cases later
        | some value =>
            rcases eq_error_of_bind later with row | ⟨others, behind, row, last⟩
            · exact bind_of_error (induction (Nat.le_of_succ_le_succ enough) row tail)
            · cases last

theorem Settles.repeatUntilNone (each : Settles short optional) (needs : NeedsInput optional)
    (early : short exhausted) : Settles short (Decoder.repeatUntilNone optional exhausted) where
  accepts succeeds := by
    obtain ⟨taken, same, reads⟩ := repeatWithin_accepts each needs succeeds
    refine ⟨taken, same, fun tail => reads _ ?_ tail⟩
    rw [List.length_append]
    omega
  rejects {input failure} fails other tail := by
    refine repeatWithin_rejects each early ?_ fails other tail
    rw [List.length_append]
    omega

end Repetition

end Logic

end Decoder

open Decoder

namespace Nbt

/-- A reader of tags is settled up to the end of the data. -/
abbrev Settled {α : Type} (reader : Reader α) : Prop := Settles (· = Error.unexpectedEnd) reader

theorem readByte_settles : Settled readByte := .byte fun _ => rfl

theorem readUnsigned_settles (width : Nat) : Settled (readUnsigned width) :=
  .unsigned width fun _ => rfl

theorem readInt8_settles : Settled readInt8 := readByte_settles.map UInt8.toInt8

theorem readInt32_settles : Settled readInt32 :=
  (readUnsigned_settles 4).map fun digits => (UInt32.ofNat digits).toInt32

theorem readInt64_settles : Settled readInt64 :=
  (readUnsigned_settles 8).map fun digits => (UInt64.ofNat digits).toInt64

theorem readString_settles : Settled readString :=
  (readUnsigned_settles 2).bind fun length => .text length _ fun _ => rfl

theorem readLength_settles : Settled readLength := by
  refine readInt32_settles.bind fun length => .ite ?_ ?_
  · exact (Settles.throw _).bind fun _ => .pure _
  · exact .pure _

theorem readArray_settles {α : Type} {reader : Reader α} (each : Settled reader) :
    Settled (readArray reader) := readLength_settles.bind each.replicate

theorem readEntry_settles {readTag : UInt8 → Reader Tag}
    (inner : ∀ typeNumber, Settled (readTag typeNumber)) : Settled (readEntry readTag) := by
  refine readByte_settles.bind fun typeNumber => .ite (.pure none) ?_
  exact readString_settles.bind fun name => (inner typeNumber).map fun tag => some (name, tag)

theorem readEntries_settles {readTag : UInt8 → Reader Tag}
    (inner : ∀ typeNumber, Settled (readTag typeNumber)) : Settled (readEntries readTag) := by
  have needs : NeedsInput (readEntry readTag) := ⟨.unexpectedEnd, rfl⟩
  exact ((readEntry_settles inner).repeatUntilNone needs rfl).map Compound.ofEntries

theorem readTag_settles (levels : Nat) (typeNumber : UInt8) :
    Settled (readTag levels typeNumber) := by
  induction levels generalizing typeNumber with
  | zero => exact .throw _
  | succ levels induction =>
      unfold readTag
      split
      · exact readInt8_settles.map Tag.byte
      · exact (readUnsigned_settles 2).map fun digits => Tag.short (UInt16.ofNat digits).toInt16
      · exact readInt32_settles.map Tag.int
      · exact readInt64_settles.map Tag.long
      · exact (readUnsigned_settles 4).map fun digits => Tag.float (UInt32.ofNat digits)
      · exact (readUnsigned_settles 8).map fun digits => Tag.double (UInt64.ofNat digits)
      · exact (readArray_settles readInt8_settles).map Tag.byteArray
      · exact readString_settles.map Tag.string
      · refine readByte_settles.bind fun elementType => ?_
        exact (readArray_settles (induction elementType)).map Tag.list
      · exact .ite (.throw _) ((readEntries_settles induction).map Tag.compound)
      · exact (readArray_settles readInt32_settles).map Tag.intArray
      · exact (readArray_settles readInt64_settles).map Tag.longArray
      · exact .throw _

theorem readRoot_settles : Settled readRoot := by
  have entries := readEntries_settles (readTag_settles (deepestLevel + 1))
  refine readByte_settles.bind fun typeNumber => .ite ?_ ?_
  · exact (Settles.throw _).bind fun _ =>
      readString_settles.bind fun name => entries.map (Root.mk name)
  · exact readString_settles.bind fun name => entries.map (Root.mk name)

end Nbt

namespace Varint

theorem decodeWithin_settles (limit groups : Nat) :
    Settles (ε := Error) (· = .endOfInput) (decodeWithin limit groups) := by
  induction groups with
  | zero => exact .throw _
  | succ groups induction =>
      -- The first group is a byte like any other, and tells whether there are more of them.
      have grouped : decodeWithin limit (groups + 1) =
          (Decoder.byte (fun _ => Error.endOfInput) >>= fun byte : UInt8 =>
            if byte < 128 then pure byte.toNat
            else do
              let high ← (decodeWithin limit groups : Decoder Error Nat)
              return byte.toNat % 128 + 128 * high) := by
        funext input
        cases input with
        | nil => rfl
        | cons first others =>
            rw [bind_of_ok rfl, decodeWithin]
            split
            · rfl
            · rfl
      have group : Settles (· = Error.endOfInput) (Decoder.byte fun _ => Error.endOfInput) :=
        .byte fun _ => rfl
      rw [grouped]
      refine group.bind fun first => ?_
      exact .ite (.pure _) (induction.map fun high => first.toNat % 128 + 128 * high)

end Varint

namespace Wire

/-- A reader of packets is settled up to the end of the bytes. -/
abbrev Settled {α : Type} (reader : Reader α) : Prop :=
  Settles (fun failure : Error => failure.isTruncation = true) reader

section Scalars

theorem readByte_settles : Settled readByte := .byte fun _ => rfl

theorem readBool_settles : Settled readBool := readByte_settles.map fun byte => decide (byte ≠ 0)

theorem readUInt16_settles : Settled readUInt16 := by
  have digits : Settled (Decoder.unsigned 2 (Error.tooShort 2)) := .unsigned 2 fun _ => rfl
  exact digits.map UInt16.ofNat

theorem readVarint_settles (limit : Nat) : Settled (readVarint limit) :=
  (Varint.decodeWithin_settles limit limit).mapError fun failure early => by
    rw [early]
    rfl

theorem readVarUInt32_settles : Settled readVarUInt32 :=
  (readVarint_settles 5).map UInt32.ofNat

theorem readVarInt32_settles : Settled readVarInt32 :=
  (readVarint_settles 5).map fun number =>
    Int32.ofInt (Varint.unzigzag (UInt32.ofNat number).toNat)

theorem readVarInt64_settles : Settled readVarInt64 :=
  (readVarint_settles 10).map fun number =>
    Int64.ofInt (Varint.unzigzag (UInt64.ofNat number).toNat)

theorem readString_settles : Settled readString :=
  readVarUInt32_settles.bind fun length => .text length.toNat _ fun _ => rfl

end Scalars

section Lists

variable {α : Type} {reader : Reader α}

theorem readCounted_of_length_le {count : Nat} {input : Bytes} (room : count ≤ input.length) :
    readCounted count reader input = Decoder.replicate reader count input := by
  have granted : Decoder.require count (Error.tooShort count) input = .ok ((), input) := by
    unfold Decoder.require
    split
    · rfl
    · next cut => exact absurd (split?_eq_none_iff.1 cut) (Nat.not_lt.2 room)
  exact bind_of_ok granted

theorem readCounted_of_lt {count : Nat} {input : Bytes} (lack : input.length < count) :
    readCounted count reader input = .error (.tooShort count input.length) := by
  have refused : Decoder.require count (Error.tooShort count) input =
      .error (.tooShort count input.length) := by
    unfold Decoder.require
    rw [split?_eq_none_iff.2 lack]
  exact bind_of_error refused

/-- The check ahead asks for no more than the elements take, so it is met by their own bytes. -/
theorem readCounted_settles (each : Settled reader) (needs : NeedsInput reader) (count : Nat) :
    Settled (readCounted count reader) where
  accepts {input rest values} succeeds := by
    rcases Nat.lt_or_ge input.length count with lack | room
    · rw [readCounted_of_lt lack] at succeeds
      cases succeeds
    · rw [readCounted_of_length_le room] at succeeds
      have taken := length_add_le_of_replicate each needs succeeds
      obtain ⟨front, rfl, reads⟩ := (each.replicate count).accepts succeeds
      refine ⟨front, rfl, fun tail => ?_⟩
      rw [List.length_append] at taken
      rw [readCounted_of_length_le (by rw [List.length_append]; omega)]
      exact reads tail
  rejects {input failure} fails other tail := by
    rcases Nat.lt_or_ge input.length count with lack | room
    · rw [readCounted_of_lt lack] at fails
      cases fails
      exact absurd rfl other
    · rw [readCounted_of_length_le room] at fails
      rw [readCounted_of_length_le (by rw [List.length_append]; omega)]
      exact (each.replicate count).rejects fails other tail

theorem readList_settles (each : Settled reader) (needs : NeedsInput reader) :
    Settled (readList reader) :=
  readVarUInt32_settles.bind fun count => readCounted_settles each needs count.toNat

end Lists

end Wire

theorem BlockPos.read_settles : Wire.Settled BlockPos.read := by
  refine Wire.readVarInt32_settles.bind fun x => Wire.readVarUInt32_settles.bind fun y => ?_
  exact Wire.readVarInt32_settles.map fun z => BlockPos.mk x y.toInt32 z

namespace Item

theorem readStackId_settles : Wire.Settled readStackId :=
  Wire.readBool_settles.bind fun _ => .ite Wire.readVarInt32_settles (.pure 0)

theorem readUserData_settles : Wire.Settled readUserData := by
  have wrapped (failure : Nbt.Error) (early : failure = .unexpectedEnd) :
      (Wire.Error.userData failure).isTruncation = true := by
    rw [early]
    rfl
  have inner : Wire.Settled (Decoder.mapError .userData Nbt.readRoot) :=
    Nbt.readRoot_settles.mapError wrapped
  have root := inner.map fun root => some root.compound
  refine Wire.readVarUInt32_settles.bind fun marker => .ite ?_ ?_
  · refine Wire.readByte_settles.bind fun version => .ite ?_ root
    exact (Settles.throw _).bind fun _ => root
  · have passed : Wire.Settled (Decoder.take marker.toNat (.tooShort marker.toNat)) :=
      .take _ fun _ => rfl
    exact passed.bind fun _ => .pure none

theorem readNames_settles : Wire.Settled readNames := by
  have names (count : Nat) : Wire.Settled (Wire.readCounted count Wire.readString) :=
    Wire.readCounted_settles Wire.readString_settles ⟨_, rfl⟩ count
  refine Wire.readVarInt32_settles.bind fun count => .ite ?_ (names _)
  exact (Settles.throw _).bind fun _ => names _

theorem read_settles : Wire.Settled read := by
  refine Wire.readVarInt32_settles.bind fun typeId => .ite (.pure empty) ?_
  refine Wire.readUInt16_settles.bind fun count => ?_
  refine Wire.readVarUInt32_settles.bind fun metadata => ?_
  refine readStackId_settles.bind fun stackId => ?_
  refine Wire.readVarInt32_settles.bind fun blockTypeId => ?_
  refine readUserData_settles.bind fun userData => ?_
  refine readNames_settles.bind fun canPlaceOn => ?_
  exact readNames_settles.bind fun canDestroy => .pure _

end Item

section Windows

theorem OpenedContainer.read_settles : Wire.Settled OpenedContainer.read := by
  refine Wire.readByte_settles.bind fun window => Wire.readByte_settles.bind fun type => ?_
  refine BlockPos.read_settles.bind fun position => ?_
  exact Wire.readVarInt64_settles.map (OpenedContainer.mk window type position)

theorem ClosedContainer.read_settles : Wire.Settled ClosedContainer.read :=
  Wire.readByte_settles.bind fun window => Wire.readBool_settles.map (ClosedContainer.mk window)

theorem WindowContent.read_settles : Wire.Settled WindowContent.read := by
  have items := Wire.readList_settles Item.read_settles ⟨_, rfl⟩
  exact Wire.readVarUInt32_settles.bind fun number => items.map (WindowContent.mk number)

end Windows

section Requests

theorem SlotRef.read_settles : Wire.Settled SlotRef.read := by
  refine Wire.readByte_settles.bind fun number => ?_
  split
  · exact .throw _
  · next role _ =>
      refine Wire.readByte_settles.bind fun slot => ?_
      exact Wire.readVarInt32_settles.map (SlotRef.mk role slot)

theorem StackAction.readFields_settles (typeNumber : UInt8) :
    Wire.Settled (readFields typeNumber) := by
  have moved (make : UInt8 → SlotRef → SlotRef → StackAction) : Wire.Settled (do
      return make (← Wire.readByte) (← SlotRef.read) (← SlotRef.read)) :=
    Wire.readByte_settles.bind fun count => SlotRef.read_settles.bind fun source =>
      SlotRef.read_settles.map (make count source)
  have removed (make : UInt8 → SlotRef → StackAction) : Wire.Settled (do
      return make (← Wire.readByte) (← SlotRef.read)) :=
    Wire.readByte_settles.bind fun count => SlotRef.read_settles.map (make count)
  unfold readFields
  split
  · exact moved .take
  · exact moved .place
  · exact SlotRef.read_settles.bind fun source =>
      SlotRef.read_settles.map (StackAction.swap source)
  · exact Wire.readByte_settles.bind fun count => SlotRef.read_settles.bind fun source =>
      Wire.readBool_settles.map (StackAction.drop count source)
  · exact removed .destroy
  · exact removed .consume
  · exact Wire.readByte_settles.map StackAction.create
  · exact Wire.readVarUInt32_settles.map StackAction.craftRecipe
  · have ingredients := Wire.readList_settles Wire.readByte_settles ⟨_, rfl⟩
    exact Wire.readVarUInt32_settles.bind fun recipe => Wire.readByte_settles.bind fun times =>
      ingredients.map (StackAction.craftRecipeAuto recipe times)
  · exact Wire.readVarUInt32_settles.map StackAction.craftCreative
  · exact Wire.readVarUInt32_settles.bind fun recipe =>
      Wire.readVarInt32_settles.map (StackAction.craftRecipeOptional recipe)
  · exact Wire.readVarUInt32_settles.map StackAction.craftGrindstone
  · exact Wire.readString_settles.map StackAction.craftLoom
  · exact .throw _

theorem StackAction.read_settles : Wire.Settled StackAction.read :=
  Wire.readByte_settles.bind StackAction.readFields_settles

theorem StackRequest.read_settles : Wire.Settled StackRequest.read := by
  have actions := Wire.readList_settles StackAction.read_settles ⟨_, rfl⟩
  have filterStrings := Wire.readList_settles Wire.readString_settles ⟨_, rfl⟩
  refine Wire.readVarInt32_settles.bind fun id => actions.bind fun actions => ?_
  exact filterStrings.bind fun filterStrings =>
    Wire.readVarInt32_settles.map (StackRequest.mk id actions filterStrings)

theorem StackRequest.readPacket_settles : Wire.Settled StackRequest.readPacket :=
  Wire.readList_settles StackRequest.read_settles ⟨_, rfl⟩

end Requests

section Responses

theorem SlotAck.read_settles : Wire.Settled SlotAck.read := by
  refine Wire.readByte_settles.bind fun slot => Wire.readByte_settles.bind fun hotbarSlot => ?_
  refine Wire.readByte_settles.bind fun count => Wire.readVarInt32_settles.bind fun stackId => ?_
  exact Wire.readString_settles.bind fun name =>
    Wire.readVarInt32_settles.map (SlotAck.mk slot hotbarSlot count stackId name)

theorem RoleAcks.read_settles : Wire.Settled RoleAcks.read := by
  have acks := Wire.readList_settles SlotAck.read_settles ⟨_, rfl⟩
  exact Wire.readByte_settles.bind fun role => Wire.readVarUInt32_settles.bind fun dynamicId =>
    acks.map (RoleAcks.mk role dynamicId)

theorem StackResponse.read_settles : Wire.Settled StackResponse.read := by
  have groups := Wire.readList_settles RoleAcks.read_settles ⟨_, rfl⟩
  refine Wire.readByte_settles.bind fun status => Wire.readVarInt32_settles.bind fun id => ?_
  exact .ite (groups.map (StackResponse.mk status id)) (.pure (StackResponse.mk status id []))

theorem StackResponse.readPacket_settles : Wire.Settled StackResponse.readPacket :=
  Wire.readList_settles StackResponse.read_settles ⟨_, rfl⟩

end Responses

section Packets

theorem ServerPacket.readBody_settles (id : UInt32) :
    Wire.Settled (ServerPacket.readBody id) := by
  refine .ite ?_ (.ite ?_ (.ite ?_ (.ite ?_ ?_)))
  · exact WindowContent.read_settles.map ServerPacket.windowContent
  · exact OpenedContainer.read_settles.map ServerPacket.containerOpened
  · exact ClosedContainer.read_settles.map ServerPacket.containerClosed
  · exact StackResponse.readPacket_settles.map ServerPacket.stackResponses
  · exact .throw _

theorem ServerPacket.read_settles : Wire.Settled ServerPacket.read :=
  Wire.readVarUInt32_settles.bind ServerPacket.readBody_settles

theorem ClientPacket.read_settles : Wire.Settled ClientPacket.read := by
  refine Wire.readVarUInt32_settles.bind fun id => ?_
  refine .ite (StackRequest.readPacket_settles.map ClientPacket.stackRequests) (.ite ?_ (.throw _))
  exact ClosedContainer.read_settles.map ClientPacket.closeContainer

end Packets

theorem WireFormat.read_settles (format : WireFormat) : Wire.Settled format.read := by
  cases format with
  | varInt32 => exact Wire.readVarInt32_settles
  | varUInt32 => exact Wire.readVarUInt32_settles
  | varInt64 => exact Wire.readVarInt64_settles
  | blockPos => exact BlockPos.read_settles
  | item => exact Item.read_settles
  | windowContent => exact WindowContent.read_settles
  | openedContainer => exact OpenedContainer.read_settles
  | closedContainer => exact ClosedContainer.read_settles
  | slotRef => exact SlotRef.read_settles
  | stackAction => exact StackAction.read_settles
  | stackRequest => exact StackRequest.read_settles
  | requestPacket => exact StackRequest.readPacket_settles
  | slotAck => exact SlotAck.read_settles
  | roleAcks => exact RoleAcks.read_settles
  | stackResponse => exact StackResponse.read_settles
  | responsePacket => exact StackResponse.readPacket_settles
  | serverPacket => exact ServerPacket.read_settles
  | clientPacket => exact ClientPacket.read_settles

/-- No reader mistakes bytes that were cut off for a value or for a fault, and none looks past
the value or the fault that it finds. -/
theorem readers_are_prefix_stable :
    PrefixStable (· = Nbt.Error.unexpectedEnd) Nbt.readRoot ∧
      (∀ format : WireFormat,
        PrefixStable (fun failure : Wire.Error => failure.isTruncation) format.read) ∧
      (∀ id, PrefixStable (fun failure : Wire.Error => failure.isTruncation)
        (ServerPacket.readBody id)) ∧
      PrefixStable (fun failure : Wire.Error => failure.isTruncation) Wire.readBool ∧
      PrefixStable (fun failure : Wire.Error => failure.isTruncation) Wire.readString :=
  ⟨Nbt.readRoot_settles.prefixStable, fun format => format.read_settles.prefixStable,
    fun id => (ServerPacket.readBody_settles id).prefixStable,
    Wire.readBool_settles.prefixStable, Wire.readString_settles.prefixStable⟩

end InventorySync
