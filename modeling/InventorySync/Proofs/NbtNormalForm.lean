import InventorySync.Proofs.NbtRoundTrip
import InventorySync.Proofs.ReadingCost
import Mathlib.Data.List.Flatten

/-!
Whatever is read as named binary tags can be written, and takes no more bytes then. A name
that occurs again costs its earlier entries, the announced type of an empty list is forgotten,
and everything else is written as it was read. The order of entries takes no part in the
length.
-/

namespace InventorySync.Nbt

set_option autoImplicit false

open Decoder

section Leaves

theorem readByte_answers : Answers readByte fun _ size => size = 1 := .byte

theorem readUnsigned_answers (width : Nat) : Answers (readUnsigned width) fun number size =>
    number < 256 ^ width ∧ size = width := .unsigned width

theorem readUnsigned_takes (width : Nat) :
    Answers (readUnsigned width) fun _ size => size = width :=
  (readUnsigned_answers width).weaken fun _ _ taken => taken.2

theorem readInt8_answers : Answers readInt8 fun _ size => size = 1 :=
  readByte_answers.map fun _ _ one => one

theorem readInt32_answers : Answers readInt32 fun _ size => size = 4 :=
  (readUnsigned_takes 4).map fun _ _ taken => taken

theorem readInt64_answers : Answers readInt64 fun _ size => size = 8 :=
  (readUnsigned_takes 8).map fun _ _ taken => taken

theorem length_encodeInt32 (value : Int32) : (encodeInt32 value).length = 4 :=
  length_littleEndianBytes 4 _

theorem length_encodeInt64 (value : Int64) : (encodeInt64 value).length = 8 :=
  length_littleEndianBytes 8 _

theorem length_encodeLength (length : Nat) : (encodeLength length).length = 4 :=
  length_littleEndianBytes 4 length

theorem length_encodeString (content : String) :
    (encodeString content).length = 2 + (utf8Bytes content).length := by
  change (littleEndianBytes 2 (utf8Bytes content).length ++ utf8Bytes content).length = _
  rw [List.length_append, length_littleEndianBytes]

theorem readString_shrinks : Shrinks readString encodeString ShortText := by
  refine (readUnsigned_answers 2).bind fun count size counted => (Answers.text count).weaken ?_
  rintro content more ⟨length, taken⟩
  refine ⟨?_, ?_⟩
  · unfold ShortText
    rw [length]
    exact Nat.le_of_lt_succ counted.1
  · apply Nat.le_of_eq
    rw [length_encodeString, length, counted.2, taken]

theorem readLength_answers :
    Answers readLength fun length size => length < 2 ^ 31 ∧ size = 4 := by
  refine readInt32_answers.bind fun length size four => .ite (fun _ => ?_) fun natural => ?_
  · exact .failing _
  · refine .pure ⟨?_, four⟩
    have bounded := length.toInt_lt
    omega

theorem readArray_shrinks {α : Type} {reader : Reader α} {encode : α → Bytes}
    {admitted : α → Prop} (each : Shrinks reader encode admitted) :
    Shrinks (readArray reader)
      (fun values => encodeLength values.length ++ values.flatMap encode)
      fun values => values.length < 2 ^ 31 ∧ ∀ value ∈ values, admitted value := by
  refine readLength_answers.bind fun count size counted =>
    (Answers.replicate each count).weaken ?_
  rintro values more ⟨⟨length, inner⟩, room⟩
  refine ⟨⟨by rw [length]; exact counted.1, inner⟩, ?_⟩
  rw [List.length_append, length_encodeLength, counted.2]
  exact Nat.add_le_add_left room 4

end Leaves

section Compounds

namespace Compound

theorem ofEntries_sublist (entries : List (String × Tag)) :
    (ofEntries entries).Sublist entries := by
  induction entries with
  | nil => exact .slnil
  | cons first others induction =>
      rw [ofEntries]
      split
      · exact induction.cons first
      · exact induction.cons_cons first

theorem nodup_names_ofEntries (entries : List (String × Tag)) :
    ((ofEntries entries).map Prod.fst).Nodup := by
  induction entries with
  | nil => exact List.nodup_nil
  | cons first others induction =>
      obtain ⟨name, tag⟩ := first
      rw [ofEntries]
      split
      · exact induction
      · next fresh =>
          rw [List.map_cons, List.nodup_cons]
          refine ⟨fun again => fresh ?_, induction⟩
          obtain ⟨entry, member, same⟩ := List.mem_map.1 again
          have listed := (ofEntries_sublist others).mem member
          exact List.any_eq_true.2 ⟨entry, listed, decide_eq_true same⟩

end Compound

theorem length_encodeEntries (entries : Compound) :
    (encodeEntries entries).length = (entries.flatMap encodeEntry).length + 1 := by
  rw [encodeEntries_eq, List.length_append, List.length_singleton]

theorem length_encodeEntry (entry : String × Tag) :
    (encodeEntry entry).length = (encodeString entry.1).length + entry.2.encode.length + 1 := by
  rw [encodeEntry, List.length_cons, List.length_append]

/-- The tag has the type and the depth that the reader was told, and can be written. -/
structure Readable (levels : Nat) (typeNumber : UInt8) (tag : Tag) : Prop where
  typed : tag.typeNumber = typeNumber
  writable : tag.Writable
  fitsIn : tag.FitsIn levels

variable {levels : Nat}

theorem readEntry_answers
    (inner : ∀ typeNumber, Shrinks (readTag levels typeNumber) Tag.encode
      (Readable levels typeNumber)) :
    Answers (readEntry (readTag levels)) fun answer size =>
      (∀ entry ∈ answer, ShortText entry.1 ∧ entry.2.Writable ∧ entry.2.FitsIn levels) ∧
        (answer.elim 1 fun entry => (encodeEntry entry).length) ≤ size := by
  refine readByte_answers.bind fun typeNumber size one => .ite (fun _ => ?_) fun _ => ?_
  · exact .pure ⟨fun _ member => (nomatch member), Nat.le_of_eq one.symm⟩
  · refine readString_shrinks.bind fun name more named => ?_
    refine (inner typeNumber).map fun tag rest found => ?_
    have nameRoom := named.2
    have tagRoom := found.2
    refine ⟨?_, ?_⟩
    · intro entry member
      cases member
      exact ⟨named.1, found.1.writable, found.1.fitsIn⟩
    · change (encodeEntry (name, tag)).length ≤ size + (more + rest)
      rw [length_encodeEntry]
      change (encodeString name).length + tag.encode.length + 1 ≤ size + (more + rest)
      omega

theorem readEntries_shrinks
    (inner : ∀ typeNumber, Shrinks (readTag levels typeNumber) Tag.encode
      (Readable levels typeNumber)) :
    Shrinks (readEntries (readTag levels)) encodeEntries fun entries =>
      entries.Named ∧ ∀ entry ∈ entries, entry.2.Writable ∧ entry.2.FitsIn levels := by
  have listed : Answers (repeatUntilNone (readEntry (readTag levels)) .unexpectedEnd)
      fun entries size => (∀ entry ∈ entries,
        ShortText entry.1 ∧ entry.2.Writable ∧ entry.2.FitsIn levels) ∧
          (entries.flatMap encodeEntry).length + 1 ≤ size :=
    .repeatUntilNone (readEntry_answers inner)
  refine listed.map fun entries size read => ?_
  -- Of entries with one name a single one is kept, so the others are not written again.
  have kept := Compound.ofEntries_sublist entries
  refine ⟨⟨⟨fun entry member => (read.1 entry (kept.mem member)).1, ?_⟩, ?_⟩, ?_⟩
  · exact Compound.nodup_names_ofEntries entries
  · exact fun entry member => (read.1 entry (kept.mem member)).2
  · rw [length_encodeEntries]
    exact Nat.le_trans (Nat.succ_le_succ (kept.flatMap encodeEntry).length_le) read.2

end Compounds

section Tags

variable {levels : Nat}

/-- A tag without tags inside is read at the last level as well as at any other. -/
theorem readLeaf_shrinks {α : Type} {reader : Reader α} {claim : α → Nat → Prop}
    {typeNumber : UInt8} (make : α → Tag) (answers : Answers reader claim)
    (simple : typeNumber ≠ compoundTypeNumber)
    (leaf : ∀ value, (make value).inside = [] ∧ (make value).typeNumber = typeNumber)
    (written : ∀ value size, claim value size →
      (make value).Plain ∧ (make value).encode.length ≤ size) :
    Shrinks (do return make (← reader)) Tag.encode (Readable (levels + 1) typeNumber) := by
  refine answers.map fun value size holds => ?_
  obtain ⟨single, typed⟩ := leaf value
  obtain ⟨plain, room⟩ := written value size holds
  have nothing {property : Tag → Prop} : ∀ tag ∈ (make value).inside, property tag := by
    rw [single]
    exact List.forall_mem_nil _
  refine ⟨⟨typed, Tag.writable_iff.2 ⟨plain, nothing⟩, ?_⟩, room⟩
  exact Tag.fitsIn_succ.2 ⟨fun same => absurd (typed.symm.trans same) simple, nothing⟩

/-- A number is written in its width, whatever it is. -/
theorem readScalar_shrinks {α : Type} {reader : Reader α} {width : Nat} {typeNumber : UInt8}
    (make : α → Tag) (answers : Answers reader fun _ size => size = width)
    (simple : typeNumber ≠ compoundTypeNumber)
    (leaf : ∀ value, (make value).inside = [] ∧ (make value).typeNumber = typeNumber)
    (written : ∀ value, (make value).Plain ∧ (make value).encode.length = width) :
    Shrinks (do return make (← reader)) Tag.encode (Readable (levels + 1) typeNumber) := by
  refine readLeaf_shrinks make answers simple leaf fun value size taken => ?_
  rw [taken]
  exact ⟨(written value).1, Nat.le_of_eq (written value).2⟩

/-- An array is a row of numbers, none of which is a tag. -/
theorem readNumbers_shrinks {α : Type} {reader : Reader α} {encode : α → Bytes} {width : Nat}
    {typeNumber : UInt8} (make : List α → Tag) (answers : Answers reader fun _ size => size = width)
    (digits : ∀ value, (encode value).length = width) (simple : typeNumber ≠ compoundTypeNumber)
    (leaf : ∀ values, (make values).inside = [] ∧ (make values).typeNumber = typeNumber)
    (plain : ∀ values, values.length < 2 ^ 31 → (make values).Plain)
    (written : ∀ values, (make values).encode =
      encodeLength values.length ++ values.flatMap encode) :
    Shrinks (do return make (← readArray reader)) Tag.encode
      (Readable (levels + 1) typeNumber) := by
  have each : Shrinks reader encode fun _ => True :=
    answers.weaken fun value size taken =>
      ⟨trivial, Nat.le_of_eq ((digits value).trans taken.symm)⟩
  refine readLeaf_shrinks make (readArray_shrinks each) simple leaf fun values size read => ?_
  rw [written]
  exact ⟨plain values read.1.1, read.2⟩

theorem readList_shrinks {elementType : UInt8}
    (inner : Shrinks (readTag levels elementType) Tag.encode (Readable levels elementType)) :
    Answers (readArray (readTag levels elementType)) fun elements size =>
      Readable (levels + 1) 9 (.list elements) ∧
        (Tag.list elements).encode.length ≤ size + 1 := by
  refine (readArray_shrinks inner).weaken fun elements size read => ?_
  obtain ⟨⟨bounded, each⟩, room⟩ := read
  have homogeneous : ∀ first ∈ elements, ∀ second ∈ elements,
      first.typeNumber = second.typeNumber := fun first one second two =>
    (each first one).typed.trans (each second two).typed.symm
  refine ⟨⟨rfl, ?_, ?_⟩, ?_⟩
  · exact Tag.writable_iff.2 ⟨⟨bounded, homogeneous⟩, fun tag member => (each tag member).writable⟩
  · exact Tag.fitsIn_succ.2 ⟨fun same => absurd same (by decide : (9 : UInt8) ≠ 10),
      fun tag member => (each tag member).fitsIn⟩
  · rw [Tag.encode, encodeElements_eq, List.length_cons]
    exact Nat.succ_le_succ room

theorem readCompound_shrinks
    (inner : ∀ typeNumber, Shrinks (readTag levels typeNumber) Tag.encode
      (Readable levels typeNumber)) (room : 0 < levels) :
    Answers (readEntries (readTag levels)) fun entries size =>
      Readable (levels + 1) 10 (.compound entries) ∧
        (Tag.compound entries).encode.length ≤ size := by
  refine (readEntries_shrinks inner).weaken fun entries size read => ?_
  obtain ⟨⟨named, each⟩, length⟩ := read
  have inside : ∀ tag ∈ (Tag.compound entries).inside, tag.Writable ∧ tag.FitsIn levels :=
    List.forall_mem_map.2 each
  refine ⟨⟨rfl, ?_, ?_⟩, ?_⟩
  · exact Tag.writable_iff.2 ⟨named, fun tag member => (inside tag member).1⟩
  · exact Tag.fitsIn_succ.2 ⟨fun _ => room, fun tag member => (inside tag member).2⟩
  · rw [Tag.encode]
    exact length

/-- Every tag that is read has the announced type, fits into the levels that were left and can
be written in the bytes that it took. -/
theorem readTag_shrinks (levels : Nat) (typeNumber : UInt8) :
    Shrinks (readTag levels typeNumber) Tag.encode (Readable levels typeNumber) := by
  induction levels generalizing typeNumber with
  | zero => exact .throw _
  | succ levels induction =>
      unfold readTag
      split
      · exact readScalar_shrinks Tag.byte readInt8_answers (by decide)
          (fun _ => ⟨rfl, rfl⟩) fun _ => ⟨trivial, rfl⟩
      · exact readScalar_shrinks (fun digits => Tag.short (UInt16.ofNat digits).toInt16)
          (readUnsigned_takes 2) (by decide) (fun _ => ⟨rfl, rfl⟩)
          fun _ => ⟨trivial, length_littleEndianBytes 2 _⟩
      · exact readScalar_shrinks Tag.int readInt32_answers (by decide)
          (fun _ => ⟨rfl, rfl⟩) fun value => ⟨trivial, length_encodeInt32 value⟩
      · exact readScalar_shrinks Tag.long readInt64_answers (by decide)
          (fun _ => ⟨rfl, rfl⟩) fun value => ⟨trivial, length_encodeInt64 value⟩
      · exact readScalar_shrinks (fun digits => Tag.float (UInt32.ofNat digits))
          (readUnsigned_takes 4) (by decide) (fun _ => ⟨rfl, rfl⟩)
          fun _ => ⟨trivial, length_littleEndianBytes 4 _⟩
      · exact readScalar_shrinks (fun digits => Tag.double (UInt64.ofNat digits))
          (readUnsigned_takes 8) (by decide) (fun _ => ⟨rfl, rfl⟩)
          fun _ => ⟨trivial, length_littleEndianBytes 8 _⟩
      · have digits (value : Int8) : [value.toUInt8].length = 1 := rfl
        refine readNumbers_shrinks Tag.byteArray readInt8_answers digits (by decide)
          (fun _ => ⟨rfl, rfl⟩) (fun _ bounded => bounded) fun values => ?_
        rw [Tag.encode, List.map_eq_flatMap]
      · exact readLeaf_shrinks Tag.string readString_shrinks (by decide)
          (fun _ => ⟨rfl, rfl⟩) fun _ _ read => read
      · refine readByte_answers.bind fun elementType size one => ?_
        refine (readList_shrinks (induction elementType)).map fun elements more read => ?_
        rw [one, Nat.add_comm 1 more]
        exact read
      · refine .ite (fun _ => .throw _) fun some => ?_
        exact (readCompound_shrinks induction (Nat.pos_of_ne_zero some)).map fun _ _ read => read
      · exact readNumbers_shrinks Tag.intArray readInt32_answers length_encodeInt32 (by decide)
          (fun _ => ⟨rfl, rfl⟩) (fun _ bounded => bounded) fun _ => rfl
      · exact readNumbers_shrinks Tag.longArray readInt64_answers length_encodeInt64 (by decide)
          (fun _ => ⟨rfl, rfl⟩) (fun _ bounded => bounded) fun _ => rfl
      · exact .throw _

end Tags

section Order

theorem length_encodeElements_replaced (before later : List Tag) {first second : Tag}
    (same : first.encode.length = second.encode.length) :
    (encodeElements (before ++ first :: later)).length =
      (encodeElements (before ++ second :: later)).length := by
  simp only [encodeElements_eq, List.flatMap_append, List.flatMap_cons, List.length_append, same]

theorem length_encodeEntries_replaced (before later : Compound) (name : String)
    {first second : Tag} (same : first.encode.length = second.encode.length) :
    (encodeEntries (before ++ (name, first) :: later)).length =
      (encodeEntries (before ++ (name, second) :: later)).length := by
  simp only [length_encodeEntries, List.flatMap_append, List.flatMap_cons, List.length_append,
    length_encodeEntry, same]

/-- However the entries are ordered, they take the same bytes. -/
theorem Tag.Reorders.length_encode {left right : Tag} (order : left.Reorders right) :
    left.encode.length = right.encode.length := by
  induction order with
  | refl => rfl
  | trans _ _ head tail => exact head.trans tail
  | entries order =>
      rw [Tag.encode, Tag.encode, length_encodeEntries, length_encodeEntries]
      exact congrArg Nat.succ (order.flatMap_right encodeEntry).length_eq
  | element before later _ same =>
      simp only [Tag.encode, List.length_cons, List.length_append, length_encodeLength,
        length_encodeElements_replaced before later same]
  | entry before later name _ same =>
      rw [Tag.encode, Tag.encode]
      exact length_encodeEntries_replaced before later name same

theorem Root.length_encode (root : Root) : root.encode.length =
    (encodeString root.name).length + (Tag.compound root.compound).encode.length + 1 := by
  rw [Root.encode, List.length_cons, List.length_append, Tag.encode]

theorem Root.Reorders.length_encode {root written : Root} (order : root.Reorders written) :
    written.encode.length = root.encode.length := by
  rw [Root.length_encode, Root.length_encode, order.name, order.compound.length_encode]

end Order

section Roots

/-- A root that is read can be written in no more bytes and read back. -/
theorem readRoot_shrinks :
    Shrinks readRoot Root.encode fun root => root.Writable ∧ root.Shallow := by
  refine readByte_answers.bind fun typeNumber size one => .ite (fun _ => ?_) fun _ => ?_
  · exact .failing _
  · refine readString_shrinks.bind fun name more named => ?_
    refine (readEntries_shrinks (readTag_shrinks (deepestLevel + 1))).map ?_
    rintro entries rest ⟨⟨distinct, each⟩, room⟩
    have inside : ∀ tag ∈ (Tag.compound entries).inside,
        tag.Writable ∧ tag.FitsIn (deepestLevel + 1) := List.forall_mem_map.2 each
    refine ⟨⟨?_, ?_⟩, ?_⟩
    · exact Root.writable_iff.2 ⟨named.1, Tag.writable_iff.2 ⟨distinct, fun tag member =>
        (inside tag member).1⟩⟩
    · exact Root.shallow_iff.2 (Tag.fitsIn_succ.2 ⟨fun _ => by decide, fun tag member =>
        (inside tag member).2⟩)
    · have nameRoom := named.2
      rw [Root.length_encode, Tag.encode]
      change (encodeString name).length + (encodeEntries entries).length + 1 ≤ _
      omega

/-- Without its name a root takes no more bytes, and can be written as well. -/
theorem Root.unnamed {root : Root} (writable : root.Writable) :
    (Root.mk "" root.compound).Writable ∧
      (Root.mk "" root.compound).encode.length ≤ root.encode.length := by
  refine ⟨⟨Nat.zero_le _, writable.entries, writable.tags⟩, ?_⟩
  rw [Root.length_encode, Root.length_encode, length_encodeString, length_encodeString]
  apply Nat.succ_le_succ
  apply Nat.add_le_add_right
  exact Nat.add_le_add_left (Nat.zero_le _) 2

end Roots

end InventorySync.Nbt
