import InventorySync.Proofs.NbtShape
import InventorySync.Proofs.Reading

/-!
Writing named binary tags and reading them again. A reader with so many levels left gives
back every tag that fits in them, and refuses every other one because of its depth, however
the entries of the compounds are ordered.
-/

namespace InventorySync.Nbt

set_option autoImplicit false

open Decoder

section Leaves

theorem readUnsigned_reads {width number : Nat} (bounded : number < 256 ^ width) :
    Reads (readUnsigned width) (littleEndianBytes width number) number := by
  have digits : Reads (readUnsigned width) (littleEndianBytes width number)
      (number % 256 ^ width) := Reads.unsigned width number
  rw [Nat.mod_eq_of_lt bounded] at digits
  exact digits

/-- A number is read back from its digits and turned into what it stands for. -/
theorem readNumber_reads {α : Type} {width number : Nat} {value : α} (back : Nat → α)
    (bounded : number < 256 ^ width) (same : back number = value) :
    Reads (do return back (← readUnsigned width)) (littleEndianBytes width number) value := by
  rw [← same]
  exact (readUnsigned_reads bounded).map back

theorem readInt8_reads (value : Int8) : Reads readInt8 [value.toUInt8] value := by
  have bits : Reads readByte [value.toUInt8] value.toUInt8 := Reads.byte _
  exact bits.map UInt8.toInt8

theorem readInt32_reads (value : Int32) : Reads readInt32 (encodeInt32 value) value :=
  readNumber_reads (fun digits => (UInt32.ofNat digits).toInt32) value.toUInt32.toNat_lt
    (congrArg UInt32.toInt32 UInt32.ofNat_toNat)

theorem readInt64_reads (value : Int64) : Reads readInt64 (encodeInt64 value) value :=
  readNumber_reads (fun digits => (UInt64.ofNat digits).toInt64) value.toUInt64.toNat_lt
    (congrArg UInt64.toInt64 UInt64.ofNat_toNat)

theorem readString_reads {content : String} (short : ShortText content) :
    Reads readString (encodeString content) content := by
  have width : (utf8Bytes content).length < 256 ^ 2 := Nat.lt_succ_of_le short
  exact (readUnsigned_reads width).bind (Reads.text content)

theorem readLength_reads {length : Nat} (bounded : length < 2 ^ 31) :
    Reads readLength (encodeLength length) length := by
  obtain ⟨natural, same⟩ := length_of_int32 bounded
  have digits : encodeLength length = encodeInt32 (Int32.ofNat length) := by
    have width : length < UInt32.size := Nat.lt_trans bounded (by decide)
    unfold encodeLength encodeInt32
    rw [Int32.toUInt32_ofNat', UInt32.toNat_ofNat_of_lt' width]
  rw [digits]
  intro rest
  unfold readLength
  rw [bind_of_ok (readInt32_reads _ rest), if_neg natural, same]
  rfl

theorem readArray_reads {α : Type} {reader : Reader α} {encode : α → Bytes} {values : List α}
    (bounded : values.length < 2 ^ 31)
    (each : ∀ value ∈ values, Reads reader (encode value) value) :
    Reads (readArray reader) (encodeLength values.length ++ values.flatMap encode) values :=
  (readLength_reads bounded).bind (Reads.replicate each)

end Leaves

section Containers

theorem encodeElements_eq (elements : List Tag) :
    encodeElements elements = elements.flatMap Tag.encode := by
  induction elements with
  | nil => rfl
  | cons first others induction => rw [encodeElements, induction, List.flatMap_cons]

/-- One entry of a compound as it is written. -/
def encodeEntry (entry : String × Tag) : Bytes :=
  entry.2.typeNumber :: (encodeString entry.1 ++ entry.2.encode)

theorem encodeEntries_eq (entries : Compound) :
    encodeEntries entries = entries.flatMap encodeEntry ++ [endTypeNumber] := by
  induction entries with
  | nil => rfl
  | cons first others induction =>
      obtain ⟨name, tag⟩ := first
      rw [encodeEntries, induction, List.flatMap_cons, encodeEntry]
      simp only [List.cons_append, List.append_assoc]

theorem typeNumber_ne_end (tag : Tag) : tag.typeNumber ≠ endTypeNumber := by
  cases tag <;> simp [Tag.typeNumber, endTypeNumber]

variable {levels : Nat}

theorem readEntry_readsIf {name : String} {tag : Tag} (short : ShortText name)
    (inner : ReadsIf (tag.FitsIn levels) .nestingTooDeep (readTag levels tag.typeNumber)
      tag.encode tag) :
    ReadsIf (tag.FitsIn levels) .nestingTooDeep (readEntry (readTag levels))
      (encodeEntry (name, tag)) (some (name, tag)) := by
  have typed : Reads readByte [tag.typeNumber] tag.typeNumber := Reads.byte _
  refine .after typed ?_
  rw [if_neg (typeNumber_ne_end tag)]
  exact .after (readString_reads short) (inner.map fun found => some (name, found))

theorem readEntries_readsIf {entries : Compound} (named : entries.Named)
    (inner : ∀ entry ∈ entries, ReadsIf (entry.2.FitsIn levels) .nestingTooDeep
      (readTag levels entry.2.typeNumber) entry.2.encode entry.2) :
    ReadsIf (∀ entry ∈ entries, entry.2.FitsIn levels) .nestingTooDeep
      (readEntries (readTag levels)) (encodeEntries entries) entries := by
  have stops : Reads (readEntry (readTag levels)) [endTypeNumber] none := fun _ => rfl
  have listed : ReadsIf (∀ entry ∈ entries, entry.2.FitsIn levels) .nestingTooDeep
      (repeatUntilNone (readEntry (readTag levels)) .unexpectedEnd) (encodeEntries entries)
      entries := by
    rw [encodeEntries_eq]
    refine .repeatUntilNone stops ?_ fun entry _ => List.cons_ne_nil _ _
    intro entry member
    exact readEntry_readsIf (named.short entry member) (inner entry member)
  have distinct := listed.map Compound.ofEntries
  rw [Compound.ofEntries_of_nodup named.distinct] at distinct
  exact distinct

theorem readList_readsIf {elements : List Tag} (plain : (Tag.list elements).Plain)
    (inner : ∀ tag ∈ elements, ReadsIf (tag.FitsIn levels) .nestingTooDeep
      (readTag levels tag.typeNumber) tag.encode tag) :
    ReadsIf ((Tag.list elements).FitsIn (levels + 1)) .nestingTooDeep
      (readTag (levels + 1) 9) (Tag.list elements).encode (Tag.list elements) := by
  obtain ⟨bounded, homogeneous⟩ := plain
  -- The type of the first element is announced for all of them; of an empty list it is the end
  -- type, which no element is then read with.
  generalize announced : (elements.head?.map Tag.typeNumber).getD endTypeNumber = elementType
  have same : ∀ tag ∈ elements, tag.typeNumber = elementType := by
    intro tag member
    cases elements with
    | nil => cases member
    | cons first others =>
        rw [← announced]
        exact homogeneous tag member first List.mem_cons_self
  have listed : ReadsIf (∀ tag ∈ elements, tag.FitsIn levels) .nestingTooDeep
      (readArray (readTag levels elementType))
      (encodeLength elements.length ++ encodeElements elements) elements := by
    rw [encodeElements_eq]
    refine .after (readLength_reads bounded) (.replicate ?_)
    intro tag member
    rw [← same tag member]
    exact inner tag member
  have typed : Reads readByte [elementType] elementType := Reads.byte _
  rw [Tag.encode, announced]
  refine ReadsIf.congr ?_ (.after typed (listed.map Tag.list))
  have simple : (9 : UInt8) ≠ compoundTypeNumber := by decide
  exact ⟨fun fit => Tag.fitsIn_succ.2 ⟨fun compound => absurd compound simple, fit⟩,
    fun fit => (Tag.fitsIn_succ.1 fit).2⟩

/-- Even a compound without entries takes a level for its end. -/
theorem readCompound_readsIf {entries : Compound} (named : entries.Named)
    (inner : ∀ entry ∈ entries, ReadsIf (entry.2.FitsIn levels) .nestingTooDeep
      (readTag levels entry.2.typeNumber) entry.2.encode entry.2) :
    ReadsIf ((Tag.compound entries).FitsIn (levels + 1)) .nestingTooDeep
      (readTag (levels + 1) 10) (Tag.compound entries).encode (Tag.compound entries) := by
  rw [Tag.encode]
  cases levels with
  | zero =>
      refine ⟨fun fit => ?_, fun _ _ => rfl⟩
      exact absurd ((Tag.fitsIn_succ.1 fit).1 rfl) (Nat.lt_irrefl 0)
  | succ levels =>
      refine ReadsIf.congr ?_ ((readEntries_readsIf named inner).map Tag.compound)
      rw [Tag.fitsIn_succ, Tag.inside, List.forall_mem_map]
      exact ⟨fun fit => ⟨fun _ => Nat.succ_pos levels, fit⟩, And.right⟩

theorem readLeaf_readsIf {tag : Tag} {reader : Reader Tag} (single : tag.inside = [])
    (simple : tag.typeNumber ≠ compoundTypeNumber) (reads : Reads reader tag.encode tag) :
    ReadsIf (tag.FitsIn (levels + 1)) .nestingTooDeep reader tag.encode tag := by
  refine .of_reads (Tag.fitsIn_succ.2 ⟨fun compound => absurd compound simple, ?_⟩) reads
  rw [single]
  exact List.forall_mem_nil _

/-- A tag is read back exactly if there are levels enough, and the depth is the only reason
to refuse one. -/
theorem readTag_readsIf (levels : Nat) (tag : Tag) (writable : tag.Writable) :
    ReadsIf (tag.FitsIn levels) .nestingTooDeep (readTag levels tag.typeNumber) tag.encode
      tag := by
  -- On the levels, as the reader counts them: a tag inside is read with one level less, and
  -- at the last one every tag is refused, whatever it is.
  induction levels generalizing tag with
  | zero => exact ⟨fun fits => absurd fits Tag.not_fitsIn_zero, fun _ _ => rfl⟩
  | succ levels induction =>
      obtain ⟨plain, inner⟩ := Tag.writable_iff.1 writable
      cases tag with
      | list elements =>
          exact readList_readsIf plain fun tag member => induction tag (inner tag member)
      | compound entries =>
          exact readCompound_readsIf plain fun entry member =>
            induction entry.2 (inner entry.2 (List.mem_map_of_mem member))
      | byte value =>
          exact readLeaf_readsIf rfl (by decide : (1 : UInt8) ≠ 10)
            ((readInt8_reads value).map Tag.byte)
      | short value =>
          exact readLeaf_readsIf rfl (by decide : (2 : UInt8) ≠ 10)
            (readNumber_reads (fun digits => Tag.short (UInt16.ofNat digits).toInt16)
              value.toUInt16.toNat_lt
              (congrArg (Tag.short ∘ UInt16.toInt16) UInt16.ofNat_toNat))
      | int value =>
          exact readLeaf_readsIf rfl (by decide : (3 : UInt8) ≠ 10)
            ((readInt32_reads value).map Tag.int)
      | long value =>
          exact readLeaf_readsIf rfl (by decide : (4 : UInt8) ≠ 10)
            ((readInt64_reads value).map Tag.long)
      | float bits =>
          exact readLeaf_readsIf rfl (by decide : (5 : UInt8) ≠ 10)
            (readNumber_reads (Tag.float ∘ UInt32.ofNat) bits.toNat_lt
              (congrArg Tag.float UInt32.ofNat_toNat))
      | double bits =>
          exact readLeaf_readsIf rfl (by decide : (6 : UInt8) ≠ 10)
            (readNumber_reads (Tag.double ∘ UInt64.ofNat) bits.toNat_lt
              (congrArg Tag.double UInt64.ofNat_toNat))
      | byteArray values =>
          have array := readArray_reads plain fun value _ => readInt8_reads value
          rw [← List.map_eq_flatMap] at array
          exact readLeaf_readsIf rfl (by decide : (7 : UInt8) ≠ 10) (array.map Tag.byteArray)
      | string value =>
          exact readLeaf_readsIf rfl (by decide : (8 : UInt8) ≠ 10)
            ((readString_reads plain).map Tag.string)
      | intArray values =>
          have array := readArray_reads plain fun value _ => readInt32_reads value
          exact readLeaf_readsIf rfl (by decide : (11 : UInt8) ≠ 10) (array.map Tag.intArray)
      | longArray values =>
          have array := readArray_reads plain fun value _ => readInt64_reads value
          exact readLeaf_readsIf rfl (by decide : (12 : UInt8) ≠ 10) (array.map Tag.longArray)

end Containers

namespace Root

variable {root written : Root}

theorem readRoot_readsIf (writable : root.Writable) :
    ReadsIf root.Shallow .nestingTooDeep readRoot root.encode root := by
  obtain ⟨name, inner⟩ := Root.writable_iff.1 writable
  have entries : ∀ entry ∈ root.compound, entry.2.Writable := fun entry member =>
    (Tag.writable_iff.1 inner).2 entry.2 (List.mem_map_of_mem member)
  have compound := readEntries_readsIf writable.entries fun entry member =>
    readTag_readsIf (deepestLevel + 1) entry.2 (entries entry member)
  have typed : Reads readByte [compoundTypeNumber] compoundTypeNumber := Reads.byte _
  refine ReadsIf.congr ?_
    (.after typed (.after (readString_reads name) (compound.map (Root.mk root.name))))
  rw [Root.shallow_iff, Tag.fitsIn_succ, Tag.inside, List.forall_mem_map]
  exact ⟨fun fit => ⟨fun _ => by decide, fit⟩, And.right⟩

/-- The root is read back, in whatever order its entries are written. -/
def RoundTrips (root : Root) : Prop :=
  ∀ written, root.Reorders written → Reads readRoot written.encode written

theorem roundTrips_of_shallow (writable : root.Writable) (shallow : root.Shallow) :
    root.RoundTrips := fun _ order =>
  (readRoot_readsIf (order.writable writable)).reads (order.shallow_iff.1 shallow)

/-- In whatever order the entries of a root are written, and whatever follows it, the root is
read back as it was written if no tag is too deep; otherwise the depth is what is wrong. -/
theorem read_back_unless_too_deep (writable : root.Writable) (order : root.Reorders written)
    (tail : Bytes) :
    (root.Shallow → readRoot (written.encode ++ tail) = .ok (written, tail)) ∧
      (¬root.Shallow → readRoot (written.encode ++ tail) = .error .nestingTooDeep) := by
  have reading := readRoot_readsIf (order.writable writable)
  refine ⟨fun shallow => reading.reads (order.shallow_iff.1 shallow) tail, ?_⟩
  intro deep
  exact reading.refuses (fun shallow => deep (order.shallow_iff.2 shallow)) tail

example : Error.message .nestingTooDeep = "nesting too deep (limit: 512)" := by decide +kernel

end Root

section Limit

/-- A compound without entries, inside of so many lists. -/
def nested : Nat → Tag
  | 0 => .compound []
  | lists + 1 => .list [nested lists]

def nestedRoot (lists : Nat) : Root := ⟨"nested", [("deep", nested lists), ("flat", .byte 1)]⟩

/-- The same, with the two entries in the other order. -/
def nestedRootTurned (lists : Nat) : Root :=
  ⟨"nested", [("flat", .byte 1), ("deep", nested lists)]⟩

theorem nestedRoot_reorders (lists : Nat) :
    (nestedRoot lists).Reorders (nestedRootTurned lists) :=
  ⟨rfl, .entries (List.Perm.swap _ _ _)⟩

theorem nested_root_read_back_up_to_the_limit :
    readRoot ((nestedRootTurned 511).encode ++ [7]) = .ok (nestedRootTurned 511, [7]) ∧
      readRoot ((nestedRootTurned 512).encode ++ [7]) = .error .nestingTooDeep := by
  have shallow : (nestedRoot 511).Writable ∧ (nestedRoot 511).Shallow := by decide +kernel
  have deep : (nestedRoot 512).Writable ∧ ¬(nestedRoot 512).Shallow := by decide +kernel
  have back := Root.read_back_unless_too_deep shallow.1 (nestedRoot_reorders 511) [7]
  have refused := Root.read_back_unless_too_deep deep.1 (nestedRoot_reorders 512) [7]
  exact ⟨back.1 shallow.2, refused.2 deep.2⟩

end Limit

end InventorySync.Nbt
