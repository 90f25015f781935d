import InventorySync.Proofs.NbtNormalForm

/-!
How much can be read from so many bytes. Lengths in the input are only claims: every value that
a claim stands for has to be there, and takes a byte at least, so there are fewer values than
bytes. The depth is bounded by the levels that the reader has, and neither the types of a list
nor the length of a text are free.
-/

namespace InventorySync.Nbt

set_option autoImplicit false

section Counting

mutual

/-- What holds of a tag as soon as it holds of the tags inside of it holds of every tag. -/
theorem Tag.inside_induction {property : Tag → Prop}
    (step : ∀ tag : Tag, (∀ first ∈ tag.inside, property first) → property tag) :
    (tag : Tag) → property tag
  | .list elements => step _ (elements_induction step elements)
  | .compound entries => step _ (entries_induction step entries)
  | .byte _ | .short _ | .int _ | .long _ | .float _ | .double _ | .byteArray _ | .string _
  | .intArray _ | .longArray _ => step _ (List.forall_mem_nil _)

theorem elements_induction {property : Tag → Prop}
    (step : ∀ tag : Tag, (∀ first ∈ tag.inside, property first) → property tag) :
    (elements : List Tag) → ∀ first ∈ elements, property first
  | [] => List.forall_mem_nil _
  | first :: others => List.forall_mem_cons.2
      ⟨Tag.inside_induction step first, elements_induction step others⟩

theorem entries_induction {property : Tag → Prop}
    (step : ∀ tag : Tag, (∀ first ∈ tag.inside, property first) → property tag) :
    (entries : Compound) → ∀ first ∈ entries.map Prod.snd, property first
  | [] => List.forall_mem_nil _
  | (_, first) :: others => List.forall_mem_cons.2
      ⟨Tag.inside_induction step first, entries_induction step others⟩

end

mutual

/-- How many values a tag consists of: itself, every tag inside of it, and every element of an
array. -/
def Tag.valueCount : Tag → Nat
  | .list elements => 1 + elementValueCount elements
  | .compound entries => 1 + entryValueCount entries
  | .byteArray values => 1 + values.length
  | .intArray values => 1 + values.length
  | .longArray values => 1 + values.length
  | _ => 1

def elementValueCount : List Tag → Nat
  | [] => 0
  | first :: others => first.valueCount + elementValueCount others

def entryValueCount : List (String × Tag) → Nat
  | [] => 0
  | (_, first) :: others => first.valueCount + entryValueCount others

end

theorem elementValueCount_le {elements : List Tag}
    (each : ∀ tag ∈ elements, tag.valueCount ≤ tag.encode.length) :
    elementValueCount elements ≤ (encodeElements elements).length := by
  induction elements with
  | nil => exact Nat.le_refl 0
  | cons first others induction =>
      obtain ⟨here, there⟩ := List.forall_mem_cons.1 each
      rw [elementValueCount, encodeElements, List.length_append]
      exact Nat.add_le_add here (induction there)

/-- The end of a compound takes one byte more. -/
theorem entryValueCount_lt {entries : Compound}
    (each : ∀ tag ∈ entries.map Prod.snd, tag.valueCount ≤ tag.encode.length) :
    entryValueCount entries < (encodeEntries entries).length := by
  induction entries with
  | nil => exact Nat.one_pos
  | cons entry others induction =>
      obtain ⟨name, first⟩ := entry
      obtain ⟨here, there⟩ := List.forall_mem_cons.1 each
      have later := induction there
      dsimp only at here
      rw [entryValueCount, encodeEntries, List.length_cons, List.length_append,
        List.length_append]
      omega

/-- No number of an array is written in nothing. -/
theorem length_le_array {α : Type} {encode : α → Bytes} {width : Nat} (some : 0 < width)
    (digits : ∀ value, (encode value).length = width) (values : List α) :
    1 + values.length ≤ (encodeLength values.length ++ values.flatMap encode).length := by
  have row : values.length ≤ (values.flatMap encode).length := by
    induction values with
    | nil => exact Nat.le_refl 0
    | cons first others induction =>
        rw [List.flatMap_cons, List.length_cons, List.length_append, digits]
        omega
  rw [List.length_append, length_encodeLength]
  omega

/-- Every value takes a byte at least. -/
theorem Tag.valueCount_le (tag : Tag) : tag.valueCount ≤ tag.encode.length := by
  induction tag using Tag.inside_induction with
  | step tag each =>
      cases tag with
      | list elements =>
          have row : elementValueCount elements ≤ (encodeElements elements).length :=
            elementValueCount_le each
          rw [valueCount, encode, List.length_cons, List.length_append, length_encodeLength]
          omega
      | compound entries =>
          have row : entryValueCount entries < (encodeEntries entries).length :=
            entryValueCount_lt each
          rw [valueCount, encode]
          omega
      | byteArray values =>
          have row := @length_le_array Int8 (fun value => [value.toUInt8]) 1 Nat.one_pos
            (fun _ => rfl) values
          rw [← List.map_eq_flatMap] at row
          exact row
      | intArray values => exact length_le_array (by decide) length_encodeInt32 values
      | longArray values => exact length_le_array (by decide) length_encodeInt64 values
      -- A leaf counts as one, and its first byte is there whatever its value is.
      | _ => exact Nat.succ_le_succ (Nat.zero_le _)

end Counting

section Depth

theorem elementDepth_le {elements : List Tag} {bound : Nat}
    (each : ∀ tag ∈ elements, tag.depth ≤ bound) : elementDepth elements ≤ bound := by
  induction elements with
  | nil => exact Nat.zero_le bound
  | cons first others induction =>
      obtain ⟨here, there⟩ := List.forall_mem_cons.1 each
      rw [elementDepth]
      exact Nat.max_le.2 ⟨here, induction there⟩

theorem entryDepth_eq (entries : Compound) :
    entryDepth entries = elementDepth (entries.map Prod.snd) := by
  induction entries with
  | nil => rfl
  | cons entry others induction => rw [entryDepth, induction, List.map_cons, elementDepth]

/-- A leaf is one level, and anything else is one level more than what is inside of it. -/
theorem Tag.depth_eq (tag : Tag) : tag.depth = 1 + elementDepth tag.inside := by
  cases tag with
  | compound entries => rw [depth, entryDepth_eq, inside]
  | _ => rfl

theorem Tag.depth_le_of_fitsIn {levels : Nat} {tag : Tag} (fits : tag.FitsIn levels) :
    tag.depth ≤ levels := by
  induction levels generalizing tag with
  | zero => exact absurd fits not_fitsIn_zero
  | succ levels induction =>
      obtain ⟨-, inner⟩ := fitsIn_succ.1 fits
      have below : elementDepth tag.inside ≤ levels :=
        elementDepth_le fun first member => induction (inner first member)
      rw [depth_eq]
      omega

end Depth

/-- A root that is in proportion to the bytes that it was read from. -/
structure Root.InProportion (root : Root) (size : Nat) : Prop where
  count : (Tag.compound root.compound).valueCount < size
  /-- The elements of a list have one type. -/
  uniform : ∀ distance elements, (Tag.compound root.compound).Holds distance (.list elements) →
    ∀ first ∈ elements, ∀ second ∈ elements, first.typeNumber = second.typeNumber
  name : (utf8Bytes root.name).length ≤ 65535
  names : ∀ distance entries, (Tag.compound root.compound).Holds distance (.compound entries) →
    ∀ entry ∈ entries, (utf8Bytes entry.1).length ≤ 65535
  texts : ∀ distance content, (Tag.compound root.compound).Holds distance (.string content) →
    (utf8Bytes content).length ≤ 65535
  /-- The root is one level, and its entries begin the next. -/
  depth : (Tag.compound root.compound).depth ≤ 514

/-- What can be written is in proportion to its written form. -/
theorem Root.inProportion_encode {root : Root} (writable : root.Writable)
    (shallow : root.Shallow) : root.InProportion root.encode.length := by
  obtain ⟨name, plain⟩ := Root.writable_iff.1 writable
  constructor
  case count =>
    have compound := (Tag.compound root.compound).valueCount_le
    rw [Root.length_encode]
    omega
  case uniform => exact fun distance elements held => (plain distance _ held).2
  case name => exact name
  case names => exact fun distance entries held => (plain distance _ held).short
  case texts => exact fun distance content held => plain distance _ held
  case depth => exact Tag.depth_le_of_fitsIn (Root.shallow_iff.1 shallow)

theorem Root.InProportion.grow {root : Root} {size larger : Nat}
    (proportion : root.InProportion size) (order : size ≤ larger) : root.InProportion larger :=
  { proportion with count := Nat.lt_of_lt_of_le proportion.count order }

/-- Whatever lengths the input claims, what is read is in proportion to the bytes that were taken
for it. -/
theorem read_roots_are_in_proportion {input rest : Bytes} {root : Root}
    (succeeds : readRoot input = .ok (root, rest)) :
    ∃ taken, input = taken ++ rest ∧ root.InProportion taken.length := by
  obtain ⟨taken, rfl, -⟩ := readRoot_settles.accepts succeeds
  obtain ⟨size, split, ⟨writable, shallow⟩, room⟩ := readRoot_shrinks succeeds
  have same : taken.length = size := by
    rw [List.length_append] at split
    omega
  refine ⟨taken, rfl, ?_⟩
  rw [same]
  exact (Root.inProportion_encode writable shallow).grow room

/-- Three numbers, inside of so many lists. -/
def buried : Nat → Tag
  | 0 => .intArray [1, 2, 3]
  | lists + 1 => .list [buried lists]

def buriedRoot (lists : Nat) : Root := ⟨"", [("deep", buried lists)]⟩

/-- The bound on the depth is met: leaves are still read so deep. -/
theorem deepest_root_is_in_proportion :
    readRoot ((buriedRoot 512).encode ++ [7]) = .ok (buriedRoot 512, [7]) ∧
      (∃ taken, (buriedRoot 512).encode ++ [7] = taken ++ [7] ∧
        (buriedRoot 512).InProportion taken.length) ∧
      (Tag.compound (buriedRoot 512).compound).depth = 514 ∧
      (Tag.compound (buriedRoot 512).compound).valueCount = 517 := by
  have readable : (buriedRoot 512).Writable ∧ (buriedRoot 512).Shallow := by decide +kernel
  have back := (Root.read_back_unless_too_deep readable.1 ⟨rfl, .refl _⟩ [7]).1 readable.2
  exact ⟨back, read_roots_are_in_proportion back, by decide +kernel, by decide +kernel⟩

end InventorySync.Nbt
