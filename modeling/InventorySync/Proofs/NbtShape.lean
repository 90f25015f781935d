import InventorySync.Nbt.Codec
import Mathlib.Algebra.Group.Nat.Defs

/-!
What the written form asks of named binary tags. Its lengths have a width, a list has one
type for all of its elements, and there are levels to count: the elements of a list and the
entries of a compound are one level below it. None of this depends on the order in which
the entries of a compound are written.
-/

namespace InventorySync.Nbt

set_option autoImplicit false

namespace Tag

/-- The tags directly inside of a tag. -/
def inside : Tag → List Tag
  | .list elements => elements
  | .compound entries => entries.map Prod.snd
  | _ => []

/-- A tag somewhere inside of a tag, and the number of levels between them. -/
inductive Holds : Tag → Nat → Tag → Prop where
  | self (tag : Tag) : Holds tag 0 tag
  | deeper {tag first inner : Tag} {depth : Nat} (member : first ∈ tag.inside)
      (holds : Holds first depth inner) : Holds tag (depth + 1) inner

end Tag

/-- A tag in a compound with its level. The entries of the compound are at level zero. -/
def Compound.Holds (compound : Compound) (level : Nat) (tag : Tag) : Prop :=
  ∃ entry ∈ compound, entry.2.Holds level tag

/-- The length of the text fits into two bytes. -/
def ShortText (content : String) : Prop := (utf8Bytes content).length ≤ 65535

instance (content : String) : Decidable (ShortText content) :=
  inferInstanceAs (Decidable ((utf8Bytes content).length ≤ 65535))

/-- The names are short, and none of them occurs twice. -/
structure Compound.Named (compound : Compound) : Prop where
  short : ∀ entry ∈ compound, ShortText entry.1
  distinct : (compound.map Prod.fst).Nodup

instance (compound : Compound) : Decidable compound.Named :=
  decidable_of_iff ((∀ entry ∈ compound, ShortText entry.1) ∧ (compound.map Prod.fst).Nodup)
    ⟨fun both => ⟨both.1, both.2⟩, fun named => ⟨named.short, named.distinct⟩⟩

/-- What the written form asks of a tag, not counting the tags inside of it. -/
def Tag.Plain : Tag → Prop
  | .string content => ShortText content
  | .byteArray values => values.length < 2 ^ 31
  | .intArray values => values.length < 2 ^ 31
  | .longArray values => values.length < 2 ^ 31
  | .list elements => elements.length < 2 ^ 31 ∧
      ∀ first ∈ elements, ∀ second ∈ elements, first.typeNumber = second.typeNumber
  | .compound entries => Compound.Named entries
  | _ => True

/-- The written form can say everything about the root. -/
structure Root.Writable (root : Root) : Prop where
  name : ShortText root.name
  entries : root.compound.Named
  tags : ∀ level tag, root.compound.Holds level tag → tag.Plain

/-- No tag is too deep to be read. Whoever reads a compound reads one level further. -/
def Root.Shallow (root : Root) : Prop :=
  ∀ level tag, root.compound.Holds level tag →
    level ≤ 512 ∧ (tag.typeNumber = compoundTypeNumber → level ≤ 511)

/-- The entries of compounds are in another order, here and inside. -/
inductive Tag.Reorders : Tag → Tag → Prop where
  | refl (tag : Tag) : Reorders tag tag
  | trans {first second third : Tag} (head : Reorders first second)
      (tail : Reorders second third) : Reorders first third
  | entries {left right : Compound} (order : left.Perm right) :
      Reorders (.compound left) (.compound right)
  | element (before later : List Tag) {first second : Tag} (inner : Reorders first second) :
      Reorders (.list (before ++ first :: later)) (.list (before ++ second :: later))
  | entry (before later : Compound) (name : String) {first second : Tag}
      (inner : Reorders first second) :
      Reorders (.compound (before ++ (name, first) :: later))
        (.compound (before ++ (name, second) :: later))

/-- The same root, with its entries written in another order. -/
structure Root.Reorders (root written : Root) : Prop where
  name : root.name = written.name
  compound : (Tag.compound root.compound).Reorders (.compound written.compound)

namespace Tag

/-- What holds of the tag and of all tags inside of it, each with its distance. -/
def Everywhere (property : Nat → Tag → Prop) (tag : Tag) : Prop :=
  ∀ depth inner, tag.Holds depth inner → property depth inner

/-- The written form can say everything about a tag and the tags inside of it. -/
def Writable (tag : Tag) : Prop := tag.Everywhere fun _ inner => inner.Plain

/-- So many levels are enough to read a tag. -/
def FitsIn (levels : Nat) (tag : Tag) : Prop :=
  tag.Everywhere fun depth inner =>
    depth < levels ∧ (inner.typeNumber = compoundTypeNumber → depth + 1 < levels)

variable {tag : Tag}

theorem everywhere_iff {property : Nat → Tag → Prop} : tag.Everywhere property ↔
    property 0 tag ∧ ∀ first ∈ tag.inside, first.Everywhere fun depth => property (depth + 1) := by
  constructor
  · intro everywhere
    exact ⟨everywhere 0 tag (.self tag), fun first member depth inner holds =>
      everywhere (depth + 1) inner (.deeper member holds)⟩
  · rintro ⟨here, below⟩ depth inner holds
    cases holds with
    | self => exact here
    | deeper member holds => exact below _ member _ _ holds

theorem writable_iff : tag.Writable ↔ tag.Plain ∧ ∀ first ∈ tag.inside, first.Writable :=
  everywhere_iff

theorem not_fitsIn_zero : ¬tag.FitsIn 0 := fun fits =>
  absurd (fits 0 tag (.self tag)).1 (Nat.lt_irrefl 0)

theorem fitsIn_succ {levels : Nat} : tag.FitsIn (levels + 1) ↔
    (tag.typeNumber = compoundTypeNumber → 0 < levels) ∧
      ∀ first ∈ tag.inside, first.FitsIn levels := by
  unfold FitsIn
  rw [everywhere_iff]
  simp only [Nat.add_lt_add_iff_right, Nat.zero_lt_succ, true_and]

end Tag

section Decidable

instance : (tag : Tag) → Decidable tag.Plain
  | .string content => inferInstanceAs (Decidable (ShortText content))
  | .byteArray values => inferInstanceAs (Decidable (values.length < 2 ^ 31))
  | .intArray values => inferInstanceAs (Decidable (values.length < 2 ^ 31))
  | .longArray values => inferInstanceAs (Decidable (values.length < 2 ^ 31))
  | .list elements => inferInstanceAs (Decidable (elements.length < 2 ^ 31 ∧
      ∀ first ∈ elements, ∀ second ∈ elements, first.typeNumber = second.typeNumber))
  | .compound entries => inferInstanceAs (Decidable (Compound.Named entries))
  | .byte _ | .short _ | .int _ | .long _ | .float _ | .double _ => isTrue trivial

theorem Tag.everywhere_leaf {tag : Tag} {property : Nat → Tag → Prop} (single : tag.inside = []) :
    property 0 tag ↔ tag.Everywhere property := by
  rw [Tag.everywhere_iff, single]
  exact (and_iff_left (List.forall_mem_nil _)).symm

mutual

def Tag.decideEverywhere : (tag : Tag) → (property : Nat → Tag → Prop) →
    [∀ depth inner, Decidable (property depth inner)] → Decidable (tag.Everywhere property)
  | .list elements, property, _ =>
      @decidable_of_iff _ _ Tag.everywhere_iff.symm
        (@instDecidableAnd _ _ _ (decideElements elements fun depth => property (depth + 1)))
  | .compound entries, property, _ =>
      @decidable_of_iff _ _ Tag.everywhere_iff.symm
        (@instDecidableAnd _ _ _ (decideEntries entries fun depth => property (depth + 1)))
  | .byte _, _, _ | .short _, _, _ | .int _, _, _ | .long _, _, _ | .float _, _, _
  | .double _, _, _ | .byteArray _, _, _ | .string _, _, _ | .intArray _, _, _
  | .longArray _, _, _ => decidable_of_iff _ (Tag.everywhere_leaf rfl)

def decideElements : (elements : List Tag) → (property : Nat → Tag → Prop) →
    [∀ depth inner, Decidable (property depth inner)] →
      Decidable (∀ first ∈ elements, first.Everywhere property)
  | [], _, _ => isTrue (List.forall_mem_nil _)
  | first :: others, property, _ =>
      @decidable_of_iff _ _ List.forall_mem_cons.symm
        (@instDecidableAnd _ _ (first.decideEverywhere property) (decideElements others property))

def decideEntries : (entries : Compound) → (property : Nat → Tag → Prop) →
    [∀ depth inner, Decidable (property depth inner)] →
      Decidable (∀ first ∈ entries.map Prod.snd, first.Everywhere property)
  | [], _, _ => isTrue (List.forall_mem_nil _)
  | (_, first) :: others, property, _ =>
      @decidable_of_iff _ _ List.forall_mem_cons.symm
        (@instDecidableAnd _ _ (first.decideEverywhere property) (decideEntries others property))

end

instance (tag : Tag) : Decidable tag.Writable := tag.decideEverywhere _

instance (levels : Nat) (tag : Tag) : Decidable (tag.FitsIn levels) := tag.decideEverywhere _

end Decidable

section Roots

variable {root : Root}

theorem Root.writable_iff :
    root.Writable ↔ ShortText root.name ∧ (Tag.compound root.compound).Writable := by
  constructor
  · intro writable
    refine ⟨writable.name, Tag.writable_iff.2 ⟨writable.entries, ?_⟩⟩
    intro first member depth inner holds
    obtain ⟨entry, listed, rfl⟩ := List.mem_map.1 member
    exact writable.tags depth inner ⟨entry, listed, holds⟩
  · rintro ⟨name, writable⟩
    obtain ⟨named, inner⟩ := Tag.writable_iff.1 writable
    refine ⟨name, named, ?_⟩
    rintro level tag ⟨entry, listed, holds⟩
    exact inner entry.2 (List.mem_map_of_mem listed) level tag holds

/-- The root takes one level itself. -/
theorem Root.shallow_iff : root.Shallow ↔ (Tag.compound root.compound).FitsIn 514 := by
  rw [Tag.fitsIn_succ]
  constructor
  · intro shallow
    refine ⟨fun _ => by decide, ?_⟩
    intro first member depth inner holds
    obtain ⟨entry, listed, rfl⟩ := List.mem_map.1 member
    obtain ⟨room, further⟩ := shallow depth inner ⟨entry, listed, holds⟩
    exact ⟨Nat.lt_succ_of_le room, fun compound => Nat.succ_lt_succ
      (Nat.lt_succ_of_le (further compound))⟩
  · rintro ⟨-, fits⟩ level tag ⟨entry, listed, holds⟩
    obtain ⟨room, further⟩ := fits entry.2 (List.mem_map_of_mem listed) level tag holds
    exact ⟨Nat.le_of_lt_succ room, fun compound =>
      Nat.le_of_lt_succ (Nat.lt_of_succ_lt_succ (further compound))⟩

instance (root : Root) : Decidable root.Writable := decidable_of_iff _ Root.writable_iff.symm

instance (root : Root) : Decidable root.Shallow := decidable_of_iff _ Root.shallow_iff.symm

end Roots

namespace Tag.Reorders

variable {left right : Tag}

theorem typeNumber (order : left.Reorders right) : left.typeNumber = right.typeNumber := by
  induction order with
  | refl => rfl
  | trans _ _ head tail => exact head.trans tail
  | entries => rfl
  | element => rfl
  | entry => rfl

theorem symm (order : left.Reorders right) : right.Reorders left := by
  induction order with
  | refl tag => exact .refl tag
  | trans _ _ head tail => exact .trans tail head
  | entries order => exact .entries order.symm
  | element before later _ inner => exact .element before later inner
  | entry before later name _ inner => exact .entry before later name inner

theorem plain (order : left.Reorders right) (plain : left.Plain) : right.Plain := by
  induction order with
  | refl => exact plain
  | trans _ _ head tail => exact tail (head plain)
  | entries order =>
      exact ⟨fun entry member => plain.short entry (order.mem_iff.2 member),
        (order.map Prod.fst).nodup_iff.1 plain.distinct⟩
  | element before later inner =>
      have same := inner.typeNumber
      simpa only [Plain, List.length_append, List.length_cons, List.forall_mem_append,
        List.forall_mem_cons, same] using plain
  | @entry before later name first second inner =>
      have short := plain.short
      have distinct := plain.distinct
      rw [List.forall_mem_append, List.forall_mem_cons] at short
      rw [List.map_append, List.map_cons] at distinct
      refine ⟨?_, ?_⟩
      · rw [List.forall_mem_append, List.forall_mem_cons]
        exact short
      · rw [List.map_append, List.map_cons]
        exact distinct

-- Elements of a list and entries of a compound are replaced in the same way.
theorem mem_replaced {before later : List Tag} {first second tag : Tag}
    (inner : first.Reorders second) (member : tag ∈ before ++ second :: later) :
    ∃ other ∈ before ++ first :: later, other.Reorders tag := by
  rcases List.mem_append.1 member with earlier | here
  · exact ⟨tag, List.mem_append_left _ earlier, .refl tag⟩
  · rcases List.mem_cons.1 here with rfl | further
    · exact ⟨first, List.mem_append_right _ List.mem_cons_self, inner⟩
    · exact ⟨tag, List.mem_append_right _ (List.mem_cons_of_mem _ further), .refl tag⟩

/-- A tag that is inside afterwards was inside before, in some order. -/
theorem mem_inside (order : left.Reorders right) {tag : Tag} (member : tag ∈ right.inside) :
    ∃ other ∈ left.inside, other.Reorders tag := by
  induction order generalizing tag with
  | refl => exact ⟨tag, member, .refl tag⟩
  | trans _ _ head tail =>
      obtain ⟨between, here, second⟩ := tail member
      obtain ⟨other, there, first⟩ := head here
      exact ⟨other, there, first.trans second⟩
  | entries order => exact ⟨tag, (order.map Prod.snd).mem_iff.2 member, .refl tag⟩
  | element before later inner => exact mem_replaced inner member
  | entry before later name inner =>
      simp only [inside, List.map_append, List.map_cons] at member ⊢
      exact mem_replaced inner member

theorem holds (order : left.Reorders right) {depth : Nat} {tag : Tag}
    (holds : right.Holds depth tag) : ∃ other, left.Holds depth other ∧ other.Reorders tag := by
  induction holds generalizing left with
  | self => exact ⟨left, .self left, order⟩
  | deeper member _ induction =>
      obtain ⟨first, here, inner⟩ := order.mem_inside member
      obtain ⟨other, there, same⟩ := induction inner
      exact ⟨other, .deeper here there, same⟩

theorem writable (order : left.Reorders right) (writable : left.Writable) : right.Writable := by
  intro depth tag inside
  obtain ⟨other, there, same⟩ := order.holds inside
  exact same.plain (writable depth other there)

theorem fitsIn (order : left.Reorders right) {levels : Nat} (fits : left.FitsIn levels) :
    right.FitsIn levels := by
  intro depth tag inside
  obtain ⟨other, there, same⟩ := order.holds inside
  rw [← same.typeNumber]
  exact fits depth other there

end Tag.Reorders

namespace Root.Reorders

variable {root written : Root}

theorem writable (order : root.Reorders written) (writable : root.Writable) :
    written.Writable := by
  obtain ⟨name, inner⟩ := Root.writable_iff.1 writable
  exact Root.writable_iff.2 ⟨order.name ▸ name, order.compound.writable inner⟩

theorem shallow_iff (order : root.Reorders written) : root.Shallow ↔ written.Shallow := by
  rw [Root.shallow_iff, Root.shallow_iff]
  exact ⟨order.compound.fitsIn, order.compound.symm.fitsIn⟩

end Root.Reorders

end InventorySync.Nbt
