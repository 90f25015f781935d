import InventorySync.Nbt.Tag

/-!
Equality of tags is decidable. This is equality of the trees as they stand, with
the order of entries and the bits of floating-point values; equality of the
values they hold is `Tag.sameValue`.
-/

namespace InventorySync.Nbt

set_option autoImplicit false

mutual

def Tag.decEq : (left right : Tag) → Decidable (left = right)
  | .byte left, right => match right with
      | .byte right => decidable_of_iff (left = right) (by simp)
      | .short _ | .int _ | .long _ | .float _ | .double _ | .byteArray _ | .string _ | .list _
      | .compound _ | .intArray _ | .longArray _ => isFalse (by simp)
  | .short left, right => match right with
      | .short right => decidable_of_iff (left = right) (by simp)
      | .byte _ | .int _ | .long _ | .float _ | .double _ | .byteArray _ | .string _ | .list _
      | .compound _ | .intArray _ | .longArray _ => isFalse (by simp)
  | .int left, right => match right with
      | .int right => decidable_of_iff (left = right) (by simp)
      | .byte _ | .short _ | .long _ | .float _ | .double _ | .byteArray _ | .string _ | .list _
      | .compound _ | .intArray _ | .longArray _ => isFalse (by simp)
  | .long left, right => match right with
      | .long right => decidable_of_iff (left = right) (by simp)
      | .byte _ | .short _ | .int _ | .float _ | .double _ | .byteArray _ | .string _ | .list _
      | .compound _ | .intArray _ | .longArray _ => isFalse (by simp)
  | .float left, right => match right with
      | .float right => decidable_of_iff (left = right) (by simp)
      | .byte _ | .short _ | .int _ | .long _ | .double _ | .byteArray _ | .string _ | .list _
      | .compound _ | .intArray _ | .longArray _ => isFalse (by simp)
  | .double left, right => match right with
      | .double right => decidable_of_iff (left = right) (by simp)
      | .byte _ | .short _ | .int _ | .long _ | .float _ | .byteArray _ | .string _ | .list _
      | .compound _ | .intArray _ | .longArray _ => isFalse (by simp)
  | .byteArray left, right => match right with
      | .byteArray right => decidable_of_iff (left = right) (by simp)
      | .byte _ | .short _ | .int _ | .long _ | .float _ | .double _ | .string _ | .list _
      | .compound _ | .intArray _ | .longArray _ => isFalse (by simp)
  | .string left, right => match right with
      | .string right => decidable_of_iff (left = right) (by simp)
      | .byte _ | .short _ | .int _ | .long _ | .float _ | .double _ | .byteArray _ | .list _
      | .compound _ | .intArray _ | .longArray _ => isFalse (by simp)
  | .list left, right => match right with
      | .list right => @decidable_of_iff _ (left = right) (by simp) (decEqElements left right)
      | .byte _ | .short _ | .int _ | .long _ | .float _ | .double _ | .byteArray _ | .string _
      | .compound _ | .intArray _ | .longArray _ => isFalse (by simp)
  | .compound left, right => match right with
      | .compound right => @decidable_of_iff _ (left = right) (by simp) (decEqEntries left right)
      | .byte _ | .short _ | .int _ | .long _ | .float _ | .double _ | .byteArray _ | .string _
      | .list _ | .intArray _ | .longArray _ => isFalse (by simp)
  | .intArray left, right => match right with
      | .intArray right => decidable_of_iff (left = right) (by simp)
      | .byte _ | .short _ | .int _ | .long _ | .float _ | .double _ | .byteArray _ | .string _
      | .list _ | .compound _ | .longArray _ => isFalse (by simp)
  | .longArray left, right => match right with
      | .longArray right => decidable_of_iff (left = right) (by simp)
      | .byte _ | .short _ | .int _ | .long _ | .float _ | .double _ | .byteArray _ | .string _
      | .list _ | .compound _ | .intArray _ => isFalse (by simp)

def decEqElements : (left right : List Tag) → Decidable (left = right)
  | [], [] => isTrue rfl
  | [], _ :: _ => isFalse (by simp)
  | _ :: _, [] => isFalse (by simp)
  | first :: left, second :: right =>
      match Tag.decEq first second, decEqElements left right with
      | isTrue same, isTrue rest => isTrue (by rw [same, rest])
      | isFalse differ, _ => isFalse (by simp [differ])
      | _, isFalse differ => isFalse (by simp [differ])

def decEqEntries : (left right : List (String × Tag)) → Decidable (left = right)
  | [], [] => isTrue rfl
  | [], _ :: _ => isFalse (by simp)
  | _ :: _, [] => isFalse (by simp)
  | (leftName, first) :: left, (rightName, second) :: right =>
      match decEq leftName rightName, Tag.decEq first second, decEqEntries left right with
      | isTrue name, isTrue same, isTrue rest => isTrue (by rw [name, same, rest])
      | isFalse differ, _, _ => isFalse (by simp [differ])
      | _, isFalse differ, _ => isFalse (by simp [differ])
      | _, _, isFalse differ => isFalse (by simp [differ])

end

instance : DecidableEq Tag := Tag.decEq

instance : DecidableEq Root := fun left right =>
  decidable_of_iff (left.name = right.name ∧ left.compound = right.compound) (by
    cases left
    cases right
    simp)

end InventorySync.Nbt
