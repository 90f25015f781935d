import InventorySync.Item.Reconcile
import InventorySync.Proofs.DisplayNames

/-!
What is left of an item once a server has acknowledged it as it is. Its name is
written anew, which may tidy up the user data around it, and a stack that is as
good as none becomes none. Doing so twice changes nothing more, and stacks that
come to the same are split and stacked to the same.
-/

namespace InventorySync

set_option autoImplicit false

namespace DisplayName

open Nbt (Compound)

def nameOf (userData : Option Compound) : String := (read? userData).getD ""

/-- The user data once the name that it has is written anew. -/
def renewed (userData : Option Compound) : Option Compound := patch userData (nameOf userData)

theorem nameOf_patch (userData : Option Compound) (name : String) :
    nameOf (patch userData name) = name := by
  unfold nameOf
  rw [(patched_patch userData name).reads]
  split
  · next unnamed => exact unnamed.symm
  · rfl

theorem renewed_renewed (userData : Option Compound) :
    renewed (renewed userData) = renewed userData := by
  unfold renewed
  rw [nameOf_patch, patch_same]

end DisplayName

namespace Item

/-- The item, whatever its stack is called. -/
def unstacked (item : Item) : Item := { item with stackId := 0 }

/-- What the acknowledgement of an item leaves of it, but for the name of its stack. -/
def acknowledged (item : Item) : Item :=
  if item.isEmpty then .empty
  else { item with userData := DisplayName.renewed item.userData, stackId := 0 }

/-- Items that come to the same once they are acknowledged. -/
def Agrees (left right : Item) : Prop := left.acknowledged = right.acknowledged

theorem acknowledged_of_empty {item : Item} (none : item.isEmpty) : item.acknowledged = .empty :=
  if_pos none

theorem acknowledged_of_filled {item : Item} (filled : item.isEmpty = false) :
    item.acknowledged =
      { item with userData := DisplayName.renewed item.userData, stackId := 0 } :=
  if_neg (Bool.eq_false_iff.1 filled)

theorem isEmpty_acknowledged (item : Item) : item.acknowledged.isEmpty = item.isEmpty := by
  cases filled : item.isEmpty with
  | true =>
      rw [acknowledged_of_empty filled]
      rfl
  | false =>
      rw [acknowledged_of_filled filled]
      exact filled

theorem acknowledged_acknowledged (item : Item) :
    item.acknowledged.acknowledged = item.acknowledged := by
  have same := item.isEmpty_acknowledged
  cases filled : item.isEmpty with
  | true =>
      rw [acknowledged_of_empty filled]
      rfl
  | false =>
      rw [filled] at same
      rw [acknowledged_of_filled same, acknowledged_of_filled filled]
      simp only
      rw [DisplayName.renewed_renewed]

theorem acknowledged_unstacked (item : Item) : item.unstacked.acknowledged = item.acknowledged :=
  rfl

namespace Agrees

variable {left right : Item}

theorem refl (item : Item) : Agrees item item := rfl

theorem of_acknowledged (settled : left.unstacked = right.acknowledged) : Agrees left right := by
  unfold Agrees
  rw [← acknowledged_unstacked, settled, acknowledged_acknowledged]

theorem isEmpty (agrees : Agrees left right) : left.isEmpty = right.isEmpty := by
  rw [← isEmpty_acknowledged left, agrees, isEmpty_acknowledged]

theorem count (agrees : Agrees left right) (filled : left.isEmpty = false) :
    left.count = right.count := by
  have other : right.isEmpty = false := agrees.isEmpty ▸ filled
  have same := congrArg Item.count agrees
  rw [acknowledged_of_filled filled, acknowledged_of_filled other] at same
  exact same

theorem amount (agrees : Agrees left right) : left.amount = right.amount := by
  unfold Item.amount
  rw [← agrees.isEmpty]
  split
  · rfl
  · next filled => rw [agrees.count (Bool.eq_false_iff.2 filled)]

/-- Stacks that agree still do when both get another count. -/
theorem withCount (agrees : Agrees left right) (filled : left.isEmpty = false) (count : UInt16) :
    Agrees { left with count } { right with count } := by
  have other : right.isEmpty = false := agrees.isEmpty ▸ filled
  have same : left.acknowledged = right.acknowledged := agrees
  rw [acknowledged_of_filled filled, acknowledged_of_filled other] at same
  have typed := congrArg Item.typeId same
  simp only at typed
  have sameEmpty : ({ left with count } : Item).isEmpty =
      ({ right with count } : Item).isEmpty := by
    unfold Item.isEmpty
    rw [typed]
  unfold Agrees
  cases none : ({ left with count } : Item).isEmpty with
  | true =>
      rw [none] at sameEmpty
      rw [acknowledged_of_empty none, acknowledged_of_empty sameEmpty.symm]
  | false =>
      rw [none] at sameEmpty
      rw [acknowledged_of_filled none, acknowledged_of_filled sameEmpty.symm]
      exact congrArg (fun item : Item => { item with count }) same

theorem split (agrees : Agrees left right) (wanted : UInt8) :
    Agrees (left.split wanted).1 (right.split wanted).1 ∧
      Agrees (left.split wanted).2 (right.split wanted).2 := by
  unfold Item.split
  rw [← agrees.isEmpty]
  cases filled : left.isEmpty with
  | true => exact ⟨refl _, agrees⟩
  | false =>
      rw [if_neg Bool.false_ne_true, if_neg Bool.false_ne_true, ← agrees.count filled]
      refine ⟨agrees.withCount filled _, ?_⟩
      simp only
      split
      · exact refl _
      · exact agrees.withCount filled _

theorem stackOnto {added other : Item} (agrees : Agrees left right) (both : Agrees added other) :
    Agrees (left.stackOnto added) (right.stackOnto other) := by
  unfold Item.stackOnto
  rw [← both.isEmpty, ← agrees.isEmpty]
  cases nothing : added.isEmpty with
  | true => exact agrees
  | false =>
      rw [if_neg Bool.false_ne_true, if_neg Bool.false_ne_true]
      cases filled : left.isEmpty with
      | true => exact both
      | false =>
          rw [if_neg Bool.false_ne_true, if_neg Bool.false_ne_true, ← both.count nothing,
            ← agrees.count filled]
          exact agrees.withCount filled _

end Agrees

end Item

/-- What the acknowledgement of an item leaves of it, but for the name of its stack, where a
caller declared something about it. -/
def Expectation.applied (declared : Expectation) (item : Item) : Item :=
  if item.isEmpty then .empty
  else
    { item with
      typeId := declared.typeId.getD item.typeId
      userData := declared.userDataAfter item.userData (DisplayName.nameOf item.userData)
      stackId := 0 }

namespace Expectation

variable {item : Item}

theorem applied_default (item : Item) : ({} : Expectation).applied item = item.acknowledged := rfl

theorem applied_of_empty (declared : Expectation) (none : item.isEmpty) :
    declared.applied item = .empty := if_pos none

theorem applied_of_filled (declared : Expectation) (filled : item.isEmpty = false) :
    declared.applied item =
      { item with
        typeId := declared.typeId.getD item.typeId
        userData := declared.userDataAfter item.userData (DisplayName.nameOf item.userData)
        stackId := 0 } :=
  if_neg (Bool.eq_false_iff.1 filled)

end Expectation

/-- An acknowledgement that repeats the count and the name of a predicted item. -/
theorem Item.reconcile_faithful {item : Item} {ack : SlotAck} {declared : Option Expectation}
    (fits : item.amount ≤ 255) (count : ack.count = UInt8.ofNat item.amount)
    (name : ack.customName = DisplayName.nameOf item.userData) :
    (item.reconcile ack declared).unstacked = (declared.getD {}).applied item := by
  have acked : ack.count.toNat = item.amount := by
    rw [count, UInt8.toNat_ofNat']
    exact Nat.mod_eq_of_lt (by omega)
  unfold reconcile
  cases filled : item.isEmpty with
  | true =>
      have none : item.amount = 0 := if_pos filled
      have zero : ack.count = 0 := by
        rw [count, none]
        rfl
      rw [if_pos zero, Expectation.applied_of_empty _ filled]
      rfl
  | false =>
      have whole : item.amount = item.count.toNat := by
        unfold amount
        rw [filled, if_neg Bool.false_ne_true]
      have counted : ack.count.toUInt16 = item.count := by
        apply UInt16.toNat_inj.1
        rw [UInt8.toNat_toUInt16, acked, whole]
      have positive : ack.count ≠ 0 := by
        intro zero
        rw [zero] at counted
        have gone : item.count = 0 := counted.symm
        unfold isEmpty at filled
        rw [gone] at filled
        simp at filled
      rw [if_neg positive, Expectation.applied_of_filled _ filled]
      simp only
      rw [counted, name]
      rfl

end InventorySync
