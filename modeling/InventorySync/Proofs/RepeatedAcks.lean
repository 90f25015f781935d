import InventorySync.Item.Reconcile
import InventorySync.Proofs.DisplayNames
import Mathlib.Data.List.Induction

/-!
A slot that is acknowledged several times. Count, stack id and name are those of the last
acknowledgement, and what the caller declared is applied again each time, which makes no
difference, except that a repair cost is raised anew. So the item is the one that the last
acknowledgement alone would have left, apart from the repair cost.
-/

namespace InventorySync

set_option autoImplicit false

open Nbt (Compound)

/-- The item with this repair cost. -/
def Item.withRepairCost (item : Item) (cost : Int32) : Item :=
  { item with
    userData := some (Compound.set (item.userData.getD []) repairCostKey (.int cost)) }

/-- The item that acknowledgements leave in a slot, one after another. -/
def Item.reconcileAll (base : Item) (acks : List SlotAck) (declared : Option Expectation) : Item :=
  acks.foldl (fun item ack => item.reconcile ack declared) base

namespace Expectation

/-- Nothing is added up: the repair cost is not raised, or user data replaces it first. -/
def Repeatable (expectation : Expectation) : Prop :=
  expectation.userData.isSome ∨ expectation.repairCostDelta = none

variable {expectation : Expectation} {userData : Option Compound} {delta : Int32}

theorem getD_typeId (expectation : Expectation) (kind : Int32) :
    expectation.typeId.getD (expectation.typeId.getD kind) = expectation.typeId.getD kind := by
  cases expectation.typeId <;> rfl

theorem userDataAfter_of_declared {declared : Compound}
    (replaced : expectation.userData = some declared) (first second : Option Compound)
    (name other : String) :
    expectation.userDataAfter first name = expectation.userDataAfter second other := by
  unfold userDataAfter
  rw [replaced]

theorem userDataAfter_of_named (kept : expectation.userData = none)
    (unraised : expectation.repairCostDelta = none) (name : String) :
    expectation.userDataAfter userData name = DisplayName.patch userData name := by
  unfold userDataAfter
  rw [kept, unraised]

theorem repairCost_patch (userData : Option Compound) (name : String) :
    repairCost (DisplayName.patch userData name) = repairCost userData := by
  have beside := (DisplayName.patched_patch userData name).beside repairCostKey (by decide)
  exact congrArg (fun cost => (cost.bind Nbt.Tag.int?).getD 0) beside

/-- User data that was given a name and a repair cost. -/
def priced (userData : Option Compound) (name : String) (cost : Int32) : Compound :=
  Compound.set (DisplayName.edited (userData.getD []) name) repairCostKey (.int cost)

theorem repairCost_priced (userData : Option Compound) (name : String) (cost : Int32) :
    repairCost (some (priced userData name cost)) = cost := by
  have found : Compound.get? (priced userData name cost) repairCostKey = some (.int cost) := by
    unfold priced
    rw [Compound.get?_set, if_pos rfl]
  unfold repairCost
  rw [Option.bind_some, found]
  rfl

/-- The last name and the last repair cost count. -/
theorem priced_priced (fits : DisplayName.Displayable userData) (first second : String)
    (cost other : Int32) :
    priced (some (priced userData first cost)) second other = priced userData second other := by
  unfold priced
  rw [Option.getD_some,
    DisplayName.set_edited_set second (DisplayName.displayable_edited fits.root first) (by decide),
    DisplayName.edited_edited (Or.inr fits.root)]

theorem userDataAfter_of_raised (kept : expectation.userData = none)
    (raised : expectation.repairCostDelta = some delta) (name : String) :
    expectation.userDataAfter userData name =
      some (priced userData name (repairCost userData + delta)) := by
  unfold userDataAfter raiseRepairCost priced
  rw [kept, raised]
  simp only
  rw [DisplayName.getD_patch, repairCost_patch]

section Repeated

variable (repeatable : expectation.Repeatable)

include repeatable

theorem Repeatable.unraised (kept : expectation.userData = none) :
    expectation.repairCostDelta = none := by
  rcases repeatable with declared | unraised
  · rw [kept] at declared
    cases declared
  · exact unraised

/-- What a former acknowledgement did to the user data does not count any more. -/
theorem userDataAfter_absorbs (fits : DisplayName.Displayable userData) (first second : String) :
    expectation.userDataAfter (expectation.userDataAfter userData first) second =
      expectation.userDataAfter userData second := by
  cases replaced : expectation.userData with
  | some declared => exact userDataAfter_of_declared replaced _ _ _ _
  | none =>
      simp only [userDataAfter_of_named replaced (repeatable.unraised replaced)]
      exact DisplayName.patch_patch fits first second

theorem userDataAfter_same (userData : Option Compound) (name : String) :
    expectation.userDataAfter (expectation.userDataAfter userData name) name =
      expectation.userDataAfter userData name := by
  cases replaced : expectation.userData with
  | some declared => exact userDataAfter_of_declared replaced _ _ _ _
  | none =>
      simp only [userDataAfter_of_named replaced (repeatable.unraised replaced)]
      exact DisplayName.patch_same userData name

end Repeated

end Expectation

namespace Item

variable {base : Item} {declared : Option Expectation}

theorem reconcile_of_zero {ack : SlotAck} (zero : ack.count = 0) (base : Item)
    (declared : Option Expectation) : base.reconcile ack declared = .empty :=
  if_pos zero

theorem reconcile_of_count {ack : SlotAck} (counted : ack.count ≠ 0) (base : Item)
    (declared : Option Expectation) :
    base.reconcile ack declared =
      { base with
        typeId := (declared.getD {}).typeId.getD base.typeId
        count := ack.count.toUInt16
        stackId := ack.stackId
        userData := (declared.getD {}).userDataAfter base.userData ack.customName } :=
  if_neg counted

/-- An acknowledgement whose user data does not count any more does not count at all. -/
theorem reconcile_reconcile {first second : SlotAck} (counted : first.count ≠ 0)
    (absorbed : (declared.getD {}).userDataAfter
        ((declared.getD {}).userDataAfter base.userData first.customName) second.customName =
      (declared.getD {}).userDataAfter base.userData second.customName) :
    (base.reconcile first declared).reconcile second declared = base.reconcile second declared := by
  by_cases later : second.count = 0
  · rw [reconcile_of_zero later, reconcile_of_zero later]
  · rw [reconcile_of_count later (base.reconcile first declared), reconcile_of_count counted,
      reconcile_of_count later]
    simp only
    rw [Expectation.getD_typeId, absorbed]

section Raised

variable {delta : Int32} (kept : (declared.getD {}).userData = none)
  (raised : (declared.getD {}).repairCostDelta = some delta)

include kept raised

theorem withRepairCost_reconcile {ack : SlotAck} (counted : ack.count ≠ 0) (base : Item)
    (cost : Int32) :
    (base.reconcile ack declared).withRepairCost cost =
      { base with
        typeId := (declared.getD {}).typeId.getD base.typeId
        count := ack.count.toUInt16
        stackId := ack.stackId
        userData := some (Expectation.priced base.userData ack.customName cost) } := by
  unfold withRepairCost
  rw [reconcile_of_count counted, Expectation.userDataAfter_of_raised kept raised, Option.getD_some]
  unfold Expectation.priced
  rw [Compound.set_set]

/-- A repair cost is raised from what it was, whatever the name was. -/
theorem reconcile_withRepairCost {first second : SlotAck}
    (fits : DisplayName.Displayable base.userData) (counted : first.count ≠ 0)
    (later : second.count ≠ 0) (cost : Int32) :
    ((base.reconcile first declared).withRepairCost cost).reconcile second declared =
      (base.reconcile second declared).withRepairCost (cost + delta) := by
  rw [withRepairCost_reconcile kept raised counted, withRepairCost_reconcile kept raised later,
    reconcile_of_count later]
  simp only
  rw [Expectation.getD_typeId, Expectation.userDataAfter_of_raised kept raised,
    Expectation.repairCost_priced, Expectation.priced_priced fits]

theorem reconcile_raised {ack : SlotAck} (counted : ack.count ≠ 0) (base : Item) :
    base.reconcile ack declared =
      (base.reconcile ack declared).withRepairCost (repairCost base.userData + delta) := by
  rw [withRepairCost_reconcile kept raised counted, reconcile_of_count counted,
    Expectation.userDataAfter_of_raised kept raised]

end Raised

section Runs

theorem reconcileAll_concat (base : Item) (acks : List SlotAck) (last : SlotAck)
    (declared : Option Expectation) :
    base.reconcileAll (acks ++ [last]) declared =
      (base.reconcileAll acks declared).reconcile last declared :=
  List.foldl_append

variable {acks : List SlotAck} {last : SlotAck} (fits : DisplayName.Displayable base.userData)
  (counted : ∀ ack ∈ acks ++ [last], ack.count ≠ 0)

include fits counted

theorem reconcileAll_of_repeatable (repeatable : (declared.getD {}).Repeatable) :
    base.reconcileAll (acks ++ [last]) declared = base.reconcile last declared := by
  -- Before the last one there is nothing, or the item that the one before it would have left.
  induction acks using List.reverseRecOn generalizing last with
  | nil => rfl
  | append_singleton before previous induction =>
      obtain ⟨earlier, -⟩ := List.forall_mem_append.1 counted
      have own := earlier previous List.mem_concat_self
      rw [reconcileAll_concat, induction earlier]
      exact reconcile_reconcile own (Expectation.userDataAfter_absorbs repeatable fits _ _)

theorem reconcileAll_of_raised {delta : Int32} (kept : (declared.getD {}).userData = none)
    (raised : (declared.getD {}).repairCostDelta = some delta) :
    base.reconcileAll (acks ++ [last]) declared =
      (base.reconcile last declared).withRepairCost
        (repairCost base.userData + Int32.ofNat (acks.length + 1) * delta) := by
  induction acks using List.reverseRecOn generalizing last with
  | nil =>
      have once : Int32.ofNat (([] : List SlotAck).length + 1) * delta = delta :=
        Int32.one_mul delta
      rw [once, ← reconcile_raised kept raised (counted last (by simp))]
      rfl
  | append_singleton before previous induction =>
      obtain ⟨earlier, now⟩ := List.forall_mem_append.1 counted
      have own := earlier previous List.mem_concat_self
      have more : Int32.ofNat ((before ++ [previous]).length + 1) * delta =
          Int32.ofNat (before.length + 1) * delta + delta := by
        rw [List.length_append, List.length_singleton, Int32.ofNat_add (before.length + 1)]
        grind
      rw [reconcileAll_concat, induction earlier,
        reconcile_withRepairCost kept raised fits own (now last (List.mem_singleton_self last)),
        more, Int32.add_assoc]

end Runs

/-- A sum that does not overflow is the sum of the values. -/
theorem raisedCost_eq {old delta total : Int32} {times : Nat}
    (exact : total.toInt = old.toInt + times * delta.toInt) :
    total = old + Int32.ofNat times * delta := by
  rw [← Int32.ofInt_toInt total, exact, Int32.ofInt_add, Int32.ofInt_mul, Int32.ofInt_toInt,
    Int32.ofInt_toInt, Int32.ofInt_eq_ofNat]

/-- What the last acknowledgement of a slot says about the item, and what those before it do. -/
structure FollowsLastAck (base : Item) (declared : Option Expectation) : Prop where
  emptied : ∀ acks last, last.count = 0 → base.reconcileAll (acks ++ [last]) declared = .empty
  same : DisplayName.Displayable base.userData → (declared.getD {}).Repeatable →
    ∀ acks last, (∀ ack ∈ acks ++ [last], ack.count ≠ 0) →
      base.reconcileAll (acks ++ [last]) declared = base.reconcile last declared
  /-- Each acknowledgement adds to the repair cost, as far as it can be counted. -/
  raised : DisplayName.Displayable base.userData → ∀ delta,
    (declared.getD {}).userData = none → (declared.getD {}).repairCostDelta = some delta →
    ∀ acks last, (∀ ack ∈ acks ++ [last], ack.count ≠ 0) →
      ∀ total : Int32,
        total.toInt = (repairCost base.userData).toInt + (acks ++ [last]).length * delta.toInt →
        base.reconcileAll (acks ++ [last]) declared =
          (base.reconcile last declared).withRepairCost total
  idempotent : (declared.getD {}).Repeatable → ∀ ack,
    (base.reconcile ack declared).reconcile ack declared = base.reconcile ack declared

/-- The item in a slot is what its last acknowledgement alone would have made of it, but for a
repair cost that all of them raise. -/
theorem last_acknowledgement_decides (base : Item) (declared : Option Expectation) :
    base.FollowsLastAck declared := by
  constructor
  case emptied =>
    intro acks last zero
    rw [reconcileAll_concat, reconcile_of_zero zero]
  case same =>
    intro fits repeatable acks last counted
    exact reconcileAll_of_repeatable fits counted repeatable
  case raised =>
    intro fits delta kept raised acks last counted total exact
    rw [List.length_append, List.length_singleton] at exact
    rw [raisedCost_eq exact]
    exact reconcileAll_of_raised fits counted kept raised
  case idempotent =>
    intro repeatable ack
    by_cases zero : ack.count = 0
    · rw [reconcile_of_zero zero, reconcile_of_zero zero]
    · exact reconcile_reconcile zero (Expectation.userDataAfter_same repeatable _ _)

/-- A worn tool with a name. -/
def worn : Item where
  typeId := 307
  count := 1
  userData := some [("RepairCost", .int 1), ("display", .compound [("Name", .string "Old")]),
    ("Damage", .short 3)]

def tempered : Expectation where
  typeId := some 308
  repairCostDelta := some 2

/-- It is named, and named differently. -/
def tempering : List SlotAck := [⟨9, 9, 1, 21, "Foo", 0⟩, ⟨9, 9, 1, 22, "", 0⟩]

theorem tempering_adds_up :
    DisplayName.Displayable worn.userData ∧
      (∀ ack ∈ tempering ++ [⟨9, 9, 1, 23, "Bar", 0⟩], ack.count ≠ 0) ∧
      worn.reconcileAll (tempering ++ [⟨9, 9, 1, 23, "Bar", 0⟩]) (some tempered) =
        (worn.reconcile ⟨9, 9, 1, 23, "Bar", 0⟩ (some tempered)).withRepairCost 7 ∧
      worn.reconcileAll (tempering ++ [⟨9, 9, 1, 23, "Bar", 0⟩]) (some { typeId := some 308 }) =
        worn.reconcile ⟨9, 9, 1, 23, "Bar", 0⟩ (some { typeId := some 308 }) := by
  have fits : DisplayName.Displayable worn.userData := Or.inr ⟨_, rfl⟩
  have counted : ∀ ack ∈ tempering ++ [⟨9, 9, 1, 23, "Bar", 0⟩], ack.count ≠ 0 := by decide
  have raising := last_acknowledgement_decides worn (some tempered)
  have plain := last_acknowledgement_decides worn (some { typeId := some 308 })
  exact ⟨fits, counted, raising.raised fits 2 rfl rfl tempering _ counted 7 (by decide +kernel),
    plain.same fits (Or.inr rfl) tempering _ counted⟩

end Item

end InventorySync
