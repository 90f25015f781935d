import InventorySync.Error
import InventorySync.Inventory.Basic

/-!
Predicted slots. An overlay remembers what the operations of a transaction do to
the slots that they touch: the items, and the request that last named each stack.
A slot is taken over from the inventory when it is first used and is not looked
up there again. What an operation did before it failed stays done.
-/

namespace InventorySync

set_option autoImplicit false

/-- A slot as the next operation will find it. -/
structure PredictedSlot where
  item : Item
  stackId : Int32
  deriving DecidableEq, Repr, Inhabited

structure Overlay where
  slot? : Location → Option PredictedSlot

namespace Overlay

def empty : Overlay := ⟨fun _ => none⟩

/-- A computation that changes an overlay and may fail on the way. -/
abbrev Action := ExceptT SyncError (StateM Overlay)

def setSlot (overlay : Overlay) (location : Location) (slot : PredictedSlot) : Overlay :=
  ⟨fun other => if other = location then some slot else overlay.slot? other⟩

theorem slot?_setSlot (overlay : Overlay) (location other : Location) (slot : PredictedSlot) :
    (overlay.setSlot location slot).slot? other =
      if other = location then some slot else overlay.slot? other := rfl

/-- The slot as the next operation will find it. The player's interface window
need not be known. -/
def find (overlay : Overlay) (inventory : Inventory) (location : Location) :
    Except SyncError PredictedSlot :=
  match overlay.slot? location with
  | some slot => .ok slot
  | none =>
      if inventory.knows location.window || location.window = Window.ui then
        let item := inventory.itemOrEmpty location
        .ok ⟨item, item.stackId⟩
      else
        .error (.missingSlot location)

variable {α : Type}

/-- Uses a slot and keeps it, changed, in the overlay. -/
def use (inventory : Inventory) (location : Location)
    (change : PredictedSlot → α × PredictedSlot) : Action α := fun overlay =>
  match overlay.find inventory location with
  | .error failure => (.error failure, overlay)
  | .ok slot =>
      let (answer, changed) := change slot
      (.ok answer, overlay.setSlot location changed)

section Operations

variable (inventory : Inventory)

/-- The stack id under which a slot has to be named now. -/
def load (location : Location) : Action Int32 :=
  use inventory location fun slot => (slot.stackId, slot)

/-- The stack id under which a slot has to be named now. From now on it is that
of a request. -/
def reserve (location : Location) (requestId : Int32) : Action Int32 :=
  use inventory location fun slot => (slot.stackId, { slot with stackId := requestId })

def item (location : Location) : Action Item :=
  use inventory location fun slot => (slot.item, slot)

def write (location : Location) (item : Item) : Action Unit :=
  use inventory location fun slot => ((), { slot with item })

/-- Takes up to `count` items out of a slot. -/
def take (location : Location) (count : UInt8) : Action Item :=
  use inventory location fun slot =>
    let (taken, left) := slot.item.split count
    (taken, { slot with item := left })

/-- Puts an item onto what a slot holds. -/
def place (location : Location) (item : Item) : Action Unit :=
  use inventory location fun slot => ((), { slot with item := slot.item.stackOnto item })

def transfer (source target : Location) (count : UInt8) : Action Unit := do
  place inventory target (← take inventory source count)

def swap (first second : Location) : Action Unit := do
  let firstItem ← item inventory first
  let secondItem ← item inventory second
  write inventory first secondItem
  write inventory second firstItem

end Operations

end Overlay

end InventorySync
