import InventorySync.Packet.Container

/-!
What the client knows about the server's inventories. A window is known once
something was written to it; a slot of a known window may still be absent. The
content of a window replaces whatever was known of it.
-/

namespace InventorySync

set_option autoImplicit false

/-- The slots of one window. -/
abbrev Slots := UInt8 → Option Item

structure Inventory where
  /-- The slots of a window, unless the window is unknown. -/
  window? : WindowId → Option Slots

/-- A slot and the item that it holds now. -/
structure SlotChange where
  location : Location
  item : Item
  deriving DecidableEq, Repr, Inhabited

namespace Inventory

def empty : Inventory := ⟨fun _ => none⟩

def knows (inventory : Inventory) (window : WindowId) : Bool := (inventory.window? window).isSome

def item? (inventory : Inventory) (location : Location) : Option Item :=
  (inventory.window? location.window).bind fun slots => slots location.slot

/-- The item in a slot, nothing if the slot is absent. -/
def itemOrEmpty (inventory : Inventory) (location : Location) : Item :=
  (inventory.item? location).getD .empty

def setWindow (inventory : Inventory) (window : WindowId) (slots : Option Slots) : Inventory :=
  ⟨fun other => if other = window then slots else inventory.window? other⟩

/-- Writes one slot, in a window that is known from now on. -/
def set (inventory : Inventory) (location : Location) (item : Item) : Inventory :=
  let slots : Slots := (inventory.window? location.window).getD fun _ => none
  inventory.setWindow location.window <| some fun other =>
    if other = location.slot then some item else slots other

def forget (inventory : Inventory) (window : WindowId) : Inventory :=
  inventory.setWindow window none

theorem window?_setWindow (inventory : Inventory) (window other : WindowId)
    (slots : Option Slots) :
    (inventory.setWindow window slots).window? other =
      if other = window then slots else inventory.window? other := rfl

theorem item?_set (inventory : Inventory) (location other : Location) (item : Item) :
    (inventory.set location item).item? other =
      if other = location then some item else inventory.item? other := by
  obtain ⟨window, slot⟩ := location
  obtain ⟨otherWindow, otherSlot⟩ := other
  by_cases same : otherWindow = window
  · subst same
    by_cases hit : otherSlot = slot
    · simp [item?, set, setWindow, hit]
    · cases known : inventory.window? otherWindow <;> simp [item?, set, setWindow, hit, known]
  · simp [item?, set, setWindow, same]

theorem knows_set (inventory : Inventory) (location : Location) (item : Item)
    (window : WindowId) :
    (inventory.set location item).knows window =
      (window = location.window || inventory.knows window) := by
  by_cases same : window = location.window <;> simp [knows, set, setWindow, same]

theorem item?_forget (inventory : Inventory) (window : WindowId) (location : Location) :
    (inventory.forget window).item? location =
      if location.window = window then none else inventory.item? location := by
  by_cases same : location.window = window <;> simp [item?, forget, setWindow, same]

/-- The slots of a window that holds these items and no others. -/
def slotsOf (items : List Item) : Slots := fun slot => items[slot.toNat]?

/-- What a slot shows to an observer when its window is replaced: the new item if
it is not the old one, or nothing where an item used to be. -/
def change? (before after : Slots) (slot : UInt8) : Option Item :=
  match after slot with
  | some item =>
      if (before slot).any fun old => old.sameValue item then none else some item
  | none => if (before slot).any fun old => !old.isEmpty then some .empty else none

def slotNumbers : List UInt8 := (List.range 256).map UInt8.ofNat

/-- Replaces a window, and lists what changed in it by ascending slot. There are
no slots for items beyond the first 256. -/
def replace (inventory : Inventory) (window : WindowId) (items : List Item) :
    Inventory × List SlotChange :=
  let before : Slots := (inventory.window? window).getD fun _ => none
  let after := slotsOf items
  (inventory.setWindow window (some after),
    slotNumbers.filterMap fun slot =>
      (change? before after slot).map fun item => ⟨⟨window, slot⟩, item⟩)

/-- Takes over the content of a window. There is no window with a number above
255. -/
def apply (inventory : Inventory) (content : WindowContent) : Inventory × List SlotChange :=
  if content.windowNumber.toNat < 256 then
    inventory.replace content.windowNumber.toUInt8 content.items
  else
    (inventory, [])

/-- The slots that are present in a known window, ascending. -/
def present? (inventory : Inventory) (window : WindowId) : Option (List (UInt8 × Item)) :=
  (inventory.window? window).map fun slots =>
    slotNumbers.filterMap fun slot => (slots slot).map fun item => (slot, item)

def knownWindows (inventory : Inventory) : List WindowId := slotNumbers.filter inventory.knows

end Inventory

end InventorySync
