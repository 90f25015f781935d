/-!
Windows and the slots in them. The player's own windows have fixed numbers and
are always there; every other number is the handle of a container that was
opened, good until it is closed.
-/

namespace InventorySync

set_option autoImplicit false

abbrev WindowId := UInt8

namespace Window

/-- Hotbar and main inventory. -/
def inventory : WindowId := 0

def offhand : WindowId := 119

def armor : WindowId := 120

/-- Cursor, inputs of workstations, and the slot where crafted items appear. Its
slots are transient, so it counts as available before it was ever filled. -/
def ui : WindowId := 124

/-- Whether a window belongs to the player and outlives every container. -/
def isPlayer (window : WindowId) : Bool :=
  window = inventory || window = offhand || window = armor || window = ui

end Window

/-- The inventory window starts with this many hotbar slots. -/
def hotbarSize : UInt8 := 9

/-- A slot of a window. -/
structure Location where
  window : WindowId
  slot : UInt8
  deriving DecidableEq, Repr, Inhabited

namespace Location

def text (location : Location) : String := s!"{location.window.toNat}:{location.slot.toNat}"

/-- Locations in the order of their windows, and of their slots in one window. -/
def index (location : Location) : Nat := location.window.toNat * 256 + location.slot.toNat

/-- Adds a location to an ascending list, unless it is there. -/
def insertInto (location : Location) : List Location → List Location
  | [] => [location]
  | first :: others =>
      if location = first then first :: others
      else if location.index < first.index then location :: first :: others
      else first :: insertInto location others

theorem mem_insertInto {location other : Location} {locations : List Location} :
    other ∈ insertInto location locations ↔ other = location ∨ other ∈ locations := by
  induction locations with
  | nil => simp [insertInto]
  | cons first others induction =>
      unfold insertInto
      split
      · next same => simp [same]
      · split
        · simp
        · simp [induction, or_left_comm]

end Location

namespace UiSlot

def cursor : Location := ⟨Window.ui, 0⟩

def anvilInput : Location := ⟨Window.ui, 1⟩

def anvilMaterial : Location := ⟨Window.ui, 2⟩

def loomInput : Location := ⟨Window.ui, 9⟩

def loomDye : Location := ⟨Window.ui, 10⟩

def loomMaterial : Location := ⟨Window.ui, 11⟩

/-- Where an item appears when it is crafted or taken from the creative list. -/
def createdOutput : Location := ⟨Window.ui, 50⟩

end UiSlot

end InventorySync
