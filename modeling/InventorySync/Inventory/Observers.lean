import InventorySync.Inventory.Basic
import InventorySync.Keyed

/-!
One-shot observers of slots. There is at most one for a slot, and it is removed
before it runs.
-/

namespace InventorySync

set_option autoImplicit false

/-- The callbacks that wait for a change of a slot. -/
abbrev Observers (τ : Type) := List (Location × τ)

namespace Observers

variable {τ : Type}

def find? (observers : Observers τ) (location : Location) : Option τ := observers.lookup location

/-- Registers a callback in place of any other for the slot. -/
def set (observers : Observers τ) (location : Location) (callback : τ) : Observers τ :=
  Keyed.put observers location callback

theorem find?_set (observers : Observers τ) (location other : Location) (callback : τ) :
    (observers.set location callback).find? other =
      if other = location then some callback else observers.find? other :=
  Keyed.lookup_put observers location other callback

/-- Takes out the observers of changed slots. -/
def take (observers : Observers τ) (changes : List SlotChange) :
    List (τ × SlotChange) × Observers τ :=
  (changes.filterMap fun change =>
      (observers.find? change.location).map fun callback => (callback, change),
    observers.filter fun entry => !changes.any fun change => change.location = entry.1)

end Observers

end InventorySync
