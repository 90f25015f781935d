import InventorySync.Item.Basic

/-!
The name that a player gave to an item. It is an entry of a compound that is
itself an entry of the user data; neither compound is kept once it is empty.
-/

namespace InventorySync.DisplayName

set_option autoImplicit false

def displayKey : String := "display"

def nameKey : String := "Name"

/-- The display compound, taken as empty if there is none or another tag instead. -/
def displayOf (root : Nbt.Compound) : Nbt.Compound :=
  ((Nbt.Compound.get? root displayKey).bind Nbt.Tag.compound?).getD []

def read? (userData : Option Nbt.Compound) : Option String := do
  let root ← userData
  let display ← (← Nbt.Compound.get? root displayKey).compound?
  (← Nbt.Compound.get? display nameKey).string?

def write (userData : Option Nbt.Compound) (name : String) : Nbt.Compound :=
  let root := userData.getD []
  let display := Nbt.Compound.set (displayOf root) nameKey (.string name)
  Nbt.Compound.set root displayKey (.compound display)

/-- Removes the name and a display compound that has nothing else. A tag of
another type in the place of the compound is left alone. -/
def removeFrom (root : Nbt.Compound) : Nbt.Compound :=
  match Nbt.Compound.get? root displayKey with
  | some (.compound display) =>
      let others := Nbt.Compound.erase display nameKey
      if others.isEmpty then Nbt.Compound.erase root displayKey
      else Nbt.Compound.set root displayKey (.compound others)
  | _ => root

/-- User data without an entry is no user data. -/
def unlessEmpty (compound : Nbt.Compound) : Option Nbt.Compound :=
  if compound.isEmpty then none else some compound

/-- Gives the item another name, or takes its name away if the name is empty. -/
def patch (userData : Option Nbt.Compound) (name : String) : Option Nbt.Compound :=
  if name = "" then userData.bind fun root => unlessEmpty (removeFrom root)
  else some (write userData name)

end InventorySync.DisplayName
