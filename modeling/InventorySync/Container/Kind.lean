/-!
The numbers of the container types that the library tells apart.
-/

namespace InventorySync.ContainerType

set_option autoImplicit false

def chest : UInt8 := 0

def anvil : UInt8 := 5

def dispenser : UInt8 := 6

def dropper : UInt8 := 7

def hopper : UInt8 := 8

def minecartChest : UInt8 := 10

def minecartHopper : UInt8 := 11

def loom : UInt8 := 24

def chestBoat : UInt8 := 34

/-- The types whose slots all play the same part, that of a block's own storage. -/
def isStorage (containerType : UInt8) : Bool :=
  [chest, dispenser, dropper, hopper, minecartChest, minecartHopper, chestBoat].contains
    containerType

end InventorySync.ContainerType
