import InventorySync.Nbt.Decidable

/-!
Item stacks. A stack of type zero or of no items is as good as none, whatever
else it says.
-/

namespace InventorySync

set_option autoImplicit false

structure Item where
  /-- The item type. Zero is air. -/
  typeId : Int32 := 0
  count : UInt16 := 0
  metadata : UInt16 := 0
  /-- The block that the item places, if it is one. -/
  blockTypeId : Int32 := 0
  userData : Option Nbt.Compound := none
  canPlaceOn : List String := []
  canDestroy : List String := []
  /-- The server's name for this stack, or the request that touched it last. -/
  stackId : Int32 := 0
  deriving DecidableEq, Repr, Inhabited

namespace Item

/-- Nothing: the content of a slot that is known to be empty. -/
def empty : Item := {}

def isEmpty (item : Item) : Bool := item.typeId = 0 || item.count = 0

/-- Whether two stacks are equal, with user data compared by value. -/
def sameValue (left right : Item) : Bool :=
  left.typeId = right.typeId && left.count = right.count &&
    left.metadata = right.metadata && left.blockTypeId = right.blockTypeId &&
    (match left.userData, right.userData with
      | none, none => true
      | some first, some second => first.sameValue second
      | _, _ => false) &&
    left.canPlaceOn = right.canPlaceOn && left.canDestroy = right.canDestroy &&
    left.stackId = right.stackId

/-- The number of items, none if the stack is as good as none. -/
def amount (item : Item) : Nat := if item.isEmpty then 0 else item.count.toNat

/-- Splits off at most `wanted` items. The remainder is nothing at all once no
item is left. -/
def split (item : Item) (wanted : UInt8) : Item × Item :=
  if item.isEmpty then
    (empty, item)
  else
    let taken := min wanted.toUInt16 item.count
    let left := item.count - taken
    ({ item with count := taken }, if left = 0 then empty else { item with count := left })

/-- The sum of two counts, or the largest count if it is less. -/
def addCounts (left right : UInt16) : UInt16 :=
  UInt16.ofNat (min (left.toNat + right.toNat) 65535)

/-- What a slot holds after `added` was put onto `present`. Onto another stack
only the number of items is added, whatever the types are. -/
def stackOnto (present added : Item) : Item :=
  if added.isEmpty then present
  else if present.isEmpty then added
  else { present with count := addCounts present.count added.count }

end Item

end InventorySync
