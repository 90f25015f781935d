/-!
The list of items that can be had for nothing. An entry is found by its own
number or by the item type that it gives.
-/

namespace InventorySync

set_option autoImplicit false

/-- How an entry of the creative list is asked for. -/
inductive CreativeSource where
  | networkId (id : UInt32)
  | itemType (id : Int32)
  deriving DecidableEq, Repr, Inhabited

def CreativeSource.text : CreativeSource → String
  | .networkId id => s!"NetworkId({id.toNat})"
  | .itemType id => s!"ItemType({id.toInt})"

structure CreativeEntry where
  networkId : UInt32
  itemType : Int32
  deriving DecidableEq, Repr, Inhabited

abbrev CreativeIndex := List CreativeEntry

namespace CreativeIndex

/-- The item type of an entry. If its number occurs again, the later one counts. -/
def itemType? (index : CreativeIndex) (networkId : UInt32) : Option Int32 :=
  (index.reverse.find? fun entry => entry.networkId = networkId).map CreativeEntry.itemType

/-- The first entry that gives an item type. -/
def networkId? (index : CreativeIndex) (itemType : Int32) : Option UInt32 :=
  (index.find? fun entry => entry.itemType = itemType).map CreativeEntry.networkId

end CreativeIndex

end InventorySync
