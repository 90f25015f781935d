import InventorySync.Item.DisplayName
import InventorySync.Packet.Response

/-!
The item that a slot holds after an accepted request. The server repeats only
its count, stack id and name. Everything else comes from a base, which is the
predicted or the present item, and from what the caller declared.
-/

namespace InventorySync

set_option autoImplicit false

/-- What a caller declares about an item that the server will not describe. -/
structure Expectation where
  /-- Replaces the item type. -/
  typeId : Option Int32 := none
  /-- Replaces the user data as a whole, the name included. -/
  userData : Option Nbt.Compound := none
  /-- Is added to the repair cost. -/
  repairCostDelta : Option Int32 := none
  deriving DecidableEq, Repr, Inhabited

/-- What a slot is expected to hold once a request is accepted. -/
structure Prediction where
  template : Option Item := none
  expectation : Option Expectation := none
  deriving DecidableEq, Repr, Inhabited

def repairCostKey : String := "RepairCost"

/-- A repair cost that is missing, or not an integer, counts as zero. -/
def repairCost (userData : Option Nbt.Compound) : Int32 :=
  (((userData.bind fun root => Nbt.Compound.get? root repairCostKey).bind Nbt.Tag.int?)).getD 0

def raiseRepairCost (userData : Option Nbt.Compound) (delta : Int32) : Nbt.Compound :=
  Nbt.Compound.set (userData.getD []) repairCostKey (.int (repairCost userData + delta))

namespace Expectation

/-- User data after an acknowledgement with this name. -/
def userDataAfter (expectation : Expectation) (before : Option Nbt.Compound) (name : String) :
    Option Nbt.Compound :=
  let named := match expectation.userData with
    | some declared => DisplayName.unlessEmpty declared
    | none => DisplayName.patch before name
  match expectation.repairCostDelta with
  | some delta => some (raiseRepairCost named delta)
  | none => named

end Expectation

/-- The item that an acknowledgement leaves in a slot. -/
def Item.reconcile (base : Item) (ack : SlotAck) (declared : Option Expectation) : Item :=
  if ack.count = 0 then
    .empty
  else
    let expectation := declared.getD {}
    { base with
      typeId := expectation.typeId.getD base.typeId
      count := ack.count.toUInt16
      stackId := ack.stackId
      userData := expectation.userDataAfter base.userData ack.customName }

end InventorySync
