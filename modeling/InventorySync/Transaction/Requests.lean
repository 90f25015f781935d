import InventorySync.Keyed
import InventorySync.Transaction.Compile

/-!
Requests that wait for their answers. Every request is registered before it is
sent, and its registration is taken out when its answer arrives, so an answer is
used at most once.
-/

namespace InventorySync

set_option autoImplicit false

/-- What is kept of a request until it is answered. `κ` stands for what is told
of the answer. -/
structure Registration (κ : Type) where
  windows : RoleWindows
  predictions : Predictions
  completion : κ

namespace Registration

variable {κ : Type}

/-- Writes one acknowledged slot. The item is built on the predicted one, or on
the present one where none was predicted. -/
def applyAck (registration : Registration κ) (window : WindowId) (inventory : Inventory)
    (ack : SlotAck) : Inventory :=
  let location : Location := ⟨window, ack.slot⟩
  let prediction := (registration.predictions.find? location).getD {}
  let base := prediction.template.getD (inventory.itemOrEmpty location)
  inventory.set location (base.reconcile ack prediction.expectation)

/-- Writes the slots of one role. A role that the request did not use is passed over. -/
def applyGroup (registration : Registration κ) (inventory : Inventory) (group : RoleAcks) :
    Inventory :=
  match (Role.ofNumber? group.roleNumber).bind registration.windows.window? with
  | none => inventory
  | some window => group.acks.foldl (registration.applyAck window) inventory

/-- The inventory after the answer to this request. A rejected one changed nothing. -/
def apply (registration : Registration κ) (inventory : Inventory) (response : StackResponse) :
    Inventory :=
  if response.isAccepted then response.groups.foldl registration.applyGroup inventory
  else inventory

end Registration

structure RequestTable (κ : Type) where
  nextId : Int32 := -1
  pending : List (Int32 × Registration κ) := []

namespace RequestTable

variable {κ : Type}

def newId (table : RequestTable κ) : Int32 × RequestTable κ :=
  (table.nextId, { table with nextId := Compile.idAfter table.nextId })

def find? (table : RequestTable κ) (requestId : Int32) : Option (Registration κ) :=
  table.pending.lookup requestId

def isPending (table : RequestTable κ) (requestId : Int32) : Bool :=
  (table.find? requestId).isSome

/-- Forgets a request, answered or not. -/
def remove (table : RequestTable κ) (requestId : Int32) : RequestTable κ :=
  { table with pending := Keyed.erase table.pending requestId }

/-- Registers a request in place of any other with its id. -/
def register (table : RequestTable κ) (requestId : Int32) (registration : Registration κ) :
    RequestTable κ :=
  { table with pending := Keyed.put table.pending requestId registration }

theorem find?_remove (table : RequestTable κ) (requestId other : Int32) :
    (table.remove requestId).find? other =
      if other = requestId then none else table.find? other :=
  Keyed.lookup_erase table.pending requestId other

theorem find?_register (table : RequestTable κ) (requestId other : Int32)
    (registration : Registration κ) :
    (table.register requestId registration).find? other =
      if other = requestId then some registration else table.find? other :=
  Keyed.lookup_put table.pending requestId other registration

/-- What a batch of answers leads to. -/
structure Settlement (κ : Type) where
  table : RequestTable κ
  inventory : Inventory
  /-- The answered requests, in the order of the answers. -/
  completed : List (κ × StackResponse)
  /-- The ids of answers to requests that were not waiting. -/
  unknown : List Int32

/-- Goes through a batch of answers. Answers to requests that are not waiting
change nothing and do not hold up the others. -/
def settle : List StackResponse → RequestTable κ → Inventory → Settlement κ
  | [], table, inventory => ⟨table, inventory, [], []⟩
  | response :: later, table, inventory =>
      match table.find? response.requestId with
      | none =>
          let rest := settle later table inventory
          { rest with unknown := response.requestId :: rest.unknown }
      | some registration =>
          let rest := settle later (table.remove response.requestId)
            (registration.apply inventory response)
          { rest with completed := (registration.completion, response) :: rest.completed }

def Settlement.outcome (settlement : Settlement κ) : Except SyncError Unit :=
  if settlement.unknown.isEmpty then .ok () else .error (.desynchronized settlement.unknown)

end RequestTable

end InventorySync
