import InventorySync.Transaction.Overlay

/-!
An overlay over an inventory, seen as one slot for each location. Everything that
is done to it goes through `Overlay.use`, so that it is enough to say there what
an action reads, what it writes, and when it fails.
-/

namespace InventorySync

set_option autoImplicit false

namespace Overlay

/-- The slot that the next operation finds, provided that it may use the slot. -/
def slotAt (overlay : Overlay) (inventory : Inventory) (location : Location) : PredictedSlot :=
  (overlay.slot? location).getD
    ⟨inventory.itemOrEmpty location, (inventory.itemOrEmpty location).stackId⟩

def itemAt (overlay : Overlay) (inventory : Inventory) (location : Location) : Item :=
  (overlay.slotAt inventory location).item

def stackIdAt (overlay : Overlay) (inventory : Inventory) (location : Location) : Int32 :=
  (overlay.slotAt inventory location).stackId

def available (overlay : Overlay) (inventory : Inventory) (location : Location) : Bool :=
  (overlay.slot? location).isSome || inventory.knows location.window ||
    location.window = Window.ui

def setStackId (overlay : Overlay) (inventory : Inventory) (location : Location)
    (stackId : Int32) : Overlay :=
  overlay.setSlot location { overlay.slotAt inventory location with stackId }

section View

variable (overlay : Overlay) (inventory : Inventory) (location other : Location)

theorem slotAt_setSlot (slot : PredictedSlot) :
    (overlay.setSlot location slot).slotAt inventory other =
      if other = location then slot else overlay.slotAt inventory other := by
  unfold slotAt
  rw [slot?_setSlot]
  by_cases same : other = location
  · rw [if_pos same, if_pos same, Option.getD_some]
  · rw [if_neg same, if_neg same]

theorem itemAt_setStackId (stackId : Int32) :
    (overlay.setStackId inventory location stackId).itemAt inventory other =
      overlay.itemAt inventory other := by
  unfold itemAt setStackId
  rw [slotAt_setSlot]
  split
  · next same => rw [same]
  · rfl

/-- To take a slot over as it is changes no item. -/
theorem itemAt_setSlot_slotAt :
    (overlay.setSlot location (overlay.slotAt inventory location)).itemAt inventory =
      overlay.itemAt inventory := by
  funext other
  unfold itemAt
  rw [slotAt_setSlot]
  split
  · next same => rw [same]
  · rfl

theorem find_eq :
    overlay.find inventory location =
      if overlay.available inventory location then .ok (overlay.slotAt inventory location)
      else .error (.missingSlot location) := by
  unfold find available slotAt
  cases overlay.slot? location <;> simp

end View

section Actions

variable {α β : Type} {overlay after : Overlay} {inventory : Inventory} {failure : SyncError}

theorem use_eq (inventory : Inventory) (location : Location)
    (change : PredictedSlot → α × PredictedSlot) (overlay : Overlay) :
    use inventory location change overlay =
      if overlay.available inventory location then
        (.ok (change (overlay.slotAt inventory location)).1,
          overlay.setSlot location (change (overlay.slotAt inventory location)).2)
      else (.error (.missingSlot location), overlay) := by
  unfold use
  rw [find_eq]
  by_cases known : overlay.available inventory location
  · rw [if_pos known, if_pos known]
  · rw [if_neg known, if_neg known]

theorem use_ok {location : Location} {change : PredictedSlot → α × PredictedSlot} {answer : α} :
    use inventory location change overlay = (.ok answer, after) ↔
      overlay.available inventory location ∧
        (change (overlay.slotAt inventory location)).1 = answer ∧
        overlay.setSlot location (change (overlay.slotAt inventory location)).2 = after := by
  rw [use_eq, Prod.ext_iff]
  by_cases known : overlay.available inventory location
  · simp [known]
  · simp [known]

theorem use_error {location : Location} {change : PredictedSlot → α × PredictedSlot} :
    use inventory location change overlay = (.error failure, after) ↔
      overlay.available inventory location = false ∧ .missingSlot location = failure ∧
        overlay = after := by
  rw [use_eq, Prod.ext_iff]
  by_cases known : overlay.available inventory location
  · simp [known]
  · simp [known]

theorem bind_eq (first : Action α) (next : α → Action β) (overlay : Overlay) :
    (first >>= next) overlay =
      match first overlay with
      | (.ok middle, between) => next middle between
      | (.error failure, between) => (.error failure, between) := by
  simp only [bind, ExceptT.bind, ExceptT.mk, StateT.bind]
  rcases first overlay with ⟨failure | middle, between⟩
  · rfl
  · rfl

theorem bind_ok {first : Action α} {next : α → Action β} {answer : β} :
    (first >>= next) overlay = (.ok answer, after) ↔
      ∃ middle between, first overlay = (.ok middle, between) ∧
        next middle between = (.ok answer, after) := by
  rw [bind_eq]
  rcases first overlay with ⟨failure | result, between⟩
  · constructor
    · intro succeeds
      cases succeeds
    · rintro ⟨middle, reached, same, -⟩
      cases same
  · constructor
    · exact fun succeeds => ⟨result, between, rfl, succeeds⟩
    · rintro ⟨middle, reached, same, succeeds⟩
      cases same
      exact succeeds

theorem bind_error {first : Action α} {next : α → Action β} :
    (first >>= next) overlay = (.error failure, after) ↔
      first overlay = (.error failure, after) ∨
        ∃ middle between, first overlay = (.ok middle, between) ∧
          next middle between = (.error failure, after) := by
  rw [bind_eq]
  rcases first overlay with ⟨other | result, between⟩
  · constructor
    · intro fails
      cases fails
      exact .inl rfl
    · rintro (fails | ⟨middle, reached, same, -⟩)
      · cases fails
        rfl
      · cases same
  · constructor
    · exact fun fails => .inr ⟨result, between, rfl, fails⟩
    · rintro (fails | ⟨middle, reached, same, fails⟩)
      · cases fails
      · cases same
        exact fails

/-- The action leaves the id under which each slot has to be named. Only
`Overlay.reserve` is not of this kind. -/
def KeepsStackIds (inventory : Inventory) (action : Action α) : Prop :=
  ∀ overlay answer after, action overlay = (.ok answer, after) →
    after.stackIdAt inventory = overlay.stackIdAt inventory

theorem keepsStackIds_use {location : Location} {change : PredictedSlot → α × PredictedSlot}
    (keeps : ∀ slot, (change slot).2.stackId = slot.stackId) :
    KeepsStackIds inventory (use inventory location change) := by
  intro overlay answer after used
  obtain ⟨-, -, rfl⟩ := use_ok.1 used
  funext other
  unfold stackIdAt
  rw [slotAt_setSlot]
  split
  · next same => rw [keeps, same]
  · rfl

theorem KeepsStackIds.bind {first : Action α} {next : α → Action β}
    (head : KeepsStackIds inventory first)
    (tail : ∀ middle, KeepsStackIds inventory (next middle)) :
    KeepsStackIds inventory (first >>= next) := by
  intro overlay answer after ran
  obtain ⟨middle, between, began, ended⟩ := bind_ok.1 ran
  exact (tail middle between answer after ended).trans (head overlay middle between began)

variable (inventory)

theorem keepsStackIds_item (location : Location) :
    KeepsStackIds inventory (item inventory location) :=
  keepsStackIds_use fun _ => rfl

theorem keepsStackIds_write (location : Location) (item : Item) :
    KeepsStackIds inventory (write inventory location item) :=
  keepsStackIds_use fun _ => rfl

theorem keepsStackIds_take (location : Location) (count : UInt8) :
    KeepsStackIds inventory (take inventory location count) :=
  keepsStackIds_use fun _ => rfl

theorem keepsStackIds_place (location : Location) (item : Item) :
    KeepsStackIds inventory (place inventory location item) :=
  keepsStackIds_use fun _ => rfl

theorem keepsStackIds_transfer (source target : Location) (count : UInt8) :
    KeepsStackIds inventory (transfer inventory source target count) :=
  (keepsStackIds_take inventory source count).bind fun taken =>
    keepsStackIds_place inventory target taken

theorem keepsStackIds_swap (first second : Location) :
    KeepsStackIds inventory (swap inventory first second) :=
  (keepsStackIds_item inventory first).bind fun firstItem =>
    (keepsStackIds_item inventory second).bind fun secondItem =>
      (keepsStackIds_write inventory first secondItem).bind fun _ =>
        keepsStackIds_write inventory second firstItem

end Actions

end Overlay

end InventorySync
