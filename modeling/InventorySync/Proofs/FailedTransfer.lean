import InventorySync.Proofs.RequestMeaning
import InventorySync.Session

/-!
What is left of an operation on an overlay that failed. It fails at the first of its slots that
may not be used. Until then it has only looked at slots, with one exception: a transfer takes its
items out of one slot before it asks for the other, and what it took is in neither of them if
the other may not be used.
-/

namespace InventorySync

set_option autoImplicit false

/-- What can be done with an overlay. -/
inductive OverlayOperation where
  | load (location : Location)
  | reserve (location : Location) (requestId : Int32)
  | item (location : Location)
  | take (location : Location) (count : UInt8)
  | place (location : Location) (item : Item)
  | swap (first second : Location)
  | transfer (source target : Location) (count : UInt8)
  deriving DecidableEq, Repr

namespace OverlayOperation

/-- The slots that an operation needs, in the order in which it asks for them. -/
def slots : OverlayOperation → List Location
  | .load location | .reserve location _ | .item location | .take location _
  | .place location _ => [location]
  | .swap first second => [first, second]
  | .transfer source target _ => [source, target]

def act (inventory : Inventory) : OverlayOperation → Overlay.Action SessionReply
  | .load location => return .requestId (← Overlay.load inventory location)
  | .reserve location requestId =>
      return .requestId (← Overlay.reserve inventory location requestId)
  | .item location => return .item (← Overlay.item inventory location)
  | .take location count => return .item (← Overlay.take inventory location count)
  | .place location added => do
      Overlay.place inventory location added
      return .done
  | .swap first second => do
      Overlay.swap inventory first second
      return .done
  | .transfer source target count => do
      Overlay.transfer inventory source target count
      return .done

/-- How many items an operation takes out of a slot before it asks for another. -/
def underWay (inventory : Inventory) (overlay : Overlay) : OverlayOperation → Nat
  | .transfer source _ count =>
      if overlay.available inventory source then
        min count.toNat (overlay.itemAt inventory source).amount
      else 0
  | _ => 0

end OverlayOperation

namespace Overlay

variable {α β : Type} {overlay after : Overlay} {inventory : Inventory} {failure : SyncError}

/-- What is answered in the end does not fail. -/
theorem answer_error {action : Action α} {change : α → β} :
    (do return change (← action) : Action β) overlay = (.error failure, after) ↔
      action overlay = (.error failure, after) := by
  rw [bind_error]
  refine or_iff_left ?_
  rintro ⟨middle, between, -, fails⟩
  cases fails

theorem available_setSlot (location other : Location) (slot : PredictedSlot) :
    (overlay.setSlot location slot).available inventory other =
      (other = location || overlay.available inventory other) := by
  unfold available
  rw [slot?_setSlot]
  by_cases same : other = location
  · simp [same]
  · simp [same]

/-- Nothing is predicted otherwise than before, and the same slots may be used. -/
structure Spares (inventory : Inventory) (overlay after : Overlay) : Prop where
  predictions : after.slotAt inventory = overlay.slotAt inventory
  available : after.available inventory = overlay.available inventory

theorem Spares.refl (overlay : Overlay) : Spares inventory overlay overlay := ⟨rfl, rfl⟩

theorem available_used {location : Location} {change : PredictedSlot → α × PredictedSlot}
    {answer : α} (used : use inventory location change overlay = (.ok answer, after)) :
    overlay.available inventory location ∧
      after.available inventory = overlay.available inventory := by
  obtain ⟨usable, -, rfl⟩ := use_ok.1 used
  refine ⟨usable, ?_⟩
  funext other
  rw [available_setSlot]
  by_cases same : other = location
  · simp [same, usable]
  · simp [same]

/-- To look at a slot changes no prediction. -/
theorem item_spares {location : Location} {found : Item}
    (read : item inventory location overlay = (.ok found, after)) :
    Spares inventory overlay after := by
  refine ⟨?_, (available_used read).2⟩
  obtain ⟨-, -, rfl⟩ := use_ok.1 read
  funext other
  rw [slotAt_setSlot]
  split
  · next same => rw [same]
  · rfl

section Failures

/-- The first of these slots that may not be used is the reason of the failure. -/
def Blames (inventory : Inventory) (overlay : Overlay) (slots : List Location)
    (failure : SyncError) : Prop :=
  (slots.find? fun location => !overlay.available inventory location).map SyncError.missingSlot =
    some failure

theorem blames_first {location : Location} {later : List Location}
    (unusable : overlay.available inventory location = false) :
    Blames inventory overlay (location :: later) (.missingSlot location) := by
  unfold Blames
  simp [unusable]

theorem blames_second {first second : Location} (usable : overlay.available inventory first)
    (unusable : overlay.available inventory second = false) :
    Blames inventory overlay [first, second] (.missingSlot second) := by
  unfold Blames
  simp [usable, unusable]

theorem use_leaves {location : Location} {change : PredictedSlot → α × PredictedSlot}
    (fails : use inventory location change overlay = (.error failure, after)) :
    Blames inventory overlay [location] failure ∧ Spares inventory overlay after := by
  obtain ⟨unusable, rfl, rfl⟩ := use_error.1 fails
  exact ⟨blames_first unusable, .refl overlay⟩

theorem swap_leaves {first second : Location}
    (fails : swap inventory first second overlay = (.error failure, after)) :
    Blames inventory overlay [first, second] failure ∧ Spares inventory overlay after := by
  rcases bind_error.1 fails with missing | ⟨firstItem, between, read, rest⟩
  · obtain ⟨unusable, rfl, rfl⟩ := use_error.1 missing
    exact ⟨blames_first unusable, .refl overlay⟩
  · obtain ⟨usable, same⟩ := available_used read
    rcases bind_error.1 rest with missing | ⟨secondItem, middle, readToo, writes⟩
    · obtain ⟨unusable, rfl, rfl⟩ := use_error.1 missing
      rw [same] at unusable
      exact ⟨blames_second usable unusable, item_spares read⟩
    · -- Both slots are in use by now, so that neither of the two writes can fail.
      obtain ⟨usableToo, sameToo⟩ := available_used readToo
      rcases bind_error.1 writes with missing | ⟨_, written, wrote, last⟩
      · obtain ⟨unusable, -, -⟩ := use_error.1 missing
        rw [sameToo, same, usable] at unusable
        cases unusable
      · obtain ⟨unusable, -, -⟩ := use_error.1 last
        rw [(available_used wrote).2, sameToo, usableToo] at unusable
        cases unusable

/-- A slot that items are taken out of keeps the others. -/
theorem take_itemAt {location : Location} {count : UInt8} {taken : Item}
    (took : take inventory location count overlay = (.ok taken, after)) :
    after.itemAt inventory = Items.take (overlay.itemAt inventory) location count := by
  obtain ⟨-, -, rfl⟩ := use_ok.1 took
  funext other
  unfold itemAt Items.take Items.put
  rw [slotAt_setSlot]
  split
  · rfl
  · rfl

theorem transfer_leaves {source target : Location} {count : UInt8}
    (fails : transfer inventory source target count overlay = (.error failure, after)) :
    Blames inventory overlay [source, target] failure ∧
      (overlay.available inventory source = false ∧ after = overlay ∨
        overlay.available inventory source ∧
          after.available inventory = overlay.available inventory ∧
          after.stackIdAt inventory = overlay.stackIdAt inventory ∧
          after.itemAt inventory = Items.take (overlay.itemAt inventory) source count) := by
  rcases bind_error.1 fails with missing | ⟨taken, between, took, missing⟩
  · obtain ⟨unusable, rfl, rfl⟩ := use_error.1 missing
    exact ⟨blames_first unusable, .inl ⟨unusable, rfl⟩⟩
  · obtain ⟨usable, same⟩ := available_used took
    obtain ⟨unusable, rfl, rfl⟩ := use_error.1 missing
    rw [same] at unusable
    exact ⟨blames_second usable unusable, .inr ⟨usable, same,
      keepsStackIds_take inventory source count _ _ _ took, take_itemAt took⟩⟩

end Failures

end Overlay

namespace OverlayOperation

variable {inventory : Inventory} {overlay after : Overlay} {operation : OverlayOperation}
  {failure : SyncError}

/-- What an operation leaves behind if it fails. -/
structure Leaves (operation : OverlayOperation) (inventory : Inventory) (overlay : Overlay)
    (failure : SyncError) (after : Overlay) : Prop where
  reason : Overlay.Blames inventory overlay operation.slots failure
  available : after.available inventory = overlay.available inventory
  stackIds : after.stackIdAt inventory = overlay.stackIdAt inventory
  /-- What a transfer took out of its first slot is gone. -/
  transferred : ∀ source target count, operation = .transfer source target count →
    after.itemAt inventory = Items.put (overlay.itemAt inventory) source
      ((overlay.itemAt inventory source).without (operation.underWay inventory overlay))
  /-- No item is predicted otherwise than before just if nothing was under way. -/
  spared : after.itemAt inventory = overlay.itemAt inventory ↔
    operation.underWay inventory overlay = 0

theorem Leaves.of_spares (reason : Overlay.Blames inventory overlay operation.slots failure)
    (spares : Overlay.Spares inventory overlay after)
    (still : operation.underWay inventory overlay = 0) :
    operation.Leaves inventory overlay failure after := by
  have items : after.itemAt inventory = overlay.itemAt inventory := by
    funext location
    exact congrArg PredictedSlot.item (congrFun spares.predictions location)
  constructor
  case reason => exact reason
  case available => exact spares.available
  case stackIds =>
    funext location
    exact congrArg PredictedSlot.stackId (congrFun spares.predictions location)
  case transferred =>
    intro source target count _
    funext location
    rw [items, still]
    unfold Items.put Item.without
    split
    · next same => rw [same, if_pos rfl]
    · rfl
  case spared => exact iff_of_true items still

theorem leaves_transfer {source target : Location} {count : UInt8}
    (fails : Overlay.transfer inventory source target count overlay = (.error failure, after)) :
    (transfer source target count).Leaves inventory overlay failure after := by
  obtain ⟨reason, ⟨unusable, rfl⟩ | ⟨usable, available, stackIds, items⟩⟩ :=
    Overlay.transfer_leaves fails
  · have still : (transfer source target count).underWay inventory after = 0 :=
      if_neg (Bool.eq_false_iff.1 unusable)
    exact .of_spares reason (.refl after) still
  · have moving : (transfer source target count).underWay inventory overlay =
        min count.toNat (overlay.itemAt inventory source).amount := if_pos usable
    constructor
    case reason => exact reason
    case available => exact available
    case stackIds => exact stackIds
    case transferred =>
      rintro _ _ _ ⟨⟩
      rw [items, moving, ← Item.split_snd]
      rfl
    case spared =>
      rw [items, moving]
      constructor
      · intro same
        have kept : ((overlay.itemAt inventory source).split count).2 =
            overlay.itemAt inventory source := (if_pos rfl).symm.trans (congrFun same source)
        have parts := ((overlay.itemAt inventory source).amount_split count).2
        rw [kept] at parts
        omega
      · intro none
        funext location
        unfold Items.take Items.put
        rw [Item.split_snd, none]
        split
        · next same => rw [same, Item.without, if_pos rfl]
        · rfl

/-- An operation that fails changes nothing, unless it is a transfer that took items out of its
first slot: these are lost. -/
theorem failed_transfers_lose_what_they_took
    (fails : operation.act inventory overlay = (.error failure, after)) :
    operation.Leaves inventory overlay failure after := by
  cases operation with
  | swap first second =>
      obtain ⟨reason, spares⟩ := Overlay.swap_leaves (Overlay.answer_error.1 fails)
      exact .of_spares reason spares rfl
  | transfer source target count => exact leaves_transfer (Overlay.answer_error.1 fails)
  | _ =>
      obtain ⟨reason, spares⟩ := Overlay.use_leaves (Overlay.answer_error.1 fails)
      exact .of_spares reason spares rfl

/-- A slot with ten items, in the only window that is known. -/
def stocked : Inventory := Inventory.empty.set ⟨0, 0⟩ { typeId := 5, count := 10, stackId := 11 }

/-- Three of the ten are to go into a window that nobody knows. -/
def strayTransfer : OverlayOperation := .transfer ⟨0, 0⟩ ⟨7, 0⟩ 3

theorem stray_transfer_loses_three :
    strayTransfer.act stocked .empty =
        (.error (.missingSlot ⟨7, 0⟩), (strayTransfer.act stocked .empty).2) ∧
      strayTransfer.Leaves stocked .empty (.missingSlot ⟨7, 0⟩)
        (strayTransfer.act stocked .empty).2 ∧
      strayTransfer.underWay stocked .empty = 3 ∧
      (strayTransfer.act stocked .empty).2.itemAt stocked ⟨0, 0⟩ =
        { typeId := 5, count := 7, stackId := 11 } :=
  ⟨rfl, failed_transfers_lose_what_they_took rfl, by decide, by decide⟩

/-- What a row of operations makes of a new overlay, failed ones included. -/
def reach (inventory : Inventory) (operations : List OverlayOperation) : Overlay :=
  operations.foldl (fun overlay operation => (operation.act inventory overlay).2) .empty

/-- Not every operation that fails leaves each slot as it was predicted. -/
theorem failed_operations_need_not_spare_slots :
    ¬∀ (inventory : Inventory) (earlier : List OverlayOperation) (operation : OverlayOperation)
        (failure : SyncError) (after : Overlay),
      operation.act inventory (reach inventory earlier) = (.error failure, after) →
      ∀ location, (reach inventory earlier).available inventory location →
        after.itemAt inventory location = (reach inventory earlier).itemAt inventory location ∧
          after.stackIdAt inventory location =
            (reach inventory earlier).stackIdAt inventory location := by
  intro spared
  have same := (spared stocked [] strayTransfer _ _ rfl ⟨0, 0⟩ (by decide)).1
  have changed : (strayTransfer.act stocked .empty).2.itemAt stocked ⟨0, 0⟩ ≠
      Overlay.empty.itemAt stocked ⟨0, 0⟩ := by decide
  exact changed same

end OverlayOperation

end InventorySync
