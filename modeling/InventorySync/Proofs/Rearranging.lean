import InventorySync.Proofs.Acknowledged
import InventorySync.Proofs.Addressing

/-!
The operations that move items about: moves, swaps and drops. What such an operation
does to the predicted items depends on the items alone, not on the request that it is
part of, and it succeeds if each slot that it names has a role and may be used.
-/

namespace InventorySync

set_option autoImplicit false

abbrev Items := Location → Item

namespace Items

def put (items : Items) (location : Location) (item : Item) : Items := fun other =>
  if other = location then item else items other

theorem ne_of_isEmpty {items : Items} {location other : Location}
    (filled : (items location).isEmpty = false) (free : (items other).isEmpty) :
    location ≠ other := by
  intro same
  rw [same, free] at filled
  cases filled

theorem put_of_ne {items : Items} {location other : Location} {item : Item}
    (differs : other ≠ location) : items.put location item other = items other :=
  if_neg differs

/-- Takes items out of a slot. What was taken is `Items.taken`. -/
def take (items : Items) (location : Location) (count : UInt8) : Items :=
  items.put location ((items location).split count).2

def taken (items : Items) (location : Location) (count : UInt8) : Item :=
  ((items location).split count).1

def place (items : Items) (location : Location) (item : Item) : Items :=
  items.put location ((items location).stackOnto item)

end Items

namespace Operation

/-- Whether an operation only moves items about. -/
def rearranges : Operation → Bool
  | .move .. | .swap .. | .drop .. => true
  | _ => false

def slots : Operation → List Location
  | .move source target _ => [source, target]
  | .swap first second => [first, second]
  | .drop source _ => [source]
  | _ => []

/-- What such an operation does to the items. -/
def effect : Operation → Items → Items
  | .move source target count, items =>
      (items.take source count).place target (items.taken source count)
  | .swap first second, items => (items.put first (items second)).put second (items first)
  | .drop source count, items => items.take source count
  | _, items => items

def effects (operations : List Operation) (items : Items) : Items :=
  operations.foldl (fun items operation => operation.effect items) items

def allSlots (operations : List Operation) : List Location := operations.flatMap slots

theorem mem_allSlots_cons {operation : Operation} {later : List Operation} {location : Location} :
    location ∈ allSlots (operation :: later) ↔
      location ∈ operation.slots ∨ location ∈ allSlots later := by
  unfold allSlots
  rw [List.flatMap_cons, List.mem_append]

theorem effects_append (first second : List Operation) (items : Items) :
    effects (first ++ second) items = effects second (effects first items) :=
  List.foldl_append

theorem effect_elsewhere {operation : Operation} {location : Location} (items : Items)
    (elsewhere : location ∉ operation.slots) :
    operation.effect items location = items location := by
  cases operation with
  | move source target count =>
      obtain ⟨notSource, notTarget⟩ : location ≠ source ∧ location ≠ target := by
        simpa [slots] using elsewhere
      exact (Items.put_of_ne notTarget).trans (Items.put_of_ne notSource)
  | swap first second =>
      obtain ⟨notFirst, notSecond⟩ : location ≠ first ∧ location ≠ second := by
        simpa [slots] using elsewhere
      exact (Items.put_of_ne notSecond).trans (Items.put_of_ne notFirst)
  | drop source count =>
      have notSource : location ≠ source := by simpa [slots] using elsewhere
      exact Items.put_of_ne notSource
  | _ => rfl

theorem effects_elsewhere {operations : List Operation} {location : Location} (items : Items)
    (elsewhere : location ∉ allSlots operations) :
    effects operations items location = items location := by
  induction operations generalizing items with
  | nil => rfl
  | cons operation later induction =>
      rw [mem_allSlots_cons, not_or] at elsewhere
      have rest := induction (operation.effect items) elsewhere.2
      exact rest.trans (effect_elsewhere items elsewhere.1)

section Agreement

/-- Slot by slot, the items come to the same once they are acknowledged. -/
def AllAgree (left right : Items) : Prop := ∀ location, (left location).Agrees (right location)

variable {left right : Items}

theorem AllAgree.put (agree : AllAgree left right) (location : Location) {item other : Item}
    (same : item.Agrees other) : AllAgree (left.put location item) (right.put location other) := by
  intro third
  unfold Items.put
  split
  · exact same
  · exact agree third

theorem AllAgree.effect (agree : AllAgree left right) (operation : Operation) :
    AllAgree (operation.effect left) (operation.effect right) := by
  cases operation with
  | move source target count =>
      have parted := (agree source).split count
      have taken := agree.put source parted.2
      exact taken.put target ((taken target).stackOnto parted.1)
  | swap first second => exact (agree.put first (agree second)).put second (agree first)
  | drop source count => exact agree.put source ((agree source).split count).2
  | _ => exact agree

theorem AllAgree.effects (agree : AllAgree left right) (operations : List Operation) :
    AllAgree (effects operations left) (effects operations right) := by
  induction operations generalizing left right with
  | nil => exact agree
  | cons operation later induction => exact induction (agree.effect operation)

end Agreement

end Operation

namespace Overlay

/-- Whether a slot was taken over from the inventory. -/
def holds (overlay : Overlay) (location : Location) : Bool := (overlay.slot? location).isSome

theorem holds_setSlot (overlay : Overlay) (location other : Location) (slot : PredictedSlot) :
    (overlay.setSlot location slot).holds other =
      (other = location || overlay.holds other) := by
  unfold holds
  rw [slot?_setSlot]
  by_cases same : other = location
  · simp [same]
  · simp [same]

/-- An action on slots that are held already: it moves items about, and takes over nothing. -/
structure Handles (inventory : Inventory) (effect : Items → Items) (overlay after : Overlay) :
    Prop where
  items : after.itemAt inventory = effect (overlay.itemAt inventory)
  holds : after.holds = overlay.holds

section Actions

variable {inventory : Inventory} {overlay between after : Overlay} {effect other : Items → Items}
  {location : Location}

theorem available_of_holds (held : overlay.holds location) :
    overlay.available inventory location := by
  unfold available
  unfold holds at held
  rw [held]
  rfl

theorem Handles.trans (first : Handles inventory effect overlay between)
    (second : Handles inventory other between after) :
    Handles inventory (fun items => other (effect items)) overlay after :=
  ⟨by rw [second.items, first.items], second.holds.trans first.holds⟩

theorem setSlot_handles (inventory : Inventory) (slot : PredictedSlot)
    (held : overlay.holds location) :
    Handles inventory (fun items => items.put location slot.item) overlay
      (overlay.setSlot location slot) := by
  constructor
  · funext third
    unfold itemAt Items.put
    rw [slotAt_setSlot]
    split <;> rfl
  · funext third
    rw [holds_setSlot]
    by_cases same : third = location
    · simp [same, held]
    · simp [same]

theorem item_handles {item : Item} (held : overlay.holds location)
    (read : Overlay.item inventory location overlay = (.ok item, after)) :
    overlay.itemAt inventory location = item ∧ Handles inventory id overlay after := by
  obtain ⟨-, rfl, rfl⟩ := use_ok.1 read
  have kept := setSlot_handles inventory (overlay.slotAt inventory location) held
  exact ⟨rfl, overlay.itemAt_setSlot_slotAt inventory location, kept.holds⟩

theorem write_handles {item : Item} {answer : Unit} (held : overlay.holds location)
    (written : write inventory location item overlay = (.ok answer, after)) :
    Handles inventory (fun items => items.put location item) overlay after := by
  obtain ⟨-, -, rfl⟩ := use_ok.1 written
  exact setSlot_handles inventory { overlay.slotAt inventory location with item } held

theorem take_handles {count : UInt8} {taken : Item} (held : overlay.holds location)
    (took : take inventory location count overlay = (.ok taken, after)) :
    Items.taken (overlay.itemAt inventory) location count = taken ∧
      Handles inventory (fun items => items.take location count) overlay after := by
  obtain ⟨-, rfl, rfl⟩ := use_ok.1 took
  have set := setSlot_handles inventory
    { overlay.slotAt inventory location with
      item := ((overlay.itemAt inventory location).split count).2 } held
  exact ⟨rfl, set.items, set.holds⟩

theorem place_handles {item : Item} {answer : Unit} (held : overlay.holds location)
    (placed : place inventory location item overlay = (.ok answer, after)) :
    Handles inventory (fun items => items.place location item) overlay after := by
  obtain ⟨-, -, rfl⟩ := use_ok.1 placed
  have set := setSlot_handles inventory
    { overlay.slotAt inventory location with
      item := (overlay.itemAt inventory location).stackOnto item } held
  exact ⟨set.items, set.holds⟩

theorem transfer_handles {source target : Location} {count : UInt8} {answer : Unit}
    (heldSource : overlay.holds source) (heldTarget : overlay.holds target)
    (transferred : transfer inventory source target count overlay = (.ok answer, after)) :
    Handles inventory (Operation.effect (.move source target count)) overlay after := by
  obtain ⟨taken, middle, took, placed⟩ := bind_ok.1 transferred
  obtain ⟨same, taking⟩ := take_handles heldSource took
  have placing := place_handles (taking.holds ▸ heldTarget) placed
  refine ⟨?_, placing.holds.trans taking.holds⟩
  rw [placing.items, taking.items, ← same]
  rfl

theorem swap_handles {first second : Location} {answer : Unit}
    (heldFirst : overlay.holds first) (heldSecond : overlay.holds second)
    (swapped : swap inventory first second overlay = (.ok answer, after)) :
    Handles inventory (Operation.effect (.swap first second)) overlay after := by
  obtain ⟨firstItem, afterFirst, readFirst, rest⟩ := bind_ok.1 swapped
  obtain ⟨secondItem, afterSecond, readSecond, writes⟩ := bind_ok.1 rest
  obtain ⟨_, middle, wroteFirst, wroteSecond⟩ := bind_ok.1 writes
  obtain ⟨firstIs, one⟩ := item_handles heldFirst readFirst
  obtain ⟨secondIs, two⟩ := item_handles (one.holds ▸ heldSecond) readSecond
  have reading := one.trans two
  have three := write_handles (reading.holds ▸ heldFirst) wroteFirst
  have four := write_handles ((reading.trans three).holds ▸ heldSecond) wroteSecond
  have all := (reading.trans three).trans four
  refine ⟨?_, all.holds⟩
  rw [all.items, ← firstIs, ← secondIs, one.items]
  rfl

end Actions

section Success

variable {inventory : Inventory} {overlay : Overlay} {location : Location}

theorem use_succeeds {α : Type} {change : PredictedSlot → α × PredictedSlot}
    (held : overlay.holds location) :
    ∃ answer after, use inventory location change overlay = (.ok answer, after) :=
  ⟨_, _, use_ok.2 ⟨available_of_holds held, rfl, rfl⟩⟩

theorem transfer_succeeds {source target : Location} {count : UInt8}
    (heldSource : overlay.holds source) (heldTarget : overlay.holds target) :
    ∃ answer after, transfer inventory source target count overlay = (.ok answer, after) := by
  obtain ⟨taken, middle, took⟩ := @use_succeeds inventory overlay source Item
    (fun slot => ((slot.item.split count).1, { slot with item := (slot.item.split count).2 }))
    heldSource
  have taking := (take_handles heldSource took).2
  obtain ⟨answer, after, placed⟩ := @use_succeeds inventory middle target Unit
    (fun slot => ((), { slot with item := slot.item.stackOnto taken })) (taking.holds ▸ heldTarget)
  exact ⟨answer, after, bind_ok.2 ⟨taken, middle, took, placed⟩⟩

theorem swap_succeeds {first second : Location} (heldFirst : overlay.holds first)
    (heldSecond : overlay.holds second) :
    ∃ answer after, swap inventory first second overlay = (.ok answer, after) := by
  obtain ⟨firstItem, one, readFirst⟩ := @use_succeeds inventory overlay first Item
    (fun slot => (slot.item, slot)) heldFirst
  have keptOne := (item_handles heldFirst readFirst).2.holds
  obtain ⟨secondItem, two, readSecond⟩ := @use_succeeds inventory one second Item
    (fun slot => (slot.item, slot)) (keptOne ▸ heldSecond)
  have keptTwo := (item_handles (keptOne ▸ heldSecond) readSecond).2.holds.trans keptOne
  obtain ⟨done, three, wroteFirst⟩ := @use_succeeds inventory two first Unit
    (fun slot => ((), { slot with item := secondItem })) (keptTwo ▸ heldFirst)
  have keptThree := (write_handles (keptTwo ▸ heldFirst) wroteFirst).holds.trans keptTwo
  obtain ⟨answer, after, wroteSecond⟩ := @use_succeeds inventory three second Unit
    (fun slot => ((), { slot with item := firstItem })) (keptThree ▸ heldSecond)
  exact ⟨answer, after, bind_ok.2 ⟨firstItem, one, readFirst,
    bind_ok.2 ⟨secondItem, two, readSecond, bind_ok.2 ⟨done, three, wroteFirst, wroteSecond⟩⟩⟩⟩

end Success

end Overlay

namespace Compile

/-- A slot that has a role, and that may be used. -/
def Usable (context : Context) (overlay : Overlay) (location : Location) : Prop :=
  (∃ role, Role.resolve context.overrides context.opened location = .ok role) ∧
    overlay.available context.inventory location

/-- What naming some slots and changing their items does to a draft. -/
structure Changes (inventory : Inventory) (named : List Location) (effect : Items → Items)
    (draft after : Draft) : Prop where
  items : after.overlay.itemAt inventory = effect (draft.overlay.itemAt inventory)
  holds : ∀ location,
    after.overlay.holds location ↔ draft.overlay.holds location ∨ location ∈ named
  touched : ∀ location, location ∈ after.touched ↔ location ∈ draft.touched ∨ location ∈ named

/-- What naming some slots and moving their items about does to a draft. -/
structure Arranges (context : Context) (named : List Location) (effect : Items → Items)
    (draft after : Draft) : Prop extends Changes context.inventory named effect draft after where
  usable : ∀ location ∈ named, Usable context draft.overlay location
  addressed : context.overrides.SparePlayer → draft.Addressed context → after.Addressed context
  expectation : after.expectation? = draft.expectation?

section Steps

variable {context : Context} {requestId : Int32} {named others : List Location}
  {effect otherEffect : Items → Items} {draft between after : Draft}

theorem available_iff {overlay : Overlay} {inventory : Inventory} {location : Location} :
    overlay.available inventory location ↔
      overlay.holds location ∨ inventory.knows location.window ∨ location.window = Window.ui := by
  unfold Overlay.available Overlay.holds
  simp [or_assoc]

theorem Arranges.available (arranges : Arranges context named effect draft after)
    (location : Location) :
    after.overlay.available context.inventory location ↔
      draft.overlay.available context.inventory location := by
  rw [available_iff, available_iff, arranges.holds]
  constructor
  · intro found
    rcases found with (held | member) | known
    · exact Or.inl held
    · exact available_iff.1 (arranges.usable location member).2
    · exact Or.inr known
  · intro found
    rcases found with held | known
    · exact Or.inl (Or.inl held)
    · exact Or.inr known

theorem Changes.append {inventory : Inventory}
    (first : Changes inventory named effect draft between)
    (second : Changes inventory others otherEffect between after) :
    Changes inventory (named ++ others) (fun items => otherEffect (effect items)) draft after := by
  constructor
  · rw [second.items, first.items]
  · intro location
    rw [second.holds, first.holds, List.mem_append, or_assoc]
  · intro location
    rw [second.touched, first.touched, List.mem_append, or_assoc]

theorem Arranges.append (first : Arranges context named effect draft between)
    (second : Arranges context others otherEffect between after) :
    Arranges context (named ++ others) (fun items => otherEffect (effect items)) draft after := by
  refine ⟨first.toChanges.append second.toChanges, ?_,
    fun spare addressed => second.addressed spare (first.addressed spare addressed),
    second.expectation.trans first.expectation⟩
  intro location member
  rcases List.mem_append.1 member with early | late
  · exact first.usable location early
  · obtain ⟨resolved, available⟩ := second.usable location late
    exact ⟨resolved, (first.available location).1 available⟩

theorem refer_changes {location : Location} {reference : SlotRef}
    (referred : refer context requestId location draft = .ok (reference, after)) :
    Changes context.inventory [location] id draft after := by
  obtain ⟨role, -, -, -, rfl⟩ := refer_ok.1 referred
  constructor
  · funext other
    exact draft.overlay.itemAt_setStackId context.inventory location other requestId
  · intro other
    change (Overlay.setSlot _ _ _).holds other ↔ _
    rw [Overlay.holds_setSlot]
    simp [or_comm]
  · intro other
    change other ∈ location.insertInto draft.touched ↔ _
    rw [Location.mem_insertInto, List.mem_singleton, or_comm]

theorem refer_arranges {location : Location} {reference : SlotRef}
    (referred : refer context requestId location draft = .ok (reference, after)) :
    Arranges context [location] id draft after := by
  have changes := refer_changes referred
  obtain ⟨role, resolved, available, -, rfl⟩ := refer_ok.1 referred
  exact ⟨changes, List.forall_mem_singleton.2 ⟨⟨role, resolved⟩, available⟩,
    fun spare addressed => addressed.naming requestId spare resolved, rfl⟩

theorem refer_succeeds {location : Location} (usable : Usable context draft.overlay location) :
    ∃ reference after, refer context requestId location draft = .ok (reference, after) := by
  obtain ⟨⟨role, resolved⟩, available⟩ := usable
  exact ⟨_, _, refer_ok.2 ⟨role, resolved, available, rfl, rfl⟩⟩

/-- Slots that were named are acted on, and the action is written down. -/
theorem handle_changes {overlay : Overlay} {actions : List StackAction} {inventory : Inventory}
    (handles : Overlay.Handles inventory effect draft.overlay overlay) :
    Changes inventory [] effect draft { draft with overlay, actions } := by
  refine ⟨handles.items, ?_, fun _ => by simp⟩
  intro location
  change overlay.holds location ↔ _
  rw [handles.holds]
  simp

theorem handle_arranges {overlay : Overlay} {actions : List StackAction}
    (handles : Overlay.Handles context.inventory effect draft.overlay overlay) :
    Arranges context [] effect draft { draft with overlay, actions } :=
  ⟨handle_changes handles, fun _ member => absurd member List.not_mem_nil,
    fun _ addressed => addressed, rfl⟩

end Steps

section Operations

variable {context : Context} {requestId : Int32} {draft after : Draft}

theorem move_arranges {source target : Location} {count : UInt8} {answer : Unit}
    (moved : move context requestId source target count draft = .ok (answer, after)) :
    Arranges context [source, target] (Operation.effect (.move source target count)) draft
      after := by
  unfold move at moved
  simp only [bind_ok, emit_ok, onOverlay_ok] at moved
  obtain ⟨_, _, first, _, named, second, _, _, rfl, _, transferred, rfl⟩ := moved
  have naming := (refer_arranges first).append (refer_arranges second)
  have heldSource : named.overlay.holds source := (naming.holds source).2 (Or.inr (by simp))
  have heldTarget : named.overlay.holds target := (naming.holds target).2 (Or.inr (by simp))
  exact naming.append (handle_arranges (Overlay.transfer_handles heldSource heldTarget transferred))

theorem swap_arranges {first second : Location} {answer : Unit}
    (swapped : swap context requestId first second draft = .ok (answer, after)) :
    Arranges context [first, second] (Operation.effect (.swap first second)) draft after := by
  unfold swap at swapped
  simp only [bind_ok, emit_ok, onOverlay_ok] at swapped
  obtain ⟨_, _, left, _, named, right, _, _, rfl, _, exchanged, rfl⟩ := swapped
  have naming := (refer_arranges left).append (refer_arranges right)
  have heldFirst : named.overlay.holds first := (naming.holds first).2 (Or.inr (by simp))
  have heldSecond : named.overlay.holds second := (naming.holds second).2 (Or.inr (by simp))
  exact naming.append (handle_arranges (Overlay.swap_handles heldFirst heldSecond exchanged))

theorem drop_arranges {source : Location} {count : UInt8} {answer : Unit}
    (dropped : drop context requestId source count draft = .ok (answer, after)) :
    Arranges context [source] (Operation.effect (.drop source count)) draft after := by
  unfold drop at dropped
  simp only [bind_ok, emit_ok, onOverlay_ok, pure_ok] at dropped
  obtain ⟨_, named, left, _, _, rfl, _, _, ⟨_, took, rfl⟩, -, rfl⟩ := dropped
  have naming := refer_arranges left
  have held : named.overlay.holds source := (naming.holds source).2 (Or.inr (by simp))
  exact naming.append (handle_arranges (Overlay.take_handles held took).2)

theorem operation_arranges {step : Operation} {answer : Unit} (plain : step.rearranges)
    (performed : operation context requestId step draft = .ok (answer, after)) :
    Arranges context step.slots step.effect draft after := by
  cases step with
  | move source target count => exact move_arranges performed
  | swap first second => exact swap_arranges performed
  | drop source count => exact drop_arranges performed
  | _ => cases plain

theorem refer_both_succeed {first second : Location}
    (firstUsable : Usable context draft.overlay first)
    (secondUsable : Usable context draft.overlay second) :
    ∃ firstRef one secondRef two, refer context requestId first draft = .ok (firstRef, one) ∧
      refer context requestId second one = .ok (secondRef, two) ∧
      two.overlay.holds first ∧ two.overlay.holds second := by
  obtain ⟨firstRef, one, left⟩ := @refer_succeeds _ requestId _ _ firstUsable
  have named := refer_arranges left
  obtain ⟨secondRef, two, right⟩ := @refer_succeeds _ requestId one second
    ⟨secondUsable.1, (named.available second).2 secondUsable.2⟩
  have both := named.append (refer_arranges right)
  exact ⟨firstRef, one, secondRef, two, left, right, (both.holds first).2 (Or.inr (by simp)),
    (both.holds second).2 (Or.inr (by simp))⟩

/-- An operation that moves items about succeeds if it may use its slots. -/
theorem operation_succeeds {step : Operation} (plain : step.rearranges)
    (usable : ∀ location ∈ step.slots, Usable context draft.overlay location) :
    ∃ after, operation context requestId step draft = .ok ((), after) := by
  cases step with
  | move source target count =>
      obtain ⟨sourceRef, one, targetRef, two, first, second, heldSource, heldTarget⟩ :=
        @refer_both_succeed context requestId draft source target
          (usable source (by simp [Operation.slots])) (usable target (by simp [Operation.slots]))
      obtain ⟨answer, overlay, transferred⟩ := @Overlay.transfer_succeeds context.inventory _ _ _
        count heldSource heldTarget
      exact ⟨_, bind_ok.2 ⟨sourceRef, one, first, bind_ok.2 ⟨targetRef, two, second,
        bind_ok.2 ⟨(), _, emit_ok.2 rfl, onOverlay_ok.2 ⟨overlay, transferred, rfl⟩⟩⟩⟩⟩
  | swap left right =>
      obtain ⟨leftRef, one, rightRef, two, first, second, heldLeft, heldRight⟩ :=
        @refer_both_succeed context requestId draft left right
          (usable left (by simp [Operation.slots])) (usable right (by simp [Operation.slots]))
      obtain ⟨answer, overlay, swapped⟩ := @Overlay.swap_succeeds context.inventory _ _ _
        heldLeft heldRight
      exact ⟨_, bind_ok.2 ⟨leftRef, one, first, bind_ok.2 ⟨rightRef, two, second,
        bind_ok.2 ⟨(), _, emit_ok.2 rfl, onOverlay_ok.2 ⟨overlay, swapped, rfl⟩⟩⟩⟩⟩
  | drop source count =>
      obtain ⟨sourceRef, one, named⟩ := @refer_succeeds _ requestId draft source
        (usable source (by simp [Operation.slots]))
      have held := ((refer_arranges named).holds source).2 (Or.inr (by simp))
      obtain ⟨taken, overlay, took⟩ := @Overlay.use_succeeds context.inventory _ _ Item
        (fun slot => ((slot.item.split count).1, { slot with item := (slot.item.split count).2 }))
        held
      exact ⟨_, bind_ok.2 ⟨sourceRef, one, named, bind_ok.2 ⟨(), _, emit_ok.2 rfl,
        bind_ok.2 ⟨taken, _, onOverlay_ok.2 ⟨overlay, took, rfl⟩, pure_ok.2 ⟨rfl, rfl⟩⟩⟩⟩⟩
  | _ => cases plain

end Operations

section Groups

variable {context : Context} {requestId : Int32} {draft after : Draft} {overlay final : Overlay}
  {operations : List Operation} (spare : context.overrides.SparePlayer)

theorem arranges_nil : Arranges context [] id draft draft :=
  handle_arranges ⟨rfl, rfl⟩

theorem forM_nil_ok {step : Operation → Action Unit} {answer : Unit} :
    ([] : List Operation).forM step draft = .ok (answer, after) ↔ draft = after := by
  change (pure () : Action Unit) draft = _ ↔ _
  rw [pure_ok]
  exact and_iff_right rfl

theorem forM_arranges {answer : Unit} (plain : ∀ step ∈ operations, step.rearranges)
    (performed : operations.forM (operation context requestId) draft = .ok (answer, after)) :
    Arranges context (Operation.allSlots operations) (Operation.effects operations) draft
      after := by
  induction operations generalizing draft with
  | nil =>
      rw [forM_nil_ok.1 performed]
      exact arranges_nil
  | cons step later induction =>
      obtain ⟨between, head, tail⟩ := forM_cons_ok.1 performed
      have first := operation_arranges (plain step List.mem_cons_self) head
      exact first.append (induction
        (fun other member => plain other (List.mem_cons_of_mem _ member))
        tail)

theorem forM_succeeds (plain : ∀ step ∈ operations, step.rearranges)
    (usable : ∀ location ∈ Operation.allSlots operations, Usable context draft.overlay location) :
    ∃ after, operations.forM (operation context requestId) draft = .ok ((), after) := by
  induction operations generalizing draft with
  | nil => exact ⟨draft, forM_nil_ok.2 rfl⟩
  | cons step later induction =>
      have simple := plain step List.mem_cons_self
      obtain ⟨between, head⟩ := @operation_succeeds context requestId draft step simple
        fun location member => usable location (Operation.mem_allSlots_cons.2 (Or.inl member))
      have first := operation_arranges simple head
      obtain ⟨after, tail⟩ := @induction between
        (fun other member => plain other (List.mem_cons_of_mem _ member))
        fun location member => by
          obtain ⟨resolved, available⟩ :=
            usable location (Operation.mem_allSlots_cons.2 (Or.inr member))
          exact ⟨resolved, (first.available location).2 available⟩
      exact ⟨after, forM_cons_ok.2 ⟨between, head, tail⟩⟩

/-- A request for operations that move items about, and the overlay after it. -/
structure Rearranged (context : Context) (overlay : Overlay) (operations : List Operation)
    (compiled : CompiledRequest) (final : Overlay) : Prop where
  usable : ∀ location ∈ Operation.allSlots operations, Usable context overlay location
  items : final.itemAt context.inventory =
    Operation.effects operations (overlay.itemAt context.inventory)
  holds : ∀ location, final.holds location ↔
    overlay.holds location ∨ location ∈ Operation.allSlots operations
  /-- Just the slots that were named are predicted, as they are in the end. -/
  predictions : ∀ location, compiled.predictions.find? location =
    if location ∈ Operation.allSlots operations then
      some ⟨some (Operation.effects operations (overlay.itemAt context.inventory) location), none⟩
    else none
  windows : ∀ location ∈ Operation.allSlots operations, ∃ role,
    Role.resolve context.overrides context.opened location = .ok role ∧
      compiled.windows.window? role = some location.window

theorem find?_touched (touched : List Location) (prediction : Location → Prediction)
    (location : Location) :
    Predictions.find? (touched.map fun other => (other, prediction other)) location =
      if location ∈ touched then some (prediction location) else none := by
  unfold Predictions.find?
  rw [← List.map_reverse]
  have listed : location ∈ touched ↔ location ∈ touched.reverse := List.mem_reverse.symm
  simp only [listed]
  induction touched.reverse with
  | nil => rfl
  | cons other others induction =>
      rw [List.map_cons, Keyed.lookup_cons, induction]
      by_cases same : location = other
      · simp [same]
      · simp [same]

/-- Just the slots that were named are predicted, as they are in the end. -/
theorem Draft.find?_finish (held : ∀ location ∈ draft.touched, draft.overlay.holds location)
    (requestId : Int32) (inventory : Inventory) (location : Location) :
    (draft.finish requestId).predictions.find? location =
      if location ∈ draft.touched then
        some ⟨some (draft.overlay.itemAt inventory location), draft.expectation? location⟩
      else none := by
  refine (find?_touched draft.touched _ location).trans ?_
  split
  · next touched =>
      have template : (draft.overlay.slot? location).map PredictedSlot.item =
          some (draft.overlay.itemAt inventory location) := by
        have present := held location touched
        unfold Overlay.holds at present
        obtain ⟨slot, found⟩ := Option.isSome_iff_exists.1 present
        unfold Overlay.itemAt Overlay.slotAt
        rw [found]
        rfl
      rw [template]
  · rfl

include spare in
theorem group_rearranged {compiled : CompiledRequest}
    (plain : ∀ step ∈ operations, step.rearranges)
    (succeeds : group context requestId overlay operations = .ok (compiled, final)) :
    Rearranged context overlay operations compiled final := by
  obtain ⟨draft, performed, rfl, rfl⟩ := group_ok.1 succeeds
  have arranges := forM_arranges plain performed
  have touched : ∀ location,
      location ∈ draft.touched ↔ location ∈ Operation.allSlots operations := by
    intro location
    rw [arranges.touched]
    exact or_iff_right List.not_mem_nil
  have held : ∀ location ∈ draft.touched, draft.overlay.holds location :=
    fun location named => (arranges.holds location).2 (Or.inr ((touched location).1 named))
  have addressed := arranges.addressed spare fun _ member => absurd member List.not_mem_nil
  refine ⟨arranges.usable, arranges.items, arranges.holds, ?_, ?_⟩
  · intro location
    rw [draft.find?_finish held requestId context.inventory location]
    simp only [touched]
    rw [arranges.items, arranges.expectation]
  · intro location member
    exact addressed location ((touched location).2 member)

theorem group_succeeds (requestId : Int32) (plain : ∀ step ∈ operations, step.rearranges)
    (usable : ∀ location ∈ Operation.allSlots operations, Usable context overlay location) :
    ∃ compiled final, group context requestId overlay operations = .ok (compiled, final) := by
  obtain ⟨draft, performed⟩ := @forM_succeeds context requestId { overlay } operations plain
    usable
  exact ⟨_, _, group_ok.2 ⟨draft, performed, rfl, rfl⟩⟩

end Groups

end Compile

end InventorySync
