import InventorySync.Proofs.DeclaredItems
import InventorySync.Proofs.RequestMeaning

/-!
What a draft shows to the next step: the items, the ids of the stacks, the actions and the filter
strings. Each step that names known slots succeeds and takes what is shown to what it leaves, so
an operation of many steps can be followed through the slots that it borrows.
-/

namespace InventorySync

set_option autoImplicit false

namespace Item
/-- One item of a stack. -/
def single (item : Item) : Item := { item with count := 1 }

/-- The stack with the declared user data, if any was declared. -/
def dressed (item : Item) (expectation : Expectation) : Item :=
  { item with userData := expectation.userData <|> item.userData }

variable {item : Item}

theorem split_one (filled : item.isEmpty = false) :
    item.split 1 = (item.single, item.without 1) := by
  have some : ¬item.isEmpty := Bool.eq_false_iff.1 filled
  have positive : 0 < item.amount := Nat.pos_of_ne_zero (mt isEmpty_iff_amount.2 some)
  have one : min (1 : UInt8).toNat item.amount = 1 := Nat.min_eq_left positive
  apply Prod.ext
  · rw [split_of_filled some, one]
    rfl
  · rw [split_snd, one]

theorem single_of_count (one : item.count = 1) : item.single = item := by
  unfold single
  rw [← one]

theorem isEmpty_single (filled : item.isEmpty = false) : item.single.isEmpty = false := by
  have kind := typeId_of_filled (Bool.eq_false_iff.1 filled)
  simp [isEmpty, single, kind]

theorem without_one (filled : item.isEmpty = false) :
    item.without 1 = if item.count = 1 then .empty else { item with count := item.count - 1 } := by
  have some : ¬item.isEmpty := Bool.eq_false_iff.1 filled
  have positive : 0 < item.amount := Nat.pos_of_ne_zero (mt isEmpty_iff_amount.2 some)
  rw [amount_of_filled some] at positive
  have least : (1 : UInt16) ≤ item.count := positive
  have fewer : UInt16.ofNat (item.count.toNat - 1) = item.count - 1 := by
    rw [← UInt16.toNat_inj, UInt16.toNat_sub_of_le _ _ least]
    exact UInt16.toNat_ofNat_of_lt' ((Nat.sub_le _ _).trans_lt item.count.toNat_lt)
  have same : 1 = item.amount ↔ item.count = 1 := by
    rw [amount_of_filled some, ← UInt16.toNat_inj]
    exact eq_comm
  unfold without
  rw [if_neg Nat.one_ne_zero, fewer]
  simp only [same]

theorem stackOnto_single (filled : item.isEmpty = false) :
    (item.without 1).stackOnto item.single = item := by
  have kind := typeId_of_filled (Bool.eq_false_iff.1 filled)
  have whole := isEmpty_single filled
  rw [without_one filled]
  split
  · next one => rw [single_of_count one, empty_stackOnto filled]
  · next more =>
      have positive : item.count ≠ 0 := by
        intro none
        simp [isEmpty, none] at filled
      have left : ({ item with count := item.count - 1 } : Item).isEmpty = false := by
        simpa [isEmpty, kind, sub_eq_zero] using more
      have least : (1 : UInt16) ≤ item.count := UInt16.pos_iff_ne_zero.2 positive
      have bound := item.count.toNat_lt
      have back : min ((item.count - 1).toNat + (1 : UInt16).toNat) 65535 = item.count.toNat := by
        rw [UInt16.toNat_sub_of_le _ _ least]
        have some : 1 ≤ item.count.toNat := least
        simp
        omega
      unfold stackOnto
      rw [whole, left, if_neg Bool.false_ne_true, if_neg Bool.false_ne_true]
      unfold addCounts single
      simp only [back, UInt16.ofNat_toNat]

end Item

theorem Items.isEmpty_put_empty (items : Items) (location : Location) :
    (items.put location .empty location).isEmpty := by
  simp [Items.put, Item.empty, Item.isEmpty]

namespace Operation

variable {items : Items} {source target : Location} {item : Item}

/-- One item goes to an empty slot. -/
theorem effect_move_single (filled : (items source).isEmpty = false)
    (free : (items target).isEmpty) :
    effect (.move source target 1) items =
      (items.put source ((items source).without 1)).put target (items source).single := by
  have differs := Items.ne_of_isEmpty filled free
  have some := Item.isEmpty_single filled
  change (items.take source 1).place target (items.taken source 1) = _
  unfold Items.place Items.take Items.taken
  rw [Item.split_one filled, Items.put_of_ne differs.symm]
  simp [Item.stackOnto, some, free]

/-- One item goes back to the stack that it came from. -/
theorem effect_move_back (filled : item.isEmpty = false) (differs : source ≠ target)
    (lent : items source = item.single) (rest : items target = item.without 1) :
    effect (.move source target 1) items = (items.put source .empty).put target item := by
  have some : (items source).isEmpty = false := by
    rw [lent]
    exact Item.isEmpty_single filled
  have whole : (items source).count.toNat ≤ (1 : UInt8).toNat := by
    rw [lent]
    exact Nat.le_refl 1
  change (items.take source 1).place target (items.taken source 1) = _
  unfold Items.place Items.take Items.taken
  rw [Item.split_whole some whole, Items.put_of_ne differs.symm, lent, rest,
    Item.stackOnto_single filled]

end Operation

theorem Overlay.stackIdAt_setSlot (overlay : Overlay) (inventory : Inventory)
    (location : Location) (slot : PredictedSlot) :
    (overlay.setSlot location slot).stackIdAt inventory =
      Function.update (overlay.stackIdAt inventory) location slot.stackId := by
  funext other
  unfold stackIdAt
  rw [slotAt_setSlot, Function.update_apply]
  split <;> rfl

theorem OpenedContainer.require_eq {opened : Option OpenedContainer}
    {container : OpenedContainer} {expected : UInt8} (opens : opened = some container)
    (kind : container.containerType = expected) : require opened expected = .ok container := by
  rw [opens]
  exact if_pos kind

namespace Compile

/-- What a draft shows to the next step. -/
@[ext]
structure View where
  items : Items
  stackIds : Location → Int32
  actions : List StackAction
  filterStrings : List String

def Draft.view (draft : Draft) (inventory : Inventory) : View where
  items := draft.items inventory
  stackIds := draft.overlay.stackIdAt inventory
  actions := draft.actions
  filterStrings := draft.filterStrings

/-- The role of a slot that has one. -/
def roleAt (context : Context) (location : Location) : Role :=
  (Role.resolve context.overrides context.opened location).toOption.getD default

theorem roleAt_of_resolve {context : Context} {location : Location} {role : Role}
    (resolved : Role.resolve context.overrides context.opened location = .ok role) :
    roleAt context location = role := by
  unfold roleAt
  rw [resolved]
  rfl

namespace View

section Steps

variable (context : Context) (requestId : Int32) (view : View)

def reference (location : Location) : SlotRef :=
  ⟨roleAt context location, location.slot, view.stackIds location⟩

/-- The stack of a slot that was named goes by the id of the request. -/
def named (location : Location) : View :=
  { view with stackIds := Function.update view.stackIds location requestId }

def crafted (action : StackAction) : View :=
  { view with actions := view.actions ++ [action] }

def moved (source target : Location) (count : UInt8) : View :=
  { ((view.named requestId source).named requestId target).crafted
      (.place count (view.reference context source)
        ((view.named requestId source).reference context target)) with
    items := Operation.effect (.move source target count) view.items }

def consumed (location : Location) (count : UInt8) : View :=
  { (view.named requestId location).crafted (.consume count (view.reference context location)) with
    items := view.items.take location count }

def placed (item : Item) (target : Location) (count : UInt8) : View :=
  { (view.named requestId target).crafted
      (.place count ⟨.createdOutput, UiSlot.createdOutput.slot, requestId⟩
        (view.reference context target)) with
    items := view.items.place target item }

end Steps

/-- Both views show the same of a slot. -/
structure SameAt (location : Location) (before after : View) : Prop where
  item : after.items location = before.items location
  stackId : after.stackIds location = before.stackIds location

namespace SameAt

variable {context : Context} {requestId : Int32} {location source target : Location}
  {before after : View} {count : UInt8}

theorem moved (same : before.SameAt location after) (here : location ≠ source)
    (there : location ≠ target) :
    before.SameAt location (after.moved context requestId source target count) := by
  constructor
  · have elsewhere : location ∉ (Operation.move source target count).slots := by
      simp [Operation.slots, here, there]
    exact (Operation.effect_elsewhere after.items elsewhere).trans same.item
  · simp [View.moved, View.named, View.crafted, here, there, same.stackId]

theorem consumed (same : before.SameAt location after) (here : location ≠ source) :
    before.SameAt location (after.consumed context requestId source count) := by
  constructor
  · exact (Items.put_of_ne here).trans same.item
  · simp [View.consumed, View.named, View.crafted, here, same.stackId]

theorem placed (same : before.SameAt location after) (item : Item) (there : location ≠ target) :
    before.SameAt location (after.placed context requestId item target count) := by
  constructor
  · exact (Items.put_of_ne there).trans same.item
  · simp [View.placed, View.named, View.crafted, there, same.stackId]

theorem crafted (same : before.SameAt location after) (action : StackAction) :
    before.SameAt location (after.crafted action) := ⟨same.item, same.stackId⟩

end SameAt

end View

/-- The draft shows this, and each of these slots may be named in it. -/
structure Draft.Shows (context : Context) (slots : List Location) (view : View)
    (draft : Draft) : Prop where
  view : draft.view context.inventory = view
  usable : ∀ location ∈ slots, Usable context draft.overlay location

section Steps

variable {context : Context} {requestId : Int32} {slots : List Location} {view : View}
  {draft : Draft} {location source target : Location}

theorem Arranges.usable_after {named : List Location} {effect : Items → Items} {after : Draft}
    (arranges : Arranges context named effect draft after)
    (usable : Usable context draft.overlay location) : Usable context after.overlay location :=
  ⟨usable.1, (arranges.available location).2 usable.2⟩

theorem refer_shows (shows : draft.Shows context slots view) (member : location ∈ slots)
    (requestId : Int32) : ∃ after,
      refer context requestId location draft = .ok (view.reference context location, after) ∧
        after.Shows context slots (view.named requestId location) ∧
        (∀ other, draft.overlay.holds other → after.overlay.holds other) ∧
        after.overlay.holds location := by
  obtain ⟨rfl, usable⟩ := shows
  obtain ⟨reference, after, named⟩ := @refer_succeeds context requestId draft location
    (usable location member)
  have arranges := refer_arranges named
  obtain ⟨role, resolved, -, rfl, rfl⟩ := refer_ok.1 named
  refine ⟨_, ?_, ⟨?_, fun other inside => arranges.usable_after (usable other inside)⟩, ?_, ?_⟩
  · rw [named]
    unfold View.reference
    rw [roleAt_of_resolve resolved]
    rfl
  · ext1
    · exact arranges.items
    · exact draft.overlay.stackIdAt_setSlot context.inventory location _
    · rfl
    · rfl
  · exact fun other held => (arranges.holds other).2 (Or.inl held)
  · exact (arranges.holds location).2 (Or.inr (by simp))

/-- Slots that were named are acted on, and the action is written down. -/
theorem Draft.Shows.act {overlay : Overlay} {effect : Items → Items}
    (shows : draft.Shows context slots view)
    (handles : Overlay.Handles context.inventory effect draft.overlay overlay)
    (kept : overlay.stackIdAt context.inventory = draft.overlay.stackIdAt context.inventory)
    (action : StackAction) :
    ({ draft with overlay, actions := draft.actions ++ [action] } : Draft).Shows context slots
      { view.crafted action with items := effect view.items } := by
  obtain ⟨rfl, usable⟩ := shows
  constructor
  · ext1
    · exact handles.items
    · exact kept
    · rfl
    · rfl
  · intro location member
    obtain ⟨resolved, available⟩ := usable location member
    rw [available_iff, ← handles.holds, ← available_iff] at available
    exact ⟨resolved, available⟩

theorem modify_eq (change : Draft → Draft) (draft : Draft) :
    (modify change : Action Unit) draft = .ok ((), change draft) := rfl

theorem emit_eq (action : StackAction) (draft : Draft) :
    emit action draft = .ok ((), { draft with actions := draft.actions ++ [action] }) :=
  modify_eq _ draft

theorem emit_shows (shows : draft.Shows context slots view) (action : StackAction) :
    ∃ after, emit action draft = .ok ((), after) ∧
      after.Shows context slots (view.crafted action) := by
  have same : Overlay.Handles context.inventory id draft.overlay draft.overlay := ⟨rfl, rfl⟩
  exact ⟨_, emit_eq action draft, shows.act same rfl action⟩

theorem itemOf_shows (shows : draft.Shows context slots view) (member : location ∈ slots)
    (filled : (view.items location).isEmpty = false) : ∃ after,
      itemOf context location draft = .ok (view.items location, after) ∧
        after.Shows context slots view := by
  obtain ⟨rfl, usable⟩ := shows
  have available := (usable location member).2
  refine ⟨_, itemOf_ok.2 ⟨available, rfl, filled, rfl⟩, ?_, ?_⟩
  · ext1
    · exact draft.overlay.itemAt_setSlot_slotAt context.inventory location
    · exact (draft.overlay.stackIdAt_setSlot context.inventory location _).trans
        (Function.update_eq_self location _)
    · rfl
    · rfl
  · intro other inside
    obtain ⟨resolved, known⟩ := usable other inside
    rw [available_iff] at known
    refine ⟨resolved, available_iff.2 ?_⟩
    rw [Overlay.holds_setSlot]
    simp only [Bool.or_eq_true]
    tauto

theorem move_shows (shows : draft.Shows context slots view) (here : source ∈ slots)
    (there : target ∈ slots) (requestId : Int32) (count : UInt8) : ∃ after,
      move context requestId source target count draft = .ok ((), after) ∧
        after.Shows context slots (view.moved context requestId source target count) := by
  obtain ⟨one, first, shown, -, held⟩ := refer_shows shows here requestId
  obtain ⟨two, second, both, grown, heldTarget⟩ := refer_shows shown there requestId
  obtain ⟨answer, overlay, transferred⟩ := @Overlay.transfer_succeeds context.inventory _ _ _
    count (grown source held) heldTarget
  have handles := Overlay.transfer_handles (grown source held) heldTarget transferred
  have kept := Overlay.keepsStackIds_transfer context.inventory _ _ _ _ _ _ transferred
  refine ⟨_, ?_, both.act handles kept _⟩
  unfold move
  rw [bind_of_ok first, bind_of_ok second, bind_of_ok (emit_eq _ _)]
  exact onOverlay_ok.2 ⟨overlay, transferred, rfl⟩

theorem consume_shows (shows : draft.Shows context slots view) (member : location ∈ slots)
    (requestId : Int32) (count : UInt8) : ∃ after,
      consume context requestId location count draft =
          .ok (view.items.taken location count, after) ∧
        after.Shows context slots (view.consumed context requestId location count) := by
  obtain ⟨one, named, shown, -, held⟩ := refer_shows shows member requestId
  obtain ⟨taken, overlay, took⟩ := @Overlay.use_succeeds context.inventory _ _ Item
    (fun slot => ((slot.item.split count).1, { slot with item := (slot.item.split count).2 })) held
  obtain ⟨same, handles⟩ := Overlay.take_handles held took
  have kept := Overlay.keepsStackIds_take context.inventory location count _ _ _ took
  have items : one.overlay.itemAt context.inventory = view.items := congrArg View.items shown.view
  rw [items] at same
  refine ⟨_, ?_, shown.act handles kept _⟩
  unfold consume
  rw [bind_of_ok named, bind_of_ok (emit_eq _ _), same]
  exact onOverlay_ok.2 ⟨overlay, took, rfl⟩

theorem placeOutput_shows (shows : draft.Shows context slots view) (member : target ∈ slots)
    (requestId : Int32) (item : Item) (count : UInt8) : ∃ after,
      placeOutput context requestId item target count draft = .ok ((), after) ∧
        after.Shows context slots (view.placed context requestId item target count) := by
  have begun : ({ draft with
      windows := draft.windows.note .createdOutput UiSlot.createdOutput.window } : Draft).Shows
        context slots view := ⟨shows.view, shows.usable⟩
  obtain ⟨one, named, shown, -, held⟩ := refer_shows begun member requestId
  obtain ⟨answer, overlay, put⟩ := @Overlay.use_succeeds context.inventory _ _ Unit
    (fun slot => ((), { slot with item := slot.item.stackOnto item })) held
  have handles := Overlay.place_handles held put
  have kept := Overlay.keepsStackIds_place context.inventory target item _ _ _ put
  refine ⟨_, ?_, shown.act handles kept _⟩
  unfold placeOutput
  rw [bind_of_ok (referOutput_ok.2 ⟨rfl, rfl⟩), bind_of_ok named, bind_of_ok (emit_eq _ _)]
  exact onOverlay_ok.2 ⟨overlay, put, rfl⟩

/-- A slot with a role may be named if it holds something. -/
theorem usable_of_filled {role : Role}
    (resolved : Role.resolve context.overrides context.opened location = .ok role)
    (filled : (draft.items context.inventory location).isEmpty = false) :
    Usable context draft.overlay location := by
  refine ⟨⟨role, resolved⟩, available_iff.2 ?_⟩
  by_contra unknown
  simp only [not_or, Bool.not_eq_true] at unknown
  obtain ⟨free, window, -⟩ := unknown
  have nothing : draft.items context.inventory location = .empty := by
    have absent : draft.overlay.slot? location = none := by
      simpa [Overlay.holds] using free
    have strange : context.inventory.window? location.window = none := by
      simpa [Inventory.knows] using window
    simp [Draft.items, Overlay.itemAt, Overlay.slotAt, absent, Inventory.itemOrEmpty,
      Inventory.item?, strange]
  rw [nothing] at filled
  cases filled

theorem usable_of_ui {role : Role}
    (resolved : Role.resolve context.overrides context.opened location = .ok role)
    (interface : location.window = Window.ui) : Usable context draft.overlay location :=
  ⟨⟨role, resolved⟩, available_iff.2 (Or.inr (Or.inr interface))⟩

theorem Draft.Shows.slotAt_eq {before after : Draft} {known : View}
    (shows : after.Shows context slots view) (shown : before.Shows context slots known)
    (same : known.SameAt location view) :
    after.overlay.slotAt context.inventory location =
      before.overlay.slotAt context.inventory location := by
  obtain ⟨rfl, -⟩ := shows
  obtain ⟨rfl, -⟩ := shown
  exact congrArg₂ PredictedSlot.mk same.item same.stackId

end Steps

end Compile

end InventorySync
