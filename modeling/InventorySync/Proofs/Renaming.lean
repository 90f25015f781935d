import InventorySync.Proofs.Twins

/-!
The same operations compiled under other request ids. The actions are the same but for the
ids by which they name stacks, and what is predicted is the same altogether: an id says
which request left a stack, and no decision of the compiler goes by it.
-/

namespace InventorySync

set_option autoImplicit false

section Renamed

variable (same : Int32 → Int32 → Prop)

/-- The same slot in the same role; the ids of the stacks belong together. -/
structure SlotRef.Renamed (first second : SlotRef) : Prop where
  role : first.role = second.role
  slot : first.slot = second.slot
  stackId : same first.stackId second.stackId

/-- The same action on the same slots. -/
inductive StackAction.Renamed : StackAction → StackAction → Prop where
  | take (count : UInt8) {source target origin goal : SlotRef}
      (sources : source.Renamed same origin) (targets : target.Renamed same goal) :
      Renamed (.take count source target) (.take count origin goal)
  | place (count : UInt8) {source target origin goal : SlotRef}
      (sources : source.Renamed same origin) (targets : target.Renamed same goal) :
      Renamed (.place count source target) (.place count origin goal)
  | swap {source target origin goal : SlotRef}
      (sources : source.Renamed same origin) (targets : target.Renamed same goal) :
      Renamed (.swap source target) (.swap origin goal)
  | drop (count : UInt8) (randomly : Bool) {source origin : SlotRef}
      (sources : source.Renamed same origin) :
      Renamed (.drop count source randomly) (.drop count origin randomly)
  | destroy (count : UInt8) {source origin : SlotRef} (sources : source.Renamed same origin) :
      Renamed (.destroy count source) (.destroy count origin)
  | consume (count : UInt8) {source origin : SlotRef} (sources : source.Renamed same origin) :
      Renamed (.consume count source) (.consume count origin)
  | plain {action : StackAction} (unnamed : action.references = []) : Renamed action action

/-- The same request but for the ids. -/
structure CompiledRequest.Renamed (first second : CompiledRequest) : Prop where
  id : same first.request.id second.request.id
  actions : List.Forall₂ (StackAction.Renamed same) first.request.actions second.request.actions
  filterStrings : first.request.filterStrings = second.request.filterStrings
  filterCause : first.request.filterCause = second.request.filterCause
  windows : first.windows = second.windows
  predictions : first.predictions = second.predictions

/-- The same item, left by requests that belong together. -/
structure PredictedSlot.Renamed (first second : PredictedSlot) : Prop where
  item : first.item = second.item
  stackId : same first.stackId second.stackId

/-- The same slots were used, and hold the same items. -/
def Overlay.Renamed (overlay other : Overlay) : Prop :=
  ∀ location, Option.Rel (PredictedSlot.Renamed same) (overlay.slot? location)
    (other.slot? location)

/-- The two drafts have done the same work so far. -/
structure Compile.Draft.Renamed (draft other : Draft) : Prop where
  overlay : draft.overlay.Renamed same other.overlay
  actions : List.Forall₂ (StackAction.Renamed same) draft.actions other.actions
  windows : draft.windows = other.windows
  touched : draft.touched = other.touched
  expectation? : draft.expectation? = other.expectation?
  filterStrings : draft.filterStrings = other.filterStrings
  filterCause : draft.filterCause = other.filterCause

end Renamed

section Slots

variable {same : Int32 → Int32 → Prop} {overlay other : Overlay} {inventory : Inventory}

theorem Overlay.Renamed.slotAt (renamed : overlay.Renamed same other)
    (mirrored : ∀ location, same (inventory.itemOrEmpty location).stackId
      (inventory.itemOrEmpty location).stackId) (location : Location) :
    (overlay.slotAt inventory location).Renamed same (other.slotAt inventory location) := by
  have slots := renamed location
  unfold Overlay.slotAt
  generalize overlay.slot? location = slot at slots
  generalize other.slot? location = twin at slots
  cases slots with
  | some alike => exact alike
  | none => exact ⟨rfl, mirrored location⟩

theorem Overlay.Renamed.item? (renamed : overlay.Renamed same other) (location : Location) :
    (overlay.slot? location).map PredictedSlot.item =
      (other.slot? location).map PredictedSlot.item := by
  have slots := renamed location
  generalize overlay.slot? location = slot at slots ⊢
  generalize other.slot? location = twin at slots ⊢
  cases slots with
  | some alike => exact congrArg some alike.item
  | none => rfl

theorem Overlay.Renamed.available (renamed : overlay.Renamed same other) (location : Location) :
    overlay.available inventory location = other.available inventory location := by
  have slots := renamed location
  unfold Overlay.available
  generalize overlay.slot? location = slot at slots
  generalize other.slot? location = twin at slots
  cases slots with
  | some _ => rfl
  | none => rfl

theorem Overlay.Renamed.setSlot {location : Location} {slot twin : PredictedSlot}
    (renamed : overlay.Renamed same other) (alike : slot.Renamed same twin) :
    (overlay.setSlot location slot).Renamed same (other.setSlot location twin) := by
  intro third
  rw [Overlay.slot?_setSlot, Overlay.slot?_setSlot]
  split
  · exact .some alike
  · exact renamed third

end Slots

namespace Compile

section Steps

variable {same : Int32 → Int32 → Prop} {context : Context} {requestId otherId : Int32}
  (mirrored : ∀ location, same (context.inventory.itemOrEmpty location).stackId
    (context.inventory.itemOrEmpty location).stackId)

include mirrored in
/-- What is done to a slot goes by its item. -/
theorem use_renamed {α : Type} {location : Location}
    {change : PredictedSlot → α × PredictedSlot}
    (alike : ∀ slot slot' : PredictedSlot, slot.Renamed same slot' →
      (change slot).1 = (change slot').1 ∧ (change slot).2.Renamed same (change slot').2) :
    Twin (Draft.Renamed same) (onOverlay (Overlay.use context.inventory location change))
      (onOverlay (Overlay.use context.inventory location change)) := by
  intro draft other renamed
  unfold onOverlay Overlay.use
  rw [Overlay.find_eq, Overlay.find_eq, renamed.overlay.available]
  by_cases known : other.overlay.available context.inventory location
  · rw [if_pos known, if_pos known]
    obtain ⟨answers, slots⟩ := alike _ _ (renamed.overlay.slotAt mirrored location)
    exact .ok ⟨answers, { renamed with overlay := renamed.overlay.setSlot slots }⟩
  · rw [if_neg known, if_neg known]
    exact .error _

include mirrored in
theorem item_renamed (location : Location) :
    Twin (Draft.Renamed same) (onOverlay (Overlay.item context.inventory location))
      (onOverlay (Overlay.item context.inventory location)) :=
  use_renamed mirrored fun _ _ renamed => ⟨renamed.item, renamed⟩

include mirrored in
theorem write_renamed (location : Location) (item : Item) :
    Twin (Draft.Renamed same) (onOverlay (Overlay.write context.inventory location item))
      (onOverlay (Overlay.write context.inventory location item)) :=
  use_renamed mirrored fun _ _ renamed => ⟨rfl, rfl, renamed.stackId⟩

include mirrored in
theorem take_renamed (location : Location) (count : UInt8) :
    Twin (Draft.Renamed same) (onOverlay (Overlay.take context.inventory location count))
      (onOverlay (Overlay.take context.inventory location count)) := by
  refine use_renamed mirrored fun slot slot' renamed => ?_
  simp only [renamed.item]
  exact ⟨trivial, rfl, renamed.stackId⟩

include mirrored in
theorem place_renamed (location : Location) (item : Item) :
    Twin (Draft.Renamed same) (onOverlay (Overlay.place context.inventory location item))
      (onOverlay (Overlay.place context.inventory location item)) := by
  refine use_renamed mirrored fun slot slot' renamed => ?_
  simp only [renamed.item]
  exact ⟨trivial, rfl, renamed.stackId⟩

include mirrored in
theorem transfer_renamed (source target : Location) (count : UInt8) :
    Twin (Draft.Renamed same) (onOverlay (Overlay.transfer context.inventory source target count))
      (onOverlay (Overlay.transfer context.inventory source target count)) := by
  unfold Overlay.transfer
  rw [onOverlay_bind]
  refine (take_renamed mirrored source count).bind fun taken _ equal => ?_
  subst equal
  exact place_renamed mirrored target taken

include mirrored in
theorem exchange_renamed (first second : Location) :
    Twin (Draft.Renamed same) (onOverlay (Overlay.swap context.inventory first second))
      (onOverlay (Overlay.swap context.inventory first second)) := by
  unfold Overlay.swap
  simp only [onOverlay_bind]
  refine (item_renamed mirrored first).bind fun firstItem _ equal => ?_
  subst equal
  refine (item_renamed mirrored second).bind fun secondItem _ equal => ?_
  subst equal
  refine (write_renamed mirrored first secondItem).bind fun _ _ _ => ?_
  exact write_renamed mirrored second firstItem

theorem emit_renamed {action other : StackAction} (alike : action.Renamed same other) :
    Twin (Draft.Renamed same) (emit action) (emit other) := by
  apply Coupled.modify
  intro draft whole renamed
  exact { renamed with actions := List.rel_append renamed.actions (.cons alike .nil) }

variable (paired : same requestId otherId)

include mirrored paired in
theorem refer_renamed (location : Location) :
    Coupled (Draft.Renamed same) (Draft.Renamed same) (SlotRef.Renamed same)
      (refer context requestId location) (refer context otherId location) := by
  intro draft other renamed
  rw [refer_eq, refer_eq]
  cases Role.resolve context.overrides context.opened location with
  | error failure => exact .error failure
  | ok role =>
      simp only [renamed.overlay.available]
      by_cases known : other.overlay.available context.inventory location
      · rw [if_pos known, if_pos known]
        have slots := renamed.overlay.slotAt mirrored location
        refine .ok ⟨⟨rfl, rfl, slots.stackId⟩, ?_⟩
        exact { renamed with
          overlay := renamed.overlay.setSlot ⟨slots.item, paired⟩
          windows := congrArg (fun windows => windows.note role location.window) renamed.windows
          touched := congrArg location.insertInto renamed.touched }
      · rw [if_neg known, if_neg known]
        exact .error _

include paired in
theorem referOutput_renamed :
    Coupled (Draft.Renamed same) (Draft.Renamed same) (SlotRef.Renamed same)
      (referOutput requestId) (referOutput otherId) := by
  unfold referOutput
  refine (Coupled.modify ?_).bind fun _ _ _ => .pure ⟨rfl, rfl, paired⟩
  intro draft other renamed
  exact { renamed with windows := by simp only [renamed.windows] }

include mirrored in
theorem itemOf_renamed (location : Location) :
    Twin (Draft.Renamed same) (itemOf context location) (itemOf context location) := by
  unfold itemOf
  refine (item_renamed mirrored location).bind fun item _ equal => ?_
  subst equal
  split
  · exact (Coupled.throw _).bind fun _ _ _ => .pure rfl
  · exact Coupled.bind (Coupled.pure (rfl : () = ())) fun _ _ _ => .pure rfl

include mirrored paired in
theorem move_renamed (source target : Location) (count : UInt8) :
    Twin (Draft.Renamed same) (move context requestId source target count)
      (move context otherId source target count) := by
  refine (refer_renamed mirrored paired source).bind fun _ _ sources => ?_
  refine (refer_renamed mirrored paired target).bind fun _ _ targets => ?_
  refine (emit_renamed (.place count sources targets)).bind fun _ _ _ => ?_
  exact transfer_renamed mirrored source target count

include mirrored paired in
theorem swap_renamed (first second : Location) :
    Twin (Draft.Renamed same) (swap context requestId first second)
      (swap context otherId first second) := by
  refine (refer_renamed mirrored paired first).bind fun _ _ sources => ?_
  refine (refer_renamed mirrored paired second).bind fun _ _ targets => ?_
  refine (emit_renamed (.swap sources targets)).bind fun _ _ _ => ?_
  exact exchange_renamed mirrored first second

include mirrored paired in
theorem drop_renamed (source : Location) (count : UInt8) :
    Twin (Draft.Renamed same) (drop context requestId source count)
      (drop context otherId source count) := by
  refine (refer_renamed mirrored paired source).bind fun _ _ sources => ?_
  refine (emit_renamed (.drop count _ sources)).bind fun _ _ _ => ?_
  exact (take_renamed mirrored source count).bind fun _ _ _ => .pure rfl

include mirrored paired in
theorem consume_renamed (location : Location) (count : UInt8) :
    Twin (Draft.Renamed same) (consume context requestId location count)
      (consume context otherId location count) := by
  refine (refer_renamed mirrored paired location).bind fun _ _ sources => ?_
  refine (emit_renamed (.consume count sources)).bind fun _ _ _ => ?_
  exact take_renamed mirrored location count

include mirrored paired in
theorem placeOutput_renamed (item : Item) (target : Location) (count : UInt8) :
    Twin (Draft.Renamed same) (placeOutput context requestId item target count)
      (placeOutput context otherId item target count) := by
  refine (referOutput_renamed paired).bind fun _ _ sources => ?_
  refine (refer_renamed mirrored paired target).bind fun _ _ targets => ?_
  refine (emit_renamed (.place count sources targets)).bind fun _ _ _ => ?_
  exact place_renamed mirrored target item

include mirrored paired in
theorem stepsTwin_renamed : StepsTwin context requestId otherId (Draft.Renamed same) where
  move := move_renamed mirrored paired
  swap := swap_renamed mirrored paired
  drop := drop_renamed mirrored paired
  consume := consume_renamed mirrored paired
  placeOutput := placeOutput_renamed mirrored paired
  itemOf := itemOf_renamed mirrored
  craft _ unnamed := emit_renamed (.plain unnamed)
  craftNamed draft whole renamed := by
    rw [renamed.filterStrings]
    exact emit_renamed (.plain rfl)
  declare location expectation := by
    apply Coupled.modify
    intro draft other renamed
    exact { renamed with expectation? := by simp only [renamed.expectation?] }
  rename name := by
    apply Coupled.modify
    intro draft other renamed
    exact { renamed with
      filterStrings := congrArg (· ++ [name]) renamed.filterStrings
      filterCause := rfl }

end Steps

section Groups

variable {same : Int32 → Int32 → Prop} {context : Context} {overlay other : Overlay}
  (mirrored : ∀ location, same (context.inventory.itemOrEmpty location).stackId
    (context.inventory.itemOrEmpty location).stackId)

include mirrored in
theorem group_renamed {requestId otherId : Int32} (paired : same requestId otherId)
    (renamed : overlay.Renamed same other) (operations : List Operation) :
    Matches (fun one two => one.1.Renamed same two.1 ∧ one.2.Renamed same two.2)
      (group context requestId overlay operations) (group context otherId other operations) := by
  have started : Draft.Renamed same { overlay } { overlay := other } :=
    ⟨renamed, .nil, rfl, rfl, rfl, rfl, rfl⟩
  have ran := forM_twin (stepsTwin_renamed mirrored paired) operations _ _ started
  unfold group
  change Matches _ (operations.forM (operation context requestId) { overlay } >>= _)
    (operations.forM (operation context otherId) { overlay := other } >>= _)
  generalize operations.forM (operation context requestId) { overlay } = left at ran ⊢
  generalize operations.forM (operation context otherId) { overlay := other } = right at ran ⊢
  cases ran with
  | error failure => exact .error failure
  | @ok left right ran =>
      obtain ⟨_, left⟩ := left
      obtain ⟨_, right⟩ := right
      obtain ⟨-, ended⟩ := ran
      change left.Renamed same right at ended
      refine .ok ⟨⟨paired, ended.actions, ended.filterStrings, ended.filterCause, ended.windows,
        ?_⟩, ended.overlay⟩
      unfold Draft.finish
      simp only [ended.touched, ended.expectation?, ended.overlay.item?]

include mirrored in
/-- The groups fail at the same place, or come out the same under either row of ids. -/
theorem groups_renamed (operations : List (List Operation)) {requestId otherId : Int32}
    (paired : ∀ position < operations.length,
      same (idAt requestId position) (idAt otherId position))
    (renamed : overlay.Renamed same other) :
    Matches (List.Forall₂ (CompiledRequest.Renamed same))
        (groups context requestId overlay operations).1
        (groups context otherId other operations).1 ∧
      begun context requestId overlay operations = begun context otherId other operations := by
  induction operations generalizing requestId otherId overlay other with
  | nil => exact ⟨.ok .nil, rfl⟩
  | cons members later induction =>
      have here := paired 0 (Nat.succ_pos _)
      rw [idAt_zero, idAt_zero] at here
      have head := group_renamed mirrored here renamed members
      unfold groups begun
      generalize group context requestId overlay members = left at head ⊢
      generalize group context otherId other members = right at head ⊢
      cases head with
      | error failure => exact ⟨.error failure, rfl⟩
      | @ok left right both =>
          obtain ⟨request, after⟩ := both
          have others (position : Nat) (inside : position < later.length) :
              same (idAt (idAfter requestId) position) (idAt (idAfter otherId) position) := by
            rw [← idAt_succ, ← idAt_succ]
            exact paired (position + 1) (Nat.succ_lt_succ inside)
          obtain ⟨rest, count⟩ := induction others after
          refine ⟨?_, congrArg (· + 1) count⟩
          simp only
          generalize groups context (idAfter requestId) left.2 later = compiled at rest ⊢
          generalize groups context (idAfter otherId) right.2 later = others at rest ⊢
          obtain ⟨compiled, free⟩ := compiled
          obtain ⟨others, otherFree⟩ := others
          cases rest with
          | ok rest => exact .ok (.cons request rest)
          | error failure => exact .error failure

end Groups

end Compile

/-- How stacks are named in two packets: as the mirror has them, or by requests at the same
place of either packet. -/
inductive SameStack (inventory : Inventory) (count : Nat) (first second : Int32) :
    Int32 → Int32 → Prop where
  | mirrored (location : Location) :
      SameStack inventory count first second (inventory.itemOrEmpty location).stackId
        (inventory.itemOrEmpty location).stackId
  | requested (position : Nat) (inside : position < count) :
      SameStack inventory count first second (Compile.idAt first position)
        (Compile.idAt second position)

/-- Whatever ids are free, a queue is compiled into the same requests, or fails at the same
group for the same reason. -/
theorem Engine.compile_renamed {τ : Type} (engine : Engine τ)
    (table : RequestTable (Completion τ)) (queue : List Operation) :
    Matches (List.Forall₂ (CompiledRequest.Renamed (SameStack engine.inventory
          (engine.settings.policy.group queue).length engine.requests.nextId table.nextId)))
        (engine.compile queue).1 ({ engine with requests := table }.compile queue).1 ∧
      engine.idsFor queue = ({ engine with requests := table } : Engine τ).idsFor queue :=
  Compile.groups_renamed .mirrored (engine.settings.policy.group queue) .requested
    fun _ => .none

end InventorySync
