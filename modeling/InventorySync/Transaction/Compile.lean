import InventorySync.Container.Addressing
import InventorySync.Packet.Request
import InventorySync.Transaction.Operation
import InventorySync.Transaction.Overlay

/-!
From operations to requests. Each group of operations becomes one request, with
what is needed to understand the answer to it: the window behind each role, and
a prediction for each slot. One overlay runs through all groups, so that an
operation can go on with what an earlier one will have left.
-/

namespace InventorySync

set_option autoImplicit false

/-- The windows behind the roles of a request. -/
structure RoleWindows where
  window? : Role → Option WindowId

namespace RoleWindows

def empty : RoleWindows := ⟨fun _ => none⟩

def set (windows : RoleWindows) (role : Role) (window : WindowId) : RoleWindows :=
  ⟨fun other => if other = role then some window else windows.window? other⟩

theorem window?_set (windows : RoleWindows) (role other : Role) (window : WindowId) :
    (windows.set role window).window? other =
      if other = role then some window else windows.window? other := rfl

/-- Notes the window of a role. The server may answer for the hotbar and for the
main inventory under one common role. -/
def note (windows : RoleWindows) (role : Role) (window : WindowId) : RoleWindows :=
  let noted := windows.set role window
  if role = .hotbar || role = .inventory then
    noted.set .combinedHotbarAndInventory Window.inventory
  else
    noted

def ofList (entries : List (Role × WindowId)) : RoleWindows :=
  entries.foldl (fun windows entry => windows.set entry.1 entry.2) empty

/-- The roles with their windows, in the order of the role numbers. -/
def toList (windows : RoleWindows) : List (Role × WindowId) :=
  Role.all.filterMap fun role => (windows.window? role).map fun window => (role, window)

end RoleWindows

/-- Predictions by location. Of several for one location the last one counts. -/
abbrev Predictions := List (Location × Prediction)

def Predictions.find? (predictions : Predictions) (location : Location) : Option Prediction :=
  predictions.reverse.lookup location

/-- A request and what is needed to understand the answer to it. -/
structure CompiledRequest where
  request : StackRequest
  windows : RoleWindows
  predictions : Predictions

namespace Compile

/-- What operations are compiled against. -/
structure Context where
  inventory : Inventory
  creative : CreativeIndex
  overrides : RoleOverrides
  opened : Option OpenedContainer
  /-- Whether dropped items scatter. -/
  dropRandomly : Bool

/-- A request that is being put together. -/
structure Draft where
  overlay : Overlay
  actions : List StackAction := []
  windows : RoleWindows := .empty
  /-- Every slot that an action names, ascending. -/
  touched : List Location := []
  expectation? : Location → Option Expectation := fun _ => none
  filterStrings : List String := []
  filterCause : Int32 := FilterCause.none

abbrev Action := StateT Draft (Except SyncError)

def onOverlay {α : Type} (action : Overlay.Action α) : Action α := fun draft =>
  match action draft.overlay with
  | (.ok answer, overlay) => .ok (answer, { draft with overlay })
  | (.error failure, _) => .error failure

def emit (action : StackAction) : Action Unit :=
  modify fun draft => { draft with actions := draft.actions ++ [action] }

/-- Declares what a slot will hold. A later declaration replaces an earlier one. -/
def declare (location : Location) (expectation : Expectation) : Action Unit :=
  modify fun draft =>
    { draft with expectation? := fun other =>
        if other = location then some expectation else draft.expectation? other }

section

variable (context : Context) (requestId : Int32)

/-- Names a slot in this request, which is from now on the last that touched it. -/
def refer (location : Location) : Action SlotRef := do
  let role ← Role.resolve context.overrides context.opened location
  let stackId ← onOverlay (Overlay.reserve context.inventory location requestId)
  modify fun draft =>
    { draft with
      windows := draft.windows.note role location.window
      touched := location.insertInto draft.touched }
  return ⟨role, location.slot, stackId⟩

/-- Names the slot in which this request makes its items appear. -/
def referOutput : Action SlotRef := do
  modify fun draft =>
    { draft with windows := draft.windows.note .createdOutput UiSlot.createdOutput.window }
  return ⟨.createdOutput, UiSlot.createdOutput.slot, requestId⟩

/-- The item of a slot that must hold one. -/
def itemOf (location : Location) : Action Item := do
  let item ← onOverlay (Overlay.item context.inventory location)
  if item.isEmpty then throw (.missingSlot location)
  return item

def move (source target : Location) (count : UInt8) : Action Unit := do
  let sourceRef ← refer context requestId source
  let targetRef ← refer context requestId target
  emit (.place count sourceRef targetRef)
  onOverlay (Overlay.transfer context.inventory source target count)

def swap (first second : Location) : Action Unit := do
  let firstRef ← refer context requestId first
  let secondRef ← refer context requestId second
  emit (.swap firstRef secondRef)
  onOverlay (Overlay.swap context.inventory first second)

def drop (source : Location) (count : UInt8) : Action Unit := do
  let sourceRef ← refer context requestId source
  emit (.drop count sourceRef context.dropRandomly)
  let _ ← onOverlay (Overlay.take context.inventory source count)

/-- Uses up the input of a crafting step, and answers what it was. -/
def consume (location : Location) (count : UInt8) : Action Item := do
  let sourceRef ← refer context requestId location
  emit (.consume count sourceRef)
  onOverlay (Overlay.take context.inventory location count)

/-- Moves a crafted item from where it appears to where it belongs. -/
def placeOutput (item : Item) (target : Location) (count : UInt8) : Action Unit := do
  let sourceRef ← referOutput requestId
  let targetRef ← refer context requestId target
  emit (.place count sourceRef targetRef)
  onOverlay (Overlay.place context.inventory target item)

/-- The entry of the creative list to ask for, and the item type that it gives.
A declared type goes before that of the list. An item of unknown type cannot be
asked for: its slot would end as air with a count. -/
def creativeEntry (source : CreativeSource) (declared : Option Int32) :
    Except SyncError (UInt32 × Int32) :=
  match source with
  | .networkId id =>
      match declared <|> context.creative.itemType? id with
      | some itemType => .ok (id, itemType)
      | none => .error (.unknownCreativeItem source)
  | .itemType itemType =>
      match context.creative.networkId? itemType with
      | some id => .ok (id, declared.getD itemType)
      | none => .error (.unknownCreativeItem source)

def creativeFetch (source : CreativeSource) (target : Location) (count : UInt8)
    (expectation : Option Expectation) : Action Unit := do
  let expected := expectation.getD {}
  let (entry, itemType) ← creativeEntry context source expected.typeId
  emit (.craftCreative entry)
  declare target { expected with typeId := some itemType }
  let item : Item :=
    { typeId := itemType
      count := count.toUInt16
      userData := expected.userData.bind DisplayName.unlessEmpty }
  placeOutput context requestId item target count

/-- The whole stack goes through the anvil, as far as one action can count. -/
def anvilRename (location : Location) (name : String) (expectation : Option Expectation) :
    Action Unit := do
  let _ ← OpenedContainer.require context.opened ContainerType.anvil
  let item ← itemOf context location
  let count := UInt8.ofNat (min item.count.toNat 255)
  move context requestId location UiSlot.anvilInput count
  let renames := (← get).filterStrings.length
  emit (.craftRecipeOptional 0 (Int32.ofNat renames))
  modify fun draft =>
    { draft with
      filterStrings := draft.filterStrings ++ [name]
      filterCause := FilterCause.anvilText }
  let input ← consume context requestId UiSlot.anvilInput count
  let renamed := { input with userData := DisplayName.patch input.userData name }
  placeOutput context requestId renamed location count
  match expectation with
  | some expected => declare location expected
  | none => pure ()

/-- One dye is used up. A pattern item goes into the loom and comes back. -/
def loomCombine (pattern : String) (patternItem : Option Location) (banner dye : Location)
    (expectation : Expectation) : Action Unit := do
  let _ ← OpenedContainer.require context.opened ContainerType.loom
  let _ ← itemOf context banner
  let _ ← itemOf context dye
  move context requestId banner UiSlot.loomInput 1
  move context requestId dye UiSlot.loomDye 1
  match patternItem with
  | some location => do
      let _ ← itemOf context location
      move context requestId location UiSlot.loomMaterial 1
  | none => pure ()
  emit (.craftLoom pattern)
  let input ← consume context requestId UiSlot.loomInput 1
  let _ ← consume context requestId UiSlot.loomDye 1
  let result := { input with userData := expectation.userData <|> input.userData }
  placeOutput context requestId result banner 1
  match patternItem with
  | some location => move context requestId UiSlot.loomMaterial location 1
  | none => pure ()
  declare banner expectation

def operation : Operation → Action Unit
  | .move source target count => move context requestId source target count
  | .swap first second => swap context requestId first second
  | .drop source count => drop context requestId source count
  | .creativeFetch source target count expectation =>
      creativeFetch context requestId source target count expectation
  | .anvilRename location name expectation =>
      anvilRename context requestId location name expectation
  | .loomCombine pattern patternItem banner dye expectation =>
      loomCombine context requestId pattern patternItem banner dye expectation

end

/-- The finished request. Each touched slot is predicted as the overlay has it. -/
def Draft.finish (draft : Draft) (requestId : Int32) : CompiledRequest :=
  { request :=
      { id := requestId
        actions := draft.actions
        filterStrings := draft.filterStrings
        filterCause := draft.filterCause }
    windows := draft.windows
    predictions := draft.touched.map fun location =>
      (location,
        { template := (draft.overlay.slot? location).map PredictedSlot.item
          expectation := draft.expectation? location }) }

/-- One request, and the overlay after it. -/
def group (context : Context) (requestId : Int32) (overlay : Overlay)
    (operations : List Operation) : Except SyncError (CompiledRequest × Overlay) := do
  let (_, draft) ← (operations.forM (operation context requestId)).run { overlay }
  return (draft.finish requestId, draft.overlay)

/-- Request ids are negative and odd, and go down in steps of two. -/
def idAfter (requestId : Int32) : Int32 := requestId - 2

/-- The requests for groups of operations, and the next free request id. Each
group that is begun takes an id, also one that fails; nothing follows it. -/
def groups (context : Context) :
    Int32 → Overlay → List (List Operation) → Except SyncError (List CompiledRequest) × Int32
  | requestId, _, [] => (.ok [], requestId)
  | requestId, overlay, operations :: later =>
      match group context requestId overlay operations with
      | .error failure => (.error failure, idAfter requestId)
      | .ok (compiled, after) =>
          let (others, free) := groups context (idAfter requestId) after later
          (others.map fun requests => compiled :: requests, free)

end Compile

end InventorySync
