import InventorySync.Proofs.DraftViews

/-!
A rename takes a whole stack into the anvil and back, in whatever state the operations before it
left the slots. It succeeds if the anvil is open and free and the stack can be counted, and then
the name is the only thing that it changes.
-/

namespace InventorySync

set_option autoImplicit false

namespace Compile

variable {context : Context} {requestId : Int32} {draft : Draft} {source : Location}
  {name : String} {expectation : Option Expectation} {container : OpenedContainer} {view : View}

/-- The view of a draft in which a stack was renamed. -/
def View.renamed (context : Context) (requestId : Int32) (view : View) (source : Location)
    (name : String) (count : UInt8) : View where
  items := (view.items.put UiSlot.anvilInput .empty).put source ((view.items source).renamed name)
  stackIds := fun location =>
    if location = source ∨ location = UiSlot.anvilInput then requestId else view.stackIds location
  actions := view.actions ++
    [.place count (view.reference context source)
        ((view.named requestId source).reference context UiSlot.anvilInput),
      .craftRecipeOptional 0 (Int32.ofNat view.filterStrings.length),
      .consume count ⟨.anvilInput, UiSlot.anvilInput.slot, requestId⟩,
      .place count ⟨.createdOutput, UiSlot.createdOutput.slot, requestId⟩
        ⟨roleAt context source, source.slot, requestId⟩]
  filterStrings := view.filterStrings ++ [name]

/-- The action is written down under the number of names so far, and its name follows it. -/
def View.labelled (view : View) (name : String) : View :=
  { view.crafted (.craftRecipeOptional 0 (Int32.ofNat view.filterStrings.length)) with
    filterStrings := view.filterStrings ++ [name] }

/-- What the steps of a rename come to. -/
theorem View.placed_eq_renamed {count : UInt8}
    (exchanged : ((Operation.effect (.move source UiSlot.anvilInput count) view.items).take
        UiSlot.anvilInput count).place source ((view.items source).renamed name) =
      (view.items.put UiSlot.anvilInput .empty).put source ((view.items source).renamed name)) :
    (((view.moved context requestId source UiSlot.anvilInput count).labelled name).consumed context
      requestId UiSlot.anvilInput count).placed context requestId
        ((view.items source).renamed name) source count =
      view.renamed context requestId source name count := by
  have role : roleAt context UiSlot.anvilInput = .anvilInput := rfl
  ext1
  case items => exact exchanged
  case stackIds =>
    funext location
    simp only [View.placed, View.consumed, View.labelled, View.moved, View.named, View.crafted,
      View.renamed, Function.update_apply]
    by_cases atSource : location = source
    · simp [atSource]
    · by_cases atInput : location = UiSlot.anvilInput <;> simp [atSource, atInput]
  case actions =>
    simp [View.placed, View.consumed, View.labelled, View.moved, View.named, View.crafted,
      View.renamed, View.reference, Function.update_apply, role]
  case filterStrings => rfl

theorem Draft.Shows.label {slots : List Location} (shows : draft.Shows context slots view)
    (name : String) :
    ({ draft with
      actions := draft.actions ++
        [.craftRecipeOptional 0 (Int32.ofNat draft.filterStrings.length)]
      filterStrings := draft.filterStrings ++ [name]
      filterCause := FilterCause.anvilText } : Draft).Shows context slots
        (view.labelled name) := by
  obtain ⟨rfl, usable⟩ := shows
  exact ⟨rfl, usable⟩

theorem anvilRename_shows (requestId : Int32) (name : String)
    (expectation : Option Expectation) (opens : context.opened = some container)
    (anvil : container.containerType = ContainerType.anvil)
    (shows : draft.Shows context [source, UiSlot.anvilInput] view)
    (filled : (view.items source).isEmpty = false) (few : (view.items source).count.toNat ≤ 255)
    (free : (view.items UiSlot.anvilInput).isEmpty ∨ source = UiSlot.anvilInput) :
    ∃ after count, count.toNat = (view.items source).count.toNat ∧
      anvilRename context requestId source name expectation draft = .ok ((), after) ∧
      after.Shows context [source, UiSlot.anvilInput]
        (view.renamed context requestId source name count) := by
  have here : source ∈ [source, UiSlot.anvilInput] := by simp
  have there : UiSlot.anvilInput ∈ [source, UiSlot.anvilInput] := by simp
  have counted := Item.toNat_carried few
  generalize number : UInt8.ofNat (min (view.items source).count.toNat 255) = count at counted
  have present : ((view.items source).renamed name).isEmpty = false := filled
  obtain ⟨carried, exchanged⟩ := Operation.effect_exchange filled free counted.ge present
  have required := OpenedContainer.require_eq opens anvil
  obtain ⟨_, read, seen⟩ := itemOf_shows shows here filled
  obtain ⟨loaded, moved, inserted⟩ := move_shows seen here there requestId count
  have labelled := inserted.label name
  obtain ⟨_, consumed, emptied⟩ := consume_shows labelled there requestId count
  -- The input gives back the very stack that went in, also where the two slots are one.
  have input : ((view.moved context requestId source UiSlot.anvilInput count).labelled
      name).items.taken UiSlot.anvilInput count = view.items source := carried
  rw [input] at consumed
  obtain ⟨after, placed, returned⟩ := placeOutput_shows emptied here requestId
    ((view.items source).renamed name) count
  rw [View.placed_eq_renamed exchanged] at returned
  have begun : anvilRename context requestId source name expectation draft =
      (expectation.elim (pure ()) (declare source) : Action Unit) after := by
    unfold anvilRename
    rw [bind_of_ok (lift_ok.2 ⟨required, rfl⟩), bind_of_ok read]
    dsimp only
    rw [number, bind_of_ok moved, bind_of_ok (get_ok.2 ⟨rfl, rfl⟩), bind_of_ok (emit_eq _ _),
      bind_of_ok (modify_eq _ _), bind_of_ok consumed]
    cases expectation <;> exact bind_of_ok placed
  rw [begun]
  cases expectation with
  | none => exact ⟨after, count, counted, rfl, returned⟩
  | some expected => exact ⟨_, count, counted, rfl, returned.view, returned.usable⟩

/-- A stack was renamed and nothing else changed. The actions that tell it carry the whole
stack. -/
structure RenamesOnly (context : Context) (requestId : Int32) (source : Location) (role : Role)
    (name : String) (before after : Draft) : Prop where
  item : after.items context.inventory source =
    { before.items context.inventory source with
      userData := DisplayName.patch (before.items context.inventory source).userData name }
  input : source ≠ UiSlot.anvilInput →
    after.items context.inventory UiSlot.anvilInput = .empty
  others : ∀ location, location ≠ source → location ≠ UiSlot.anvilInput →
    after.overlay.slotAt context.inventory location =
      before.overlay.slotAt context.inventory location
  actions : ∃ count : UInt8,
    count.toNat = (before.items context.inventory source).count.toNat ∧
      after.actions = before.actions ++
        [.place count
            ⟨role, source.slot, before.overlay.stackIdAt context.inventory source⟩
            ⟨.anvilInput, UiSlot.anvilInput.slot,
              if UiSlot.anvilInput = source then requestId
              else before.overlay.stackIdAt context.inventory UiSlot.anvilInput⟩,
          .craftRecipeOptional 0 (Int32.ofNat before.filterStrings.length),
          .consume count ⟨.anvilInput, UiSlot.anvilInput.slot, requestId⟩,
          .place count ⟨.createdOutput, UiSlot.createdOutput.slot, requestId⟩
            ⟨role, source.slot, requestId⟩]

/-- Whatever was done before it, a rename succeeds and changes the name and nothing else. -/
theorem anvil_rename_changes_name_only (context : Context) (requestId : Int32) (draft : Draft)
    (source : Location) (name : String) (expectation : Option Expectation)
    {container : OpenedContainer} {role : Role} (opens : context.opened = some container)
    (anvil : container.containerType = ContainerType.anvil)
    (resolved : Role.resolve context.overrides context.opened source = .ok role)
    (filled : (draft.items context.inventory source).isEmpty = false)
    (few : (draft.items context.inventory source).count.toNat ≤ 255)
    (free : (draft.items context.inventory UiSlot.anvilInput).isEmpty ∨
      source = UiSlot.anvilInput) :
    ∃ after,
      operation context requestId (.anvilRename source name expectation) draft =
          .ok ((), after) ∧
        RenamesOnly context requestId source role name draft after := by
  have start : draft.Shows context [source, UiSlot.anvilInput]
      (draft.view context.inventory) := by
    refine ⟨rfl, ?_⟩
    simp only [List.forall_mem_cons, List.not_mem_nil, false_implies, implies_true, and_true]
    exact ⟨usable_of_filled resolved filled, @usable_of_ui _ _ _ .anvilInput rfl rfl⟩
  obtain ⟨after, count, counted, performed, shows⟩ :=
    anvilRename_shows requestId name expectation opens anvil start filled few free
  have items : after.items context.inventory = _ := congrArg View.items shows.view
  refine ⟨after, performed, ?_, ?_, ?_, count, counted, ?_⟩
  · rw [items]
    exact if_pos rfl
  · intro apart
    rw [items]
    exact (Items.put_of_ne apart.symm).trans (if_pos rfl)
  · intro location atSource atInput
    apply shows.slotAt_eq start
    constructor
    · exact (Items.put_of_ne atSource).trans (Items.put_of_ne atInput)
    · exact if_neg (not_or.2 ⟨atSource, atInput⟩)
  · have place : roleAt context source = role := roleAt_of_resolve resolved
    have input : roleAt context UiSlot.anvilInput = .anvilInput := rfl
    have emitted : after.actions = _ := congrArg View.actions shows.view
    rw [emitted]
    simp only [View.renamed, View.reference, View.named, Function.update_apply, place, input]
    rfl

/-- An open anvil, with a stack of tools in a slot of the player. -/
def engraving : Context where
  inventory := Inventory.empty.set ⟨0, 9⟩
    { typeId := 3, count := 12, canDestroy := ["stone"], stackId := 7 }
  creative := []
  overrides := []
  opened := some ⟨5, ContainerType.anvil, default, -1⟩
  dropRandomly := false

/-- A name was given, and some of the stack was put into the anvil and taken back. -/
def engravingDraft : Draft :=
  (follow engraving (-1) { overlay := .empty }
    [.anvilRename ⟨0, 9⟩ "first" none, .move ⟨0, 9⟩ UiSlot.anvilInput 5,
      .swap UiSlot.anvilInput ⟨0, 10⟩]).2

theorem engraving_changes_name_only :
    engravingDraft.items engraving.inventory ⟨0, 10⟩ =
        { typeId := 3, count := 5, canDestroy := ["stone"], stackId := 7,
          userData := DisplayName.patch none "first" } ∧
      ∃ after,
        operation engraving (-1) (.anvilRename ⟨0, 10⟩ "second" none) engravingDraft =
            .ok ((), after) ∧
          RenamesOnly engraving (-1) ⟨0, 10⟩ .inventory "second" engravingDraft after :=
  ⟨by decide +kernel,
    anvil_rename_changes_name_only engraving (-1) engravingDraft ⟨0, 10⟩ "second" none rfl rfl rfl
      (by decide +kernel) (by decide +kernel) (Or.inl (by decide +kernel))⟩

end Compile

end InventorySync
