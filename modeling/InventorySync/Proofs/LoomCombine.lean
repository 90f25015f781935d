import InventorySync.Proofs.DraftViews

/-!
A dyeing takes a banner, a dye and perhaps a pattern item into the loom. Whatever the operations
before it left, one dye is used up, the pattern item comes back, and the banner returns with the
declared user data.
-/

namespace InventorySync

set_option autoImplicit false

namespace Compile

/-- The slots of the loom in the player's interface. -/
def loomSlots : List Location := [UiSlot.loomInput, UiSlot.loomDye, UiSlot.loomMaterial]

namespace View

section Views

variable (context : Context) (requestId : Int32) (view : View) (pattern : String)
  (patternItem : Option Location) (banner dye : Location) (expectation : Expectation)

/-- The view once a banner and a dye are in the loom. -/
def loaded : View :=
  (view.moved context requestId banner UiSlot.loomInput 1).moved context requestId dye
    UiSlot.loomDye 1

/-- The view once the loom has used up what is in it, and the banner is back. -/
def woven : View :=
  (((view.crafted (.craftLoom pattern)).consumed context requestId UiSlot.loomInput 1).consumed
    context requestId UiSlot.loomDye 1).placed context requestId
      ((view.items.taken UiSlot.loomInput 1).dressed expectation) banner 1

/-- The view once all is done. A pattern item lies in the loom only meanwhile. -/
def combined : View :=
  match patternItem with
  | none => (view.loaded context requestId banner dye).woven context requestId pattern banner
      expectation
  | some location =>
      ((((view.loaded context requestId banner dye).moved context requestId location
        UiSlot.loomMaterial 1).woven context requestId pattern banner expectation).moved context
          requestId UiSlot.loomMaterial location 1)

end Views

end View

variable {context : Context} {requestId : Int32} {draft : Draft} {view : View}
  {pattern : String} {patternItem : Option Location} {banner dye location : Location}
  {expectation : Expectation} {container : OpenedContainer} {slots : List Location}

/-- A banner, a dye and perhaps a pattern item are at hand, and nothing is in the loom. So none of
these is in a slot of the loom. -/
structure ReadyForLoom (patternItem : Option Location) (banner dye : Location)
    (items : Items) : Prop where
  distinct : (banner :: dye :: patternItem.toList).Nodup
  filled : ∀ location ∈ banner :: dye :: patternItem.toList, (items location).isEmpty = false
  single : (items banner).count = 1
  free : ∀ location ∈ loomSlots, (items location).isEmpty

namespace ReadyForLoom

variable {items : Items} (ready : ReadyForLoom patternItem banner dye items)

include ready

theorem ne_slot (named : location ∈ banner :: dye :: patternItem.toList) :
    location ≠ UiSlot.loomInput ∧ location ≠ UiSlot.loomDye ∧ location ≠ UiSlot.loomMaterial := by
  have outside (slot : Location) (loom : slot ∈ loomSlots) : location ≠ slot :=
    Items.ne_of_isEmpty (ready.filled location named) (ready.free slot loom)
  simpa [loomSlots] using outside

theorem dye_ne_banner : dye ≠ banner := by
  intro same
  simpa [same] using ready.distinct

theorem lender_ne (lender : location ∈ patternItem) : location ≠ banner ∧ location ≠ dye := by
  have distinct := ready.distinct
  rw [Option.mem_def.1 lender] at distinct
  simp only [Option.toList_some, List.nodup_cons, List.mem_cons, List.not_mem_nil, or_false,
    not_or] at distinct
  exact ⟨Ne.symm distinct.1.2, Ne.symm distinct.2.1⟩

end ReadyForLoom

theorem loomSlots_apart : UiSlot.loomInput ≠ UiSlot.loomDye ∧
    UiSlot.loomInput ≠ UiSlot.loomMaterial ∧ UiSlot.loomDye ≠ UiSlot.loomMaterial := by decide

/-- The banner is dressed, one dye is gone, and the rest is where it was before. -/
structure Dresses (patternItem : Option Location) (banner dye : Location)
    (expectation : Expectation) (before after : Items) : Prop where
  banner : after banner = (before banner).dressed expectation
  dye : after dye =
    if (before dye).count = 1 then .empty
    else { before dye with count := (before dye).count - 1 }
  patternItem : ∀ location ∈ patternItem, after location = before location
  loom : ∀ location ∈ loomSlots, (after location).isEmpty

namespace View

theorem SameAt.woven {before after : View} (same : before.SameAt location after)
    (here : location ≠ banner) (input : location ≠ UiSlot.loomInput)
    (color : location ≠ UiSlot.loomDye) :
    before.SameAt location (after.woven context requestId pattern banner expectation) :=
  (((same.crafted _).consumed input).consumed color).placed _ here

theorem loaded_same (here : location ≠ banner) (there : location ≠ dye)
    (input : location ≠ UiSlot.loomInput) (color : location ≠ UiSlot.loomDye) :
    view.SameAt location (view.loaded context requestId banner dye) := by
  have same : view.SameAt location view := ⟨rfl, rfl⟩
  exact (same.moved here input).moved there color

theorem loaded_lender (ready : ReadyForLoom patternItem banner dye view.items)
    (lender : location ∈ patternItem) :
    (view.loaded context requestId banner dye).items location = view.items location := by
  have named : location ∈ banner :: dye :: patternItem.toList := by
    rw [Option.mem_def.1 lender]
    simp
  obtain ⟨notInput, notColor, -⟩ := ready.ne_slot named
  obtain ⟨notBanner, notDye⟩ := ready.lender_ne lender
  exact (loaded_same notBanner notDye notInput notColor).item

theorem loaded_material (ready : ReadyForLoom patternItem banner dye view.items) :
    ((view.loaded context requestId banner dye).items UiSlot.loomMaterial).isEmpty := by
  obtain ⟨-, -, notBanner⟩ := ready.ne_slot List.mem_cons_self
  obtain ⟨-, -, notDye⟩ := ready.ne_slot (List.mem_cons_of_mem _ List.mem_cons_self)
  obtain ⟨-, notInput, notColor⟩ := loomSlots_apart
  have kept := @loaded_same context requestId view _ _ _ notBanner.symm notDye.symm notInput.symm
    notColor.symm
  rw [kept.item]
  exact ready.free UiSlot.loomMaterial (by simp [loomSlots])

theorem combined_same
    (elsewhere : location ∉ loomSlots ++ banner :: dye :: patternItem.toList) :
    view.SameAt location
      (view.combined context requestId pattern patternItem banner dye expectation) := by
  simp only [loomSlots, List.mem_append, List.mem_cons, List.not_mem_nil, or_false, not_or]
    at elsewhere
  obtain ⟨⟨input, color, material⟩, here, there, lender⟩ := elsewhere
  have loaded := @loaded_same context requestId view _ _ _ here there input color
  cases patternItem with
  | none => exact loaded.woven here input color
  | some lending =>
      have apart : location ≠ lending := by simpa using lender
      exact ((loaded.moved apart material).woven here input color).moved material apart

/-- The banner and a dye are in the loom. -/
structure Loaded (banner dye : Location) (before after : Items) : Prop where
  input : after UiSlot.loomInput = before banner
  color : after UiSlot.loomDye = (before dye).single
  banner : after banner = .empty
  dye : after dye = (before dye).without 1

theorem loaded_items (ready : ReadyForLoom patternItem banner dye view.items) :
    Loaded banner dye view.items (view.loaded context requestId banner dye).items := by
  have colored := ready.filled banner (by simp)
  have dyed := ready.filled dye (by simp)
  have inputFree := ready.free UiSlot.loomInput (by simp [loomSlots])
  have colorFree := ready.free UiSlot.loomDye (by simp [loomSlots])
  have apart := ready.dye_ne_banner
  have slots := loomSlots_apart.1
  obtain ⟨bannerInput, bannerColor, -⟩ := ready.ne_slot List.mem_cons_self
  obtain ⟨dyeInput, dyeColor, -⟩ := ready.ne_slot (List.mem_cons_of_mem _ List.mem_cons_self)
  have inserted := Operation.effect_move_single colored inputFree
  rw [Item.without_one colored, if_pos ready.single, Item.single_of_count ready.single]
    at inserted
  have dyeKept : Operation.effect (.move banner UiSlot.loomInput 1) view.items dye =
      view.items dye := by
    rw [inserted, Items.put_of_ne dyeInput, Items.put_of_ne apart]
  have colorKept : Operation.effect (.move banner UiSlot.loomInput 1) view.items
      UiSlot.loomDye = view.items UiSlot.loomDye := by
    rw [inserted, Items.put_of_ne slots.symm, Items.put_of_ne bannerColor.symm]
  have added := Operation.effect_move_single (dyeKept ▸ dyed) (colorKept ▸ colorFree)
  rw [dyeKept, inserted] at added
  change Loaded banner dye view.items (Operation.effect (.move dye UiSlot.loomDye 1)
    (Operation.effect (.move banner UiSlot.loomInput 1) view.items))
  rw [inserted, added]
  constructor <;> grind [Items.put]

/-- The pattern item joins the banner and the dye. -/
structure Lent (location : Location) (before after : Items) : Prop where
  material : after UiSlot.loomMaterial = (before location).single
  rest : after location = (before location).without 1

theorem lent_items (ready : ReadyForLoom (some location) banner dye view.items) :
    let full := (view.loaded context requestId banner dye).moved context requestId location
      UiSlot.loomMaterial 1
    Loaded banner dye view.items full.items ∧ Lent location view.items full.items := by
  have named : location ∈ banner :: dye :: (some location).toList := by simp
  obtain ⟨notInput, notColor, notMaterial⟩ := ready.ne_slot named
  obtain ⟨notBanner, notDye⟩ := ready.lender_ne rfl
  obtain ⟨bannerInput, bannerColor, bannerMaterial⟩ := ready.ne_slot List.mem_cons_self
  obtain ⟨dyeInput, dyeColor, dyeMaterial⟩ :=
    ready.ne_slot (List.mem_cons_of_mem _ List.mem_cons_self)
  obtain ⟨-, inputMaterial, colorMaterial⟩ := loomSlots_apart
  have loaded := @loaded_items context requestId view _ _ _ ready
  have kept := @loaded_lender context requestId view _ _ _ _ ready rfl
  have lent := Operation.effect_move_single (kept ▸ ready.filled location named)
    (loaded_material ready)
  rw [kept] at lent
  intro full
  have items : full.items = _ := lent
  rw [items]
  constructor
  · constructor <;> grind [Items.put, Loaded]
  · constructor <;> grind [Items.put]

/-- The banner is dressed, one dye is gone, and what was in the loom is used up. -/
structure Woven (banner dye : Location) (expectation : Expectation) (before after : Items) :
    Prop where
  banner : after banner = (before banner).dressed expectation
  dye : after dye = (before dye).without 1
  input : (after UiSlot.loomInput).isEmpty
  color : (after UiSlot.loomDye).isEmpty

theorem woven_items {before : Items} (ready : ReadyForLoom patternItem banner dye before)
    (loaded : Loaded banner dye before view.items) :
    Woven banner dye expectation before
      (view.woven context requestId pattern banner expectation).items := by
  have colored := ready.filled banner (by simp)
  have dyed := ready.filled dye (by simp)
  have apart := ready.dye_ne_banner
  have slots := loomSlots_apart.1
  obtain ⟨notInput, notColor, -⟩ := ready.ne_slot List.mem_cons_self
  obtain ⟨dyeInput, dyeColor, -⟩ := ready.ne_slot (List.mem_cons_of_mem _ List.mem_cons_self)
  have whole : (before banner).count.toNat ≤ (1 : UInt8).toNat := by
    rw [ready.single]
    exact Nat.le_refl 1
  have one : (before dye).single.count.toNat ≤ (1 : UInt8).toNat := Nat.le_refl 1
  have dressed : ((before banner).dressed expectation).isEmpty = false := colored
  have items : (view.woven context requestId pattern banner expectation).items =
      ((view.items.put UiSlot.loomInput .empty).put UiSlot.loomDye .empty).put banner
        ((before banner).dressed expectation) := by
    change ((view.items.take UiSlot.loomInput 1).take UiSlot.loomDye 1).place banner
      ((view.items.taken UiSlot.loomInput 1).dressed expectation) = _
    unfold Items.place Items.take Items.taken
    rw [loaded.input, Item.split_whole colored whole, Items.put_of_ne slots.symm,
      loaded.color, Item.split_whole (Item.isEmpty_single dyed) one, Items.put_of_ne notColor,
      Items.put_of_ne notInput, loaded.banner, Item.empty_stackOnto dressed]
  rw [items]
  constructor
  case banner => exact if_pos rfl
  case dye =>
    rw [Items.put_of_ne apart, Items.put_of_ne dyeColor, Items.put_of_ne dyeInput, loaded.dye]
  case input =>
    rw [Items.put_of_ne notInput.symm, Items.put_of_ne slots]
    exact Items.isEmpty_put_empty _ _
  case color =>
    rw [Items.put_of_ne notColor.symm]
    exact Items.isEmpty_put_empty _ _

theorem woven_item (here : location ≠ banner) (input : location ≠ UiSlot.loomInput)
    (color : location ≠ UiSlot.loomDye) :
    (view.woven context requestId pattern banner expectation).items location =
      view.items location := by
  have same : view.SameAt location view := ⟨rfl, rfl⟩
  exact (same.woven here input color).item

theorem combined_items (ready : ReadyForLoom patternItem banner dye view.items) :
    Dresses patternItem banner dye expectation view.items
      (view.combined context requestId pattern patternItem banner dye expectation).items := by
  have dyed := ready.filled dye (by simp)
  obtain ⟨-, -, bannerMaterial⟩ := ready.ne_slot List.mem_cons_self
  obtain ⟨-, -, dyeMaterial⟩ := ready.ne_slot (List.mem_cons_of_mem _ List.mem_cons_self)
  obtain ⟨-, inputMaterial, colorMaterial⟩ := loomSlots_apart
  cases patternItem with
  | none =>
      have loaded := @loaded_items context requestId view _ _ _ ready
      have woven := @woven_items context requestId _ pattern _ _ _ expectation _ ready loaded
      have material := @loaded_material context requestId view _ _ _ ready
      rw [← @woven_item context requestId _ pattern _ _ expectation bannerMaterial.symm
        inputMaterial.symm colorMaterial.symm] at material
      constructor
      case banner => exact woven.banner
      case dye => exact woven.dye.trans (Item.without_one dyed)
      case patternItem => simp
      case loom =>
        simp only [loomSlots, List.forall_mem_cons]
        exact ⟨woven.input, woven.color, material, by simp⟩
  | some location =>
      have named : location ∈ banner :: dye :: (some location).toList := by simp
      obtain ⟨notInput, notColor, notMaterial⟩ := ready.ne_slot named
      obtain ⟨notBanner, notDye⟩ := ready.lender_ne rfl
      obtain ⟨loaded, lent⟩ := @lent_items context requestId view _ _ _ ready
      have woven := @woven_items context requestId _ pattern _ _ _ expectation _ ready loaded
      have material := (@woven_item context requestId _ pattern _ _ expectation
        bannerMaterial.symm inputMaterial.symm colorMaterial.symm).trans lent.material
      have rest := (@woven_item context requestId _ pattern _ _ expectation notBanner notInput
        notColor).trans lent.rest
      -- What the loom did left both halves of the pattern item alone, so they come together again.
      have items : (view.combined context requestId pattern (some location) banner dye
          expectation).items = _ :=
        Operation.effect_move_back (ready.filled location named) notMaterial.symm
          material rest
      rw [items]
      constructor
      case banner =>
        rw [Items.put_of_ne notBanner.symm, Items.put_of_ne bannerMaterial]
        exact woven.banner
      case dye =>
        rw [Items.put_of_ne notDye.symm, Items.put_of_ne dyeMaterial]
        exact woven.dye.trans (Item.without_one dyed)
      case patternItem =>
        intro other same
        cases same
        exact if_pos rfl
      case loom =>
        simp only [loomSlots, List.forall_mem_cons]
        refine ⟨?_, ?_, ?_, by simp⟩
        · rw [Items.put_of_ne notInput.symm, Items.put_of_ne inputMaterial]
          exact woven.input
        · rw [Items.put_of_ne notColor.symm, Items.put_of_ne colorMaterial]
          exact woven.color
        · rw [Items.put_of_ne notMaterial.symm]
          exact Items.isEmpty_put_empty _ _

end View

/-- What the loom does once everything is in it, whatever follows. -/
theorem weave_shows (shows : draft.Shows context slots view) (input : UiSlot.loomInput ∈ slots)
    (color : UiSlot.loomDye ∈ slots) (there : banner ∈ slots) (requestId : Int32)
    (pattern : String) (expectation : Expectation) :
    ∃ after,
      (∀ next : Action Unit,
        (do
          emit (.craftLoom pattern)
          let input ← consume context requestId UiSlot.loomInput 1
          let _ ← consume context requestId UiSlot.loomDye 1
          placeOutput context requestId
            { input with userData := expectation.userData <|> input.userData } banner 1
          next) draft = next after) ∧
        after.Shows context slots (view.woven context requestId pattern banner expectation) := by
  obtain ⟨_, crafted, shown⟩ := emit_shows shows (.craftLoom pattern)
  obtain ⟨_, first, emptied⟩ := consume_shows shown input requestId 1
  obtain ⟨_, second, used⟩ := consume_shows emptied color requestId 1
  obtain ⟨after, placed, returned⟩ := placeOutput_shows used there requestId
    ((view.items.taken UiSlot.loomInput 1).dressed expectation) 1
  refine ⟨after, fun next => ?_, returned⟩
  rw [bind_of_ok crafted, bind_of_ok first, bind_of_ok second]
  exact bind_of_ok placed

theorem loomCombine_shows (requestId : Int32) (pattern : String) (expectation : Expectation)
    (opens : context.opened = some container)
    (loom : container.containerType = ContainerType.loom)
    (shows : draft.Shows context (loomSlots ++ banner :: dye :: patternItem.toList) view)
    (ready : ReadyForLoom patternItem banner dye view.items) :
    ∃ after,
      loomCombine context requestId pattern patternItem banner dye expectation draft =
          .ok ((), after) ∧
        after.Shows context (loomSlots ++ banner :: dye :: patternItem.toList)
          (view.combined context requestId pattern patternItem banner dye expectation) := by
  have required := OpenedContainer.require_eq opens loom
  have input : UiSlot.loomInput ∈ loomSlots ++ banner :: dye :: patternItem.toList := by
    simp [loomSlots]
  have color : UiSlot.loomDye ∈ loomSlots ++ banner :: dye :: patternItem.toList := by
    simp [loomSlots]
  have material : UiSlot.loomMaterial ∈ loomSlots ++ banner :: dye :: patternItem.toList := by
    simp [loomSlots]
  have here : banner ∈ loomSlots ++ banner :: dye :: patternItem.toList := by simp
  have there : dye ∈ loomSlots ++ banner :: dye :: patternItem.toList := by simp
  obtain ⟨_, first, seen⟩ := itemOf_shows shows here (ready.filled banner (by simp))
  obtain ⟨_, second, known⟩ := itemOf_shows seen there (ready.filled dye (by simp))
  obtain ⟨_, third, inserted⟩ := move_shows known here input requestId 1
  obtain ⟨_, fourth, loaded⟩ := move_shows inserted there color requestId 1
  unfold loomCombine
  rw [bind_of_ok (lift_ok.2 ⟨required, rfl⟩), bind_of_ok first, bind_of_ok second,
    bind_of_ok third, bind_of_ok fourth]
  cases patternItem with
  | none =>
      obtain ⟨_, worked, shown⟩ := weave_shows loaded input color here requestId pattern expectation
      exact ⟨_, worked (declare banner expectation), shown.view, shown.usable⟩
  | some location =>
      have lender : location ∈ loomSlots ++ banner :: dye :: (some location).toList := by simp
      have filled := ready.filled location (by simp)
      rw [← @View.loaded_lender context requestId view _ _ _ _ ready rfl] at filled
      obtain ⟨_, fifth, present⟩ := itemOf_shows loaded lender filled
      obtain ⟨_, sixth, full⟩ := move_shows present lender material requestId 1
      obtain ⟨_, worked, shown⟩ := weave_shows full input color here requestId pattern expectation
      obtain ⟨_, last, returned⟩ := move_shows shown material lender requestId 1
      dsimp only
      rw [bind_of_ok fifth, bind_of_ok sixth]
      exact ⟨_, (worked _).trans ((bind_of_ok last).trans rfl), returned.view, returned.usable⟩

/-- Whatever was done before it, a dyeing succeeds, uses one dye, gives the pattern item back and
dresses the banner. -/
theorem loom_combine_dresses_banner (context : Context) (requestId : Int32) (draft : Draft)
    (pattern : String) (patternItem : Option Location) (banner dye : Location)
    (expectation : Expectation) {container : OpenedContainer}
    (opens : context.opened = some container)
    (loom : container.containerType = ContainerType.loom)
    (resolved : ∀ location ∈ banner :: dye :: patternItem.toList, ∃ role,
      Role.resolve context.overrides context.opened location = .ok role)
    (ready : ReadyForLoom patternItem banner dye (draft.items context.inventory)) :
    ∃ after,
      operation context requestId (.loomCombine pattern patternItem banner dye expectation)
          draft = .ok ((), after) ∧
        Dresses patternItem banner dye expectation (draft.items context.inventory)
          (after.items context.inventory) ∧
        ∀ location ∉ loomSlots ++ banner :: dye :: patternItem.toList,
          after.overlay.slotAt context.inventory location =
            draft.overlay.slotAt context.inventory location := by
  have start : draft.Shows context (loomSlots ++ banner :: dye :: patternItem.toList)
      (draft.view context.inventory) := by
    refine ⟨rfl, fun location member => ?_⟩
    rcases List.mem_append.1 member with slot | named
    · have roles : ∀ slot ∈ loomSlots, slot.window = Window.ui ∧ ∃ role,
          Role.resolve context.overrides context.opened slot = .ok role := by
        simp only [loomSlots, List.forall_mem_cons]
        exact ⟨⟨rfl, .loomInput, rfl⟩, ⟨rfl, .loomDye, rfl⟩, ⟨rfl, .loomMaterial, rfl⟩, by simp⟩
      obtain ⟨interface, role, known⟩ := roles location slot
      exact usable_of_ui known interface
    · obtain ⟨role, known⟩ := resolved location named
      exact usable_of_filled known (ready.filled location named)
  obtain ⟨after, performed, shows⟩ := loomCombine_shows requestId pattern expectation opens loom
    start ready
  have items : after.items context.inventory = _ := congrArg View.items shows.view
  refine ⟨after, performed, ?_, ?_⟩
  · rw [items]
    exact @View.combined_items context requestId (draft.view context.inventory) pattern
      patternItem banner dye expectation ready
  · intro location elsewhere
    exact shows.slotAt_eq start (View.combined_same elsewhere)

/-- An open loom, with banners, dyes and a pattern item in the slots of the player. -/
def weaving : Context where
  inventory := (((Inventory.empty.set ⟨0, 9⟩ { typeId := 3, count := 2, stackId := 7 }).set ⟨0, 10⟩
    { typeId := 4, count := 2, stackId := 8 }).set ⟨0, 11⟩
      { typeId := 5, count := 1, canDestroy := ["stone"], stackId := 9 }).set ⟨0, 12⟩ .empty
  creative := []
  overrides := []
  opened := some ⟨5, ContainerType.loom, default, -1⟩
  dropRandomly := false

/-- A banner was taken from the stack and dyed. One dye is left. -/
def weavingDraft : Draft :=
  (follow weaving (-1) { overlay := .empty }
    [.move ⟨0, 9⟩ ⟨0, 12⟩ 1, .loomCombine "bo" (some ⟨0, 11⟩) ⟨0, 12⟩ ⟨0, 10⟩ {}]).2

theorem weaving_dresses_banner :
    weavingDraft.items weaving.inventory ⟨0, 10⟩ = { typeId := 4, count := 1, stackId := 8 } ∧
      ∃ after,
        operation weaving (-3) (.loomCombine "cre" (some ⟨0, 11⟩) ⟨0, 12⟩ ⟨0, 10⟩ {})
            weavingDraft = .ok ((), after) ∧
          Dresses (some ⟨0, 11⟩) ⟨0, 12⟩ ⟨0, 10⟩ {} (weavingDraft.items weaving.inventory)
            (after.items weaving.inventory) ∧
          ∀ location ∉ loomSlots ++ ⟨0, 12⟩ :: ⟨0, 10⟩ :: [⟨0, 11⟩],
            after.overlay.slotAt weaving.inventory location =
              weavingDraft.overlay.slotAt weaving.inventory location := by
  refine ⟨by decide +kernel, ?_⟩
  apply loom_combine_dresses_banner weaving (-3) weavingDraft "cre" (some ⟨0, 11⟩) ⟨0, 12⟩
    ⟨0, 10⟩ {} rfl rfl
  · intro location named
    fin_cases named <;> exact ⟨_, rfl⟩
  · exact ⟨by decide, by decide +kernel, by decide +kernel, by decide +kernel⟩

end Compile

end InventorySync
