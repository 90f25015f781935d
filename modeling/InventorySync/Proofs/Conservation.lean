import InventorySync.Proofs.Totals

/-!
No operation makes items out of nothing but one that fetches them from the creative list, and
none loses any but a drop and the dye of a loom, as long as no stack overflows. This holds for
whatever slots an operation names, those of the anvil and the loom included, and after whatever
operations came before it.
-/

namespace InventorySync

set_option autoImplicit false

namespace Compile

section Steps

variable {context : Context} {requestId : Int32} {slots : Finset Location} {held : Nat}
  {draft after : Draft}

theorem consume_arranges {location : Location} {count : UInt8} {item : Item}
    (consumed : consume context requestId location count draft = .ok (item, after)) :
    (draft.items context.inventory).taken location count = item ∧
      Arranges context [location] (fun items => items.take location count) draft after := by
  unfold consume at consumed
  simp only [bind_ok, emit_ok, onOverlay_ok] at consumed
  obtain ⟨_, named, referred, _, _, rfl, _, took, rfl⟩ := consumed
  have naming := refer_arranges referred
  have here : named.overlay.holds location := (naming.holds location).2 (Or.inr (by simp))
  obtain ⟨taken, handles⟩ := Overlay.take_handles here took
  rw [naming.items] at taken
  exact ⟨taken, naming.append (handle_arranges handles)⟩

theorem placeOutput_arranges {item : Item} {target : Location} {count : UInt8} {answer : Unit}
    (placed : placeOutput context requestId item target count draft = .ok (answer, after)) :
    Arranges context [target] (fun items => items.place target item) draft after := by
  unfold placeOutput at placed
  simp only [bind_ok, emit_ok, onOverlay_ok, referOutput_ok] at placed
  obtain ⟨_, _, ⟨-, rfl⟩, _, named, referred, _, _, rfl, _, put, rfl⟩ := placed
  have naming : Arranges context [target] id draft named := by
    have arranges := refer_arranges referred
    exact ⟨⟨arranges.items, arranges.holds, arranges.touched⟩, arranges.usable,
      fun spare addressed => arranges.addressed spare (addressed.notingOutput spare),
      arranges.expectation⟩
  have here : named.overlay.holds target := (naming.holds target).2 (Or.inr (by simp))
  exact naming.append (handle_arranges (Overlay.place_handles here put))

theorem move_carries (source target : Location) (count : UInt8) :
    Carries context.inventory slots held (Stays held)
      (move context requestId source target count) := by
  intro draft answer after moved
  have law (inside : ∀ location ∈ [source, target], location ∈ slots) :=
    @Items.total_move slots (draft.items context.inventory) source target
      (inside source (by simp)) (inside target (by simp)) count
  refine ⟨held, rfl, (move_arranges moved).toChanges.conserves ?_ ?_⟩
  · intro inside
    exact Nat.add_le_add_right (law inside).1 held
  · intro inside few
    rw [(law inside).2 (by omega)]

theorem swap_carries (first second : Location) :
    Carries context.inventory slots held (Stays held) (swap context requestId first second) := by
  intro draft answer after swapped
  have law (inside : ∀ location ∈ [first, second], location ∈ slots) :=
    @Items.total_swap slots (draft.items context.inventory) first second
      (inside first (by simp)) (inside second (by simp))
  refine ⟨held, rfl, (swap_arranges swapped).toChanges.conserves ?_ ?_⟩
  · intro inside
    rw [law inside]
  · intro inside _
    rw [law inside]

/-- What is used up is in hand. -/
theorem consume_carries (location : Location) (count : UInt8) :
    Carries context.inventory slots held
      (fun item rest => rest = held + item.amount ∧ item.amount ≤ count.toNat)
      (consume context requestId location count) := by
  intro draft item after consumed
  obtain ⟨taken, arranges⟩ := consume_arranges consumed
  have law (inside : ∀ other ∈ [location], other ∈ slots) :=
    @Items.total_take slots (draft.items context.inventory) location
      (inside location (by simp)) count
  rw [taken] at law
  refine ⟨held + item.amount, ⟨rfl, ?_⟩, arranges.toChanges.conserves ?_ ?_⟩
  · rw [← taken]
    exact ((Item.amount_split _ count).1).trans_le (Nat.min_le_left _ _)
  · intro inside
    have kept := law inside
    omega
  · intro inside _
    have kept := law inside
    omega

/-- What is placed was in hand before. -/
theorem placeOutput_carries {item : Item} (target : Location) (count : UInt8) :
    Carries context.inventory slots (held + item.amount) (Stays held)
      (placeOutput context requestId item target count) := by
  intro draft answer after placed
  have law (inside : ∀ other ∈ [target], other ∈ slots) :=
    @Items.total_place slots (draft.items context.inventory) target (inside target (by simp)) item
  refine ⟨held, rfl, (placeOutput_arranges placed).toChanges.conserves ?_ ?_⟩
  · intro inside
    have added := law inside
    omega
  · intro inside few
    have added := law inside
    have present := @Items.amount_le_total slots (draft.items context.inventory) target
      (inside target (by simp))
    omega

theorem itemOf_carries (location : Location) :
    Carries context.inventory slots held (Stays held) (itemOf context location) := by
  intro draft item after found
  obtain ⟨-, -, -, rfl⟩ := itemOf_ok.1 found
  exact ⟨held, rfl, .same (draft.overlay.itemAt_setSlot_slotAt context.inventory location) rfl⟩

theorem emit_carries (action : StackAction) :
    Carries context.inventory slots held (Stays held) (emit action) :=
  .modify (fun _ => rfl) fun _ => rfl

theorem declare_carries (location : Location) (expectation : Expectation) :
    Carries context.inventory slots held (Stays held) (declare location expectation) :=
  .modify (fun _ => rfl) fun _ => rfl

theorem rename_carries (name : String) :
    Carries context.inventory slots held (Stays held) (modify fun draft : Draft =>
      { draft with
        filterStrings := draft.filterStrings ++ [name]
        filterCause := FilterCause.anvilText }) :=
  .modify (fun _ => rfl) fun _ => rfl

end Steps

section Operations

variable {context : Context} {requestId : Int32} {slots : Finset Location} {draft after : Draft}

theorem anvilRename_carries (location : Location) (name : String)
    (expectation : Option Expectation) :
    Carries context.inventory slots 0 (Stays 0)
      (anvilRename context requestId location name expectation) := by
  unfold anvilRename
  refine (Carries.lift _).andThen fun _ => ?_
  refine (itemOf_carries location).andThen fun _ => ?_
  refine (move_carries location UiSlot.anvilInput _).andThen fun _ => ?_
  refine Carries.get.andThen fun _ => ?_
  refine (emit_carries _).andThen fun _ => ?_
  refine (rename_carries name).andThen fun _ => ?_
  refine (consume_carries UiSlot.anvilInput _).bind fun input rest carried => ?_
  obtain ⟨rfl, -⟩ := carried
  rw [← input.amount_withUserData (DisplayName.patch input.userData name)]
  refine (placeOutput_carries location _).bind fun _ _ same => ?_
  subst same
  cases expectation with
  | none => exact .pure ()
  | some expected => exact declare_carries location expected

/-- The dye is used up, if the loom holds one. -/
theorem loomCombine_carries (pattern : String) (patternItem : Option Location)
    (banner dye : Location) (expectation : Expectation) :
    Carries context.inventory slots 0 (fun _ rest => rest ≤ 1)
      (loomCombine context requestId pattern patternItem banner dye expectation) := by
  -- What follows once everything is in the loom, whether a pattern item lies there or not.
  have worked {next : Action Unit}
      (rest : ∀ held, Carries context.inventory slots held (Stays held) next) :
      Carries context.inventory slots 0 (fun _ rest => rest ≤ 1) (do
        emit (.craftLoom pattern)
        let input ← consume context requestId UiSlot.loomInput 1
        let _ ← consume context requestId UiSlot.loomDye 1
        placeOutput context requestId
          { input with userData := expectation.userData <|> input.userData } banner 1
        next) := by
    refine (emit_carries _).andThen fun _ => ?_
    refine (consume_carries UiSlot.loomInput 1).bind fun input _ carried => ?_
    obtain ⟨rfl, -⟩ := carried
    refine (consume_carries UiSlot.loomDye 1).bind fun dyed _ carried => ?_
    obtain ⟨rfl, few⟩ := carried
    rw [Nat.zero_add, Nat.add_comm,
      ← input.amount_withUserData (expectation.userData <|> input.userData)]
    refine (placeOutput_carries banner 1).bind fun _ _ same => ?_
    subst same
    exact (rest dyed.amount).weaken fun _ _ same => same.trans_le few
  unfold loomCombine
  refine (Carries.lift _).andThen fun _ => ?_
  refine (itemOf_carries banner).andThen fun _ => ?_
  refine (itemOf_carries dye).andThen fun _ => ?_
  refine (move_carries banner UiSlot.loomInput 1).andThen fun _ => ?_
  refine (move_carries dye UiSlot.loomDye 1).andThen fun _ => ?_
  cases patternItem with
  | none => exact worked fun _ => declare_carries banner expectation
  | some location =>
      refine (itemOf_carries location).andThen fun _ => ?_
      refine (move_carries location UiSlot.loomMaterial 1).andThen fun _ => ?_
      apply worked
      intro held
      exact (move_carries UiSlot.loomMaterial location 1).andThen fun _ =>
        declare_carries banner expectation

theorem creativeFetch_changes {source : CreativeSource} {target : Location} {count : UInt8}
    {expectation : Option Expectation} {answer : Unit}
    (fetched : creativeFetch context requestId source target count expectation draft =
      .ok (answer, after)) :
    ∃ entry itemType item,
      creativeEntry context source (expectation.getD {}).typeId = .ok (entry, itemType) ∧
        item.amount = (if itemType = 0 then 0 else count.toNat) ∧
        Changes context.inventory [target] (fun items => items.place target item) draft after := by
  unfold creativeFetch at fetched
  simp only [bind_ok, lift_ok, emit_ok] at fetched
  obtain ⟨⟨entry, itemType⟩, _, ⟨resolved, rfl⟩, _, _, rfl, _, _, declared, placed⟩ := fetched
  have changes := (placeOutput_arranges placed).toChanges
  unfold declare at declared
  rw [← modify_ok.1 declared] at changes
  refine ⟨entry, itemType, _, resolved, ?_, changes.items, changes.holds, changes.touched⟩
  by_cases air : itemType = 0
  · rw [if_pos air, Item.amount_of_empty (by simp [Item.isEmpty, air])]
  · have filled := @Item.amount_recount
      { typeId := itemType
        userData := (expectation.getD {}).userData.bind DisplayName.unlessEmpty }
      air count.toUInt16
    rw [if_neg air]
    exact filled.trans (UInt8.toNat_toUInt16 count)

end Operations

/-- What an operation may do to the items of some slots together. -/
structure Balanced (context : Context) (slots : Finset Location) (step : Operation)
    (before after : Items) : Prop where
  /-- Items come from the creative list only. -/
  neverRaised : step.kind ≠ .creativeFetch → after.total slots ≤ before.total slots
  kept : step.kind ∈ [.move, .swap, .anvilRename] → before.total slots ≤ 65535 →
    after.total slots = before.total slots
  dropped : ∀ source count, step = .drop source count →
    after.total slots + min count.toNat (before source).amount = before.total slots
  /-- A dye is used up, if there is one. -/
  dyed : step.kind = .loomCombine → before.total slots ≤ 65535 →
    after.total slots = before.total slots ∨ after.total slots + 1 = before.total slots
  /-- The stack at the target grows by what is fetched, air apart, until it is full. -/
  fetched : ∀ source target count expectation,
    step = .creativeFetch source target count expectation →
      ∃ entry itemType,
        creativeEntry context source (expectation.getD {}).typeId = .ok (entry, itemType) ∧
        after.total slots = before.total slots +
          min (if itemType = 0 then 0 else count.toNat) (65535 - (before target).amount) ∧
        (before.total slots + count.toNat ≤ 65535 →
          after.total slots =
            before.total slots + if itemType = 0 then 0 else count.toNat)

section Balance

variable {context : Context} {requestId : Int32} {slots : Finset Location} {draft after : Draft}

/-- What carries all items along keeps their number. -/
theorem Conserves.balanced {step : Operation}
    (conserves : Conserves context.inventory slots 0 0 draft after)
    (inside : ∀ location ∈ after.touched, location ∈ slots)
    (plain : step.kind ∈ [.move, .swap, .anvilRename]) :
    Balanced context slots step (draft.items context.inventory)
      (after.items context.inventory) := by
  constructor
  case neverRaised => exact fun _ => conserves.bounded inside
  case kept => exact fun _ few => conserves.exact inside few
  case dropped =>
    rintro source count rfl
    simp [Operation.kind] at plain
  case dyed =>
    intro loom
    rw [loom] at plain
    simp at plain
  case fetched =>
    rintro source target count expectation rfl
    simp [Operation.kind] at plain

theorem drop_balanced {source : Location} {count : UInt8} {answer : Unit}
    (dropped : drop context requestId source count draft = .ok (answer, after))
    (inside : ∀ location ∈ after.touched, location ∈ slots) :
    Balanced context slots (.drop source count) (draft.items context.inventory)
      (after.items context.inventory) := by
  have changes := (drop_arranges dropped).toChanges
  have member : source ∈ slots := inside source ((changes.touched source).2 (Or.inr (by simp)))
  have taken := @Items.total_take slots (draft.items context.inventory) source member count
  have split := (draft.items context.inventory source).amount_split count
  have items : after.items context.inventory = (draft.items context.inventory).take source count :=
    changes.items
  unfold Items.taken at taken
  rw [items]
  constructor
  case neverRaised =>
    intro _
    omega
  case dropped =>
    rintro _ _ ⟨⟩
    omega
  case kept => simp [Operation.kind]
  case dyed => simp [Operation.kind]
  case fetched => simp

theorem loomCombine_balanced {pattern : String} {patternItem : Option Location}
    {banner dye : Location} {expectation : Expectation} {answer : Unit}
    (combined : loomCombine context requestId pattern patternItem banner dye expectation draft =
      .ok (answer, after))
    (inside : ∀ location ∈ after.touched, location ∈ slots) :
    Balanced context slots (.loomCombine pattern patternItem banner dye expectation)
      (draft.items context.inventory) (after.items context.inventory) := by
  obtain ⟨lost, few, conserves⟩ :=
    @loomCombine_carries context requestId slots pattern patternItem banner dye expectation
      draft answer after combined
  have bounded := conserves.bounded inside
  constructor
  case neverRaised =>
    intro _
    omega
  case dyed =>
    intro _ room
    have exact := conserves.exact inside room
    omega
  case dropped => simp
  case kept => simp [Operation.kind]
  case fetched => simp

theorem creativeFetch_balanced {source : CreativeSource} {target : Location} {count : UInt8}
    {expectation : Option Expectation} {answer : Unit}
    (fetched : creativeFetch context requestId source target count expectation draft =
      .ok (answer, after))
    (inside : ∀ location ∈ after.touched, location ∈ slots) :
    Balanced context slots (.creativeFetch source target count expectation)
      (draft.items context.inventory) (after.items context.inventory) := by
  obtain ⟨entry, itemType, item, resolved, amount, changes⟩ := creativeFetch_changes fetched
  have member : target ∈ slots := inside target ((changes.touched target).2 (Or.inr (by simp)))
  have placed := @Items.total_place slots (draft.items context.inventory) target member item
  have present := @Items.amount_le_total slots (draft.items context.inventory) target member
  have items : after.items context.inventory = (draft.items context.inventory).place target item :=
    changes.items
  rw [items]
  rw [amount] at placed
  constructor
  case neverRaised => simp [Operation.kind]
  case kept => simp [Operation.kind]
  case dropped => simp
  case dyed => simp [Operation.kind]
  case fetched =>
    rintro _ _ _ _ ⟨⟩
    refine ⟨entry, itemType, resolved, placed, ?_⟩
    intro room
    rw [placed]
    split
    · simp
    · omega

/-- A step adds to the slots that are named, and is balanced over any slots that include them. -/
theorem operation_balanced {step : Operation} {answer : Unit}
    (performed : operation context requestId step draft = .ok (answer, after)) :
    (∀ location ∈ draft.touched, location ∈ after.touched) ∧
      ((∀ location ∈ after.touched, location ∈ slots) →
        Balanced context slots step (draft.items context.inventory)
          (after.items context.inventory)) := by
  cases step with
  | move source target count =>
      obtain ⟨_, rfl, conserves⟩ :=
        @move_carries context requestId slots 0 source target count draft answer after performed
      exact ⟨conserves.grows, fun inside => conserves.balanced inside (by simp [Operation.kind])⟩
  | swap first second =>
      obtain ⟨_, rfl, conserves⟩ :=
        @swap_carries context requestId slots 0 first second draft answer after performed
      exact ⟨conserves.grows, fun inside => conserves.balanced inside (by simp [Operation.kind])⟩
  | anvilRename location name expectation =>
      obtain ⟨_, rfl, conserves⟩ :=
        @anvilRename_carries context requestId slots location name expectation draft answer after
          performed
      exact ⟨conserves.grows, fun inside => conserves.balanced inside (by simp [Operation.kind])⟩
  | drop source count =>
      have changes := (drop_arranges performed).toChanges
      exact ⟨fun location touched => (changes.touched location).2 (Or.inl touched),
        drop_balanced performed⟩
  | creativeFetch source target count expectation =>
      obtain ⟨_, _, _, _, _, changes⟩ := creativeFetch_changes performed
      exact ⟨fun location touched => (changes.touched location).2 (Or.inl touched),
        creativeFetch_balanced performed⟩
  | loomCombine pattern patternItem banner dye expectation =>
      obtain ⟨_, _, conserves⟩ :=
        @loomCombine_carries context requestId slots pattern patternItem banner dye expectation
          draft answer after performed
      exact ⟨conserves.grows, loomCombine_balanced performed⟩

end Balance

section Runs

/-- Each of the states comes from the one before it by the operation at its place. -/
inductive Along (related : Operation → Items → Items → Prop) :
    Items → List Operation → List Items → Prop where
  | nil (start : Items) : Along related start [] []
  | cons {start next : Items} {step : Operation} {later : List Operation} {others : List Items}
      (first : related step start next) (rest : Along related next later others) :
      Along related start (step :: later) (next :: others)

/-- The items after each operation of a group, up to one that fails, and the draft in the end. -/
def follow (context : Context) (requestId : Int32) :
    Draft → List Operation → List Items × Draft
  | draft, [] => ([], draft)
  | draft, step :: later =>
      match operation context requestId step draft with
      | .error _ => ([], draft)
      | .ok (_, after) =>
          let (others, final) := follow context requestId after later
          (after.items context.inventory :: others, final)

/-- The items after each operation of the groups. -/
def followGroups (context : Context) : Int32 → Overlay → List (List Operation) → List Items
  | _, _, [] => []
  | requestId, overlay, members :: later =>
      let (states, final) := follow context requestId { overlay } members
      states ++ followGroups context (idAfter requestId) final.overlay later

variable {related : Operation → Items → Items → Prop} {context : Context} {requestId : Int32}
  {slots : Finset Location} {draft final : Draft} {overlay : Overlay}

theorem Along.append {start : Items} {first second : List Operation} {states others : List Items}
    (one : Along related start first states)
    (two : Along related (states.getLast?.getD start) second others) :
    Along related start (first ++ second) (states ++ others) := by
  induction one with
  | nil start => exact two
  | cons step rest induction =>
      rw [List.getLast?_cons, Option.getD_some] at two
      exact .cons step (induction two)

/-- What following a group comes to. -/
structure Followed (context : Context) (slots : Finset Location) (operations : List Operation)
    (draft final : Draft) (states : List Items) : Prop where
  grows : ∀ location ∈ draft.touched, location ∈ final.touched
  along : (∀ location ∈ final.touched, location ∈ slots) →
    Along (Balanced context slots) (draft.items context.inventory) operations states
  ends : states.getLast?.getD (draft.items context.inventory) = final.items context.inventory

theorem follow_balanced {operations : List Operation}
    (performed : operations.forM (operation context requestId) draft = .ok ((), final)) :
    (follow context requestId draft operations).2 = final ∧
      Followed context slots operations draft final
        (follow context requestId draft operations).1 := by
  induction operations generalizing draft with
  | nil =>
      rw [← forM_nil_ok.1 performed]
      exact ⟨rfl, fun _ touched => touched, fun _ => .nil _, rfl⟩
  | cons step later induction =>
      obtain ⟨between, head, tail⟩ := forM_cons_ok.1 performed
      obtain ⟨grows, balanced⟩ := @operation_balanced context requestId slots draft between step ()
        head
      obtain ⟨ended, rest⟩ := induction tail
      unfold follow
      rw [head]
      refine ⟨ended, fun location touched => rest.grows location (grows location touched), ?_, ?_⟩
      · intro inside
        exact .cons (balanced fun location touched => inside location (rest.grows location touched))
          (rest.along inside)
      · rw [List.getLast?_cons, Option.getD_some]
        exact rest.ends

theorem followGroups_balanced {operations : List (List Operation)}
    {compiled : List CompiledRequest} {free : Int32}
    (succeeds : groups context requestId overlay operations = (.ok compiled, free))
    (inside : ∀ entry ∈ compiled, ∀ prediction ∈ entry.predictions, prediction.1 ∈ slots) :
    Along (Balanced context slots) (overlay.itemAt context.inventory) operations.flatten
      (followGroups context requestId overlay operations) := by
  induction operations generalizing requestId overlay compiled with
  | nil => exact .nil _
  | cons members later induction =>
      obtain ⟨first, between, others, head, tail, rfl⟩ := groups_cons_ok.1 succeeds
      obtain ⟨draft, performed, rfl, rfl⟩ := group_ok.1 head
      obtain ⟨ended, followed⟩ := @follow_balanced context requestId slots { overlay } draft members
        performed
      have touched (location : Location) (named : location ∈ draft.touched) : location ∈ slots :=
        inside _ List.mem_cons_self _ (List.mem_map_of_mem named)
      have rest := induction tail fun entry member => inside entry (List.mem_cons_of_mem _ member)
      unfold followGroups
      simp only
      rw [List.flatten_cons, ended]
      apply (followed.along touched).append
      rw [followed.ends]
      exact rest

end Runs

end Compile

/-- The slots of which some request says what they will hold. -/
def predictedSlots (compiled : List CompiledRequest) : Finset Location :=
  (compiled.flatMap fun entry => entry.predictions.map Prod.fst).toFinset

namespace Engine

variable {τ : Type}

/-- The predicted items after each operation of a queue. -/
def predictedAlong (engine : Engine τ) (queue : List Operation) : List Items :=
  Compile.followGroups engine.context engine.requests.nextId .empty
    (engine.settings.policy.group queue)

/-- From the mirror on, each operation of a queue that can be compiled keeps the number of items
in the slots of the packet, or changes it as it is meant to. -/
theorem operations_conserve_items (engine after : Engine τ) (queue : List Operation)
    (compiled : List CompiledRequest) (succeeds : engine.compile queue = (.ok compiled, after)) :
    Compile.Along (Compile.Balanced engine.context (predictedSlots compiled))
      engine.inventory.itemOrEmpty queue (engine.predictedAlong queue) := by
  obtain ⟨free, grouped, -⟩ := compile_ok.1 succeeds
  have inside : ∀ entry ∈ compiled, ∀ prediction ∈ entry.predictions,
      prediction.1 ∈ predictedSlots compiled := by
    intro entry member prediction listed
    unfold predictedSlots
    rw [List.mem_toFinset]
    exact List.mem_flatMap.2 ⟨entry, member, List.mem_map_of_mem listed⟩
  have followed := Compile.followGroups_balanced grouped inside
  rw [engine.settings.policy.flatten_group queue] at followed
  exact followed

/-- An open anvil with something left in it, and a stack that is too large for one action. -/
def forging : Engine Unit where
  inventory := (Inventory.empty.set ⟨0, 9⟩ { typeId := 3, count := 300, stackId := 7 }).set
    UiSlot.anvilInput { typeId := 9, count := 4, stackId := 8 }
  creative := [⟨2, 5⟩]
  containers := { state := .opened ⟨5, ContainerType.anvil, default, -1⟩ }

def forgingQueue : List Operation :=
  [.anvilRename ⟨0, 9⟩ "Ingot" none, .move ⟨0, 9⟩ ⟨0, 9⟩ 10, .swap ⟨0, 9⟩ UiSlot.anvilInput,
    .drop UiSlot.anvilInput 5, .creativeFetch (.networkId 2) ⟨0, 9⟩ 64 none]

theorem forging_conserves_items :
    (forging.predictedAlong forgingQueue).map
        (Items.total (predictedSlots (forging.requestsFor forgingQueue))) =
      [304, 304, 304, 299, 363] ∧
      Compile.Along
        (Compile.Balanced forging.context (predictedSlots (forging.requestsFor forgingQueue)))
        forging.inventory.itemOrEmpty forgingQueue (forging.predictedAlong forgingQueue) := by
  have compiles : forging.compile forgingQueue =
      (.ok (forging.requestsFor forgingQueue), (forging.compile forgingQueue).2) :=
    compile_requestsFor (by decide +kernel)
  exact ⟨by decide +kernel, operations_conserve_items forging _ forgingQueue _ compiles⟩

end Engine

end InventorySync
