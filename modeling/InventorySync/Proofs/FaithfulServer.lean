import InventorySync.Proofs.Rearranging
import InventorySync.Transaction.Requests

/-!
A server that does as it is asked. It accepts every request and acknowledges the slots
that were predicted for it, each under its role, with the predicted count and name.
What such an answer writes is what the acknowledgement of the predicted items leaves
of them, in just the slots that were predicted.
-/

namespace InventorySync

set_option autoImplicit false

def Prediction.item (prediction : Prediction) : Item := prediction.template.getD .empty

/-- An acknowledgement is for a slot if it names it by its role and repeats what is predicted. -/
structure Acknowledges (overrides : RoleOverrides) (opened : Option OpenedContainer)
    (roleNumber : UInt8) (ack : SlotAck) (location : Location) (item : Item) : Prop where
  role : ∃ role, Role.resolve overrides opened location = .ok role ∧ role.number = roleNumber
  slot : ack.slot = location.slot
  count : ack.count = UInt8.ofNat item.amount
  name : ack.customName = DisplayName.nameOf item.userData

/-- The answer of a server that does as it is asked. Order, grouping and the names of the
stacks are left to it. -/
structure AnswersFaithfully (overrides : RoleOverrides) (opened : Option OpenedContainer)
    (compiled : CompiledRequest) (response : StackResponse) : Prop where
  accepted : response.isAccepted
  own : response.requestId = compiled.request.id
  /-- Every slot that is predicted and has a role is acknowledged. -/
  complete : ∀ location prediction, compiled.predictions.find? location = some prediction →
    (∃ role, Role.resolve overrides opened location = .ok role) →
    ∃ group ∈ response.groups, ∃ ack ∈ group.acks,
      Acknowledges overrides opened group.roleNumber ack location prediction.item
  /-- Nothing else is acknowledged. -/
  predicted : ∀ group ∈ response.groups, ∀ ack ∈ group.acks, ∃ location prediction,
    compiled.predictions.find? location = some prediction ∧
      Acknowledges overrides opened group.roleNumber ack location prediction.item

/-- Answers to requests, by how many the server answered before. -/
abbrev Server := Nat → CompiledRequest → StackResponse

def Server.IsFaithful (server : Server) (overrides : RoleOverrides)
    (opened : Option OpenedContainer) : Prop :=
  ∀ turn compiled, AnswersFaithfully overrides opened compiled (server turn compiled)

/-- The acknowledgement of a slot as it is predicted. -/
def acknowledgement (turn : Nat) (location : Location) (item : Item) : SlotAck where
  slot := location.slot
  hotbarSlot := location.slot
  count := UInt8.ofNat item.amount
  stackId := Int32.ofNat (turn + 1)
  customName := DisplayName.nameOf item.userData
  durabilityCorrection := 0

def acknowledgeSlot (overrides : RoleOverrides) (opened : Option OpenedContainer) (turn : Nat)
    (predictions : Predictions) (location : Location) : Option RoleAcks :=
  match Role.resolve overrides opened location with
  | .error _ => none
  | .ok role =>
      (predictions.find? location).map fun prediction =>
        ⟨role.number, 0, [acknowledgement turn location prediction.item]⟩

def slotwiseServer (overrides : RoleOverrides) (opened : Option OpenedContainer) : Server :=
  fun turn compiled =>
    { status := 0
      requestId := compiled.request.id
      groups := compiled.predictions.filterMap fun entry =>
        acknowledgeSlot overrides opened turn compiled.predictions entry.1 }

theorem slotwiseServer_isFaithful (overrides : RoleOverrides) (opened : Option OpenedContainer) :
    (slotwiseServer overrides opened).IsFaithful overrides opened := by
  intro turn compiled
  refine ⟨rfl, rfl, ?_, ?_⟩
  · intro location prediction found resolvable
    obtain ⟨role, resolved⟩ := resolvable
    refine ⟨⟨role.number, 0, [acknowledgement turn location prediction.item]⟩, ?_,
      acknowledgement turn location prediction.item, List.mem_singleton.2 rfl,
      ⟨role, resolved, rfl⟩, rfl, rfl, rfl⟩
    have listed : (location, prediction) ∈ compiled.predictions := by
      apply List.mem_reverse.1
      exact Keyed.mem_of_lookup found
    refine List.mem_filterMap.2 ⟨(location, prediction), listed, ?_⟩
    unfold acknowledgeSlot
    rw [resolved, found]
    rfl
  · intro group member ack acked
    obtain ⟨⟨location, listed⟩, -, shown⟩ := List.mem_filterMap.1 member
    unfold acknowledgeSlot at shown
    split at shown
    · cases shown
    · next role resolved =>
        obtain ⟨prediction, found, rfl⟩ := Option.map_eq_some_iff.1 shown
        cases List.mem_singleton.1 acked
        exact ⟨location, prediction, found, ⟨role, resolved, rfl⟩, rfl, rfl, rfl⟩

/-- What is kept of a request to understand the answer to it. -/
def CompiledRequest.expecting (compiled : CompiledRequest) : Registration Unit :=
  ⟨compiled.windows, compiled.predictions, ()⟩

def CompiledRequest.absorb (compiled : CompiledRequest) (inventory : Inventory)
    (response : StackResponse) : Inventory :=
  compiled.expecting.apply inventory response

/-- The slots of these locations were written, each with an item that is known but for the
name of its stack. -/
structure Wrote (goal : Items) (written : List Location) (before after : Inventory) : Prop where
  items : ∀ location, (after.item? location).map Item.unstacked =
    if location ∈ written then some (goal location)
    else (before.item? location).map Item.unstacked
  knows : ∀ window, after.knows window ↔
    before.knows window ∨ ∃ location ∈ written, location.window = window

namespace Wrote

variable {goal : Items} {written others : List Location} {before between after : Inventory}

theorem refl (inventory : Inventory) : Wrote goal [] inventory inventory :=
  ⟨fun _ => by simp, fun _ => by simp⟩

/-- Of two writings of a slot the later one counts. -/
theorem overwrite {earlier later : Items} (first : Wrote earlier written before between)
    (second : Wrote later others between after)
    (now : ∀ location ∈ others, later location = goal location)
    (kept : ∀ location ∉ others, earlier location = goal location) :
    Wrote goal (written ++ others) before after := by
  constructor
  · intro location
    rw [second.items, first.items]
    by_cases late : location ∈ others
    · simp [late, now location late]
    · simp [late, kept location late]
  · intro window
    rw [second.knows, first.knows]
    constructor
    · intro known
      rcases known with (known | ⟨location, member, same⟩) | ⟨location, member, same⟩
      · exact Or.inl known
      · exact Or.inr ⟨location, List.mem_append_left _ member, same⟩
      · exact Or.inr ⟨location, List.mem_append_right _ member, same⟩
    · intro known
      rcases known with known | ⟨location, member, same⟩
      · exact Or.inl (Or.inl known)
      · rcases List.mem_append.1 member with early | late
        · exact Or.inl (Or.inr ⟨location, early, same⟩)
        · exact Or.inr ⟨location, late, same⟩

theorem trans (first : Wrote goal written before between)
    (second : Wrote goal others between after) : Wrote goal (written ++ others) before after :=
  first.overwrite second (fun _ _ => rfl) fun _ _ => rfl

theorem single {location : Location} {item : Item} (reached : item.unstacked = goal location)
    (inventory : Inventory) : Wrote goal [location] inventory (inventory.set location item) := by
  constructor
  · intro other
    rw [Inventory.item?_set]
    by_cases same : other = location
    · rw [same, if_pos rfl, if_pos (List.mem_singleton.2 rfl), Option.map_some, reached]
    · have elsewhere : other ∉ [location] := fun member => same (List.mem_singleton.1 member)
      rw [if_neg same, if_neg elsewhere]
  · intro window
    rw [Inventory.knows_set, Bool.or_eq_true, decide_eq_true_iff]
    constructor
    · intro known
      rcases known with same | known
      · exact Or.inr ⟨location, List.mem_singleton.2 rfl, same.symm⟩
      · exact Or.inl known
    · intro known
      rcases known with known | ⟨other, member, same⟩
      · exact Or.inr known
      · rw [List.mem_singleton.1 member] at same
        exact Or.inl same.symm

/-- What every step of a fold writes, the fold writes. -/
theorem foldl {β : Type} {step : Inventory → β → Inventory} {slots : β → List Location}
    {entries : List β} (each : ∀ entry ∈ entries, ∀ inventory,
      Wrote goal (slots entry) inventory (step inventory entry)) (inventory : Inventory) :
    Wrote goal (entries.flatMap slots) inventory (entries.foldl step inventory) := by
  induction entries generalizing inventory with
  | nil => exact refl inventory
  | cons entry later induction =>
      have first := each entry List.mem_cons_self inventory
      exact first.trans (induction (fun other member => each other (List.mem_cons_of_mem _ member))
        (step inventory entry))

/-- The same for items, where a slot that is not known counts as empty. -/
theorem itemOrEmpty (wrote : Wrote goal written before after) (location : Location) :
    (after.itemOrEmpty location).unstacked =
      if location ∈ written then goal location else (before.itemOrEmpty location).unstacked := by
  have known := wrote.items location
  have getD (inventory : Inventory) : (inventory.itemOrEmpty location).unstacked =
      ((inventory.item? location).map Item.unstacked).getD .empty := by
    unfold Inventory.itemOrEmpty
    cases inventory.item? location <;> rfl
  rw [getD, known]
  split
  · rfl
  · exact (getD before).symm

/-- It matters which slots were written, not how often or in which order. -/
theorem congr (wrote : Wrote goal written before after)
    (same : ∀ location, location ∈ written ↔ location ∈ others) :
    Wrote goal others before after := by
  constructor
  · intro location
    rw [wrote.items]
    simp only [same]
  · intro window
    rw [wrote.knows]
    simp only [same]

end Wrote

namespace CompiledRequest

variable {compiled : CompiledRequest} {overrides : RoleOverrides}
  {opened : Option OpenedContainer} {response : StackResponse}

/-- What a faithful answer leaves in the predicted slots. -/
def goal (compiled : CompiledRequest) : Items := fun location =>
  ((compiled.predictions.find? location).getD {}).item.acknowledged

/-- The predictions of operations that move items about: an item for each slot, small
enough to be acknowledged, and nothing that the caller declared. -/
def Plain (compiled : CompiledRequest) : Prop :=
  ∀ location prediction, compiled.predictions.find? location = some prediction →
    ∃ item, prediction = ⟨some item, none⟩ ∧ item.amount ≤ 255

/-- What a faithful answer leaves in the predicted slots, together with what the caller
declared about them. -/
def outcome (compiled : CompiledRequest) : Items := fun location =>
  let prediction := (compiled.predictions.find? location).getD {}
  (prediction.expectation.getD {}).applied prediction.item

/-- An item is predicted for each slot, small enough to be acknowledged. -/
def Small (compiled : CompiledRequest) : Prop :=
  ∀ location prediction, compiled.predictions.find? location = some prediction →
    ∃ item, prediction.template = some item ∧ item.amount ≤ 255

theorem Plain.small (plain : compiled.Plain) : compiled.Small := by
  intro location prediction found
  obtain ⟨item, rfl, fits⟩ := plain location prediction found
  exact ⟨item, rfl, fits⟩

theorem Plain.outcome (plain : compiled.Plain) : compiled.outcome = compiled.goal := by
  funext location
  unfold CompiledRequest.outcome goal
  cases found : compiled.predictions.find? location with
  | none => rfl
  | some prediction =>
      obtain ⟨item, rfl, -⟩ := plain location prediction found
      rfl

/-- The answer to each predicted slot finds the slot again. -/
def Addressed (overrides : RoleOverrides) (opened : Option OpenedContainer)
    (compiled : CompiledRequest) : Prop :=
  ∀ location prediction, compiled.predictions.find? location = some prediction →
    ∃ role, Role.resolve overrides opened location = .ok role ∧
      compiled.windows.window? role = some location.window

section Listed

variable {named : List Location} {prediction : Location → Prediction}
  (predictions : ∀ location, compiled.predictions.find? location =
    if location ∈ named then some (prediction location) else none)

include predictions in
theorem mem_iff_predicted (location : Location) :
    location ∈ named ↔ ∃ found, compiled.predictions.find? location = some found := by
  rw [predictions]
  by_cases member : location ∈ named
  · simp [member]
  · simp [member]

include predictions in
theorem addressed_of_named (windows : ∀ location ∈ named, ∃ role,
      Role.resolve overrides opened location = .ok role ∧
        compiled.windows.window? role = some location.window) :
    compiled.Addressed overrides opened := by
  intro location found predicted
  exact windows location ((mem_iff_predicted predictions location).2 ⟨found, predicted⟩)

end Listed

/-- The slots that the acknowledgements of one role are about. -/
def locationsOf (compiled : CompiledRequest) (group : RoleAcks) : List Location :=
  match (Role.ofNumber? group.roleNumber).bind compiled.windows.window? with
  | none => []
  | some window => group.acks.map fun ack => ⟨window, ack.slot⟩

theorem applyAck_wrote (small : compiled.Small) {window : WindowId} {ack : SlotAck}
    {prediction : Prediction} (inventory : Inventory)
    (found : compiled.predictions.find? ⟨window, ack.slot⟩ = some prediction)
    (count : ack.count = UInt8.ofNat prediction.item.amount)
    (name : ack.customName = DisplayName.nameOf prediction.item.userData) :
    Wrote compiled.outcome [⟨window, ack.slot⟩] inventory
      (compiled.expecting.applyAck window inventory ack) := by
  obtain ⟨item, template, fits⟩ := small _ _ found
  have same : prediction.item = item := by
    unfold Prediction.item
    rw [template, Option.getD_some]
  have predicted : (compiled.expecting.predictions.find? ⟨window, ack.slot⟩).getD {} =
      prediction := by
    change (compiled.predictions.find? _).getD {} = _
    rw [found, Option.getD_some]
  have written : compiled.expecting.applyAck window inventory ack =
      inventory.set ⟨window, ack.slot⟩ (item.reconcile ack prediction.expectation) := by
    unfold Registration.applyAck
    simp only
    rw [predicted, template, Option.getD_some]
  have reached : (item.reconcile ack prediction.expectation).unstacked =
      compiled.outcome ⟨window, ack.slot⟩ := by
    unfold outcome
    rw [found]
    simp only [Option.getD_some]
    rw [same] at count name ⊢
    exact Item.reconcile_faithful fits count name
  rw [written]
  exact Wrote.single reached inventory

theorem window_of_acknowledges {group : RoleAcks} {ack : SlotAck} {location : Location}
    {prediction : Prediction} (addressed : compiled.Addressed overrides opened)
    (found : compiled.predictions.find? location = some prediction)
    (acknowledges : Acknowledges overrides opened group.roleNumber ack location prediction.item) :
    (Role.ofNumber? group.roleNumber).bind compiled.windows.window? = some location.window := by
  obtain ⟨role, resolved, number⟩ := acknowledges.role
  obtain ⟨noted, again, window⟩ := addressed location prediction found
  rw [resolved] at again
  cases again
  rw [← number, Role.ofNumber_number, Option.bind_some, window]

theorem location_of_acknowledges {group : RoleAcks} {ack : SlotAck} {location : Location}
    {prediction : Prediction} {window : WindowId} (addressed : compiled.Addressed overrides opened)
    (known : (Role.ofNumber? group.roleNumber).bind compiled.windows.window? = some window)
    (found : compiled.predictions.find? location = some prediction)
    (acknowledges : Acknowledges overrides opened group.roleNumber ack location prediction.item) :
    (⟨window, ack.slot⟩ : Location) = location := by
  have same := window_of_acknowledges addressed found acknowledges
  rw [known] at same
  rw [acknowledges.slot, Option.some.inj same]

theorem applyGroup_wrote (small : compiled.Small) (addressed : compiled.Addressed overrides opened)
    {group : RoleAcks} (inventory : Inventory)
    (predicted : ∀ ack ∈ group.acks, ∃ location prediction,
      compiled.predictions.find? location = some prediction ∧
        Acknowledges overrides opened group.roleNumber ack location prediction.item) :
    Wrote compiled.outcome (compiled.locationsOf group) inventory
      (compiled.expecting.applyGroup inventory group) := by
  unfold Registration.applyGroup locationsOf
  change Wrote _ _ _ (match (Role.ofNumber? group.roleNumber).bind compiled.windows.window? with
    | none => inventory
    | some window => group.acks.foldl (compiled.expecting.applyAck window) inventory)
  cases known : (Role.ofNumber? group.roleNumber).bind compiled.windows.window? with
  | none => exact Wrote.refl inventory
  | some window =>
      simp only
      rw [List.map_eq_flatMap]
      apply Wrote.foldl
      intro ack member between
      obtain ⟨location, prediction, found, acknowledges⟩ := predicted ack member
      rw [← location_of_acknowledges addressed known found acknowledges] at found
      exact applyAck_wrote small between found acknowledges.count acknowledges.name

/-- A faithful answer writes just the predicted slots. -/
theorem absorb_writes (small : compiled.Small) (addressed : compiled.Addressed overrides opened)
    (faithful : AnswersFaithfully overrides opened compiled response) {predicted : List Location}
    (listed : ∀ location,
      location ∈ predicted ↔ ∃ prediction, compiled.predictions.find? location = some prediction)
    (inventory : Inventory) :
    Wrote compiled.outcome predicted inventory (compiled.absorb inventory response) := by
  have applied : compiled.absorb inventory response =
      response.groups.foldl compiled.expecting.applyGroup inventory :=
    if_pos faithful.accepted
  rw [applied]
  have wrote := Wrote.foldl (fun group member between =>
    applyGroup_wrote small addressed between (faithful.predicted group member)) inventory
  refine wrote.congr ?_
  intro location
  rw [listed, List.mem_flatMap]
  constructor
  · intro named
    obtain ⟨group, member, there⟩ := named
    unfold locationsOf at there
    split at there
    · cases there
    · next window known =>
        obtain ⟨ack, acked, rfl⟩ := List.mem_map.1 there
        obtain ⟨other, prediction, found, acknowledges⟩ := faithful.predicted group member ack acked
        rw [location_of_acknowledges addressed known found acknowledges]
        exact ⟨prediction, found⟩
  · intro found
    obtain ⟨prediction, found⟩ := found
    obtain ⟨role, resolved, -⟩ := addressed location prediction found
    obtain ⟨group, member, ack, acked, acknowledges⟩ :=
      faithful.complete location prediction found ⟨role, resolved⟩
    have window := window_of_acknowledges addressed found acknowledges
    refine ⟨group, member, ?_⟩
    unfold locationsOf
    rw [window]
    refine List.mem_map.2 ⟨ack, acked, ?_⟩
    rw [acknowledges.slot]

theorem absorb_wrote (plain : compiled.Plain) (addressed : compiled.Addressed overrides opened)
    (faithful : AnswersFaithfully overrides opened compiled response) {predicted : List Location}
    (listed : ∀ location,
      location ∈ predicted ↔ ∃ prediction, compiled.predictions.find? location = some prediction)
    (inventory : Inventory) :
    Wrote compiled.goal predicted inventory (compiled.absorb inventory response) := by
  rw [← plain.outcome]
  exact absorb_writes plain.small addressed faithful listed inventory

end CompiledRequest

end InventorySync
