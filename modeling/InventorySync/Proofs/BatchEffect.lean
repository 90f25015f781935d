import InventorySync.Proofs.Settlement
import InventorySync.Proofs.SlotAddresses

/-!
What a batch of answers does to the mirror. A slot is written only by an accepted answer that
finds its request waiting and acknowledges the slot under one of the roles of the request. The
last such answer decides what the slot holds: on a predicted item only its last word about the
slot counts, however often and under whatever roles it names it; without a prediction its
acknowledgements are worked in one after another.
-/

namespace InventorySync

set_option autoImplicit false

/-- Every window and every slot of the other inventory is still present. -/
structure Inventory.Extends (after before : Inventory) : Prop where
  windows : ∀ window, before.knows window → after.knows window
  slots : ∀ location, (before.item? location).isSome → (after.item? location).isSome

namespace Inventory.Extends

variable {before between after : Inventory}

theorem refl (inventory : Inventory) : inventory.Extends inventory :=
  ⟨fun _ known => known, fun _ present => present⟩

theorem trans (second : after.Extends between) (first : between.Extends before) :
    after.Extends before :=
  ⟨fun window known => second.windows window (first.windows window known),
    fun location present => second.slots location (first.slots location present)⟩

theorem set (inventory : Inventory) (location : Location) (item : Item) :
    (inventory.set location item).Extends inventory := by
  constructor
  · intro window known
    rw [knows_set, known, Bool.or_true]
  · intro other present
    rw [item?_set]
    split
    · rfl
    · exact present

theorem of_writes {locations : List Location} (writes : Writes locations before after) :
    after.Extends before := by
  induction writes with
  | nil inventory => exact refl inventory
  | cons item _ induction => exact induction.trans (set _ _ item)

end Inventory.Extends

theorem Registration.apply_extends {κ : Type} (registration : Registration κ)
    (inventory : Inventory) (response : StackResponse) :
    (registration.apply inventory response).Extends inventory := by
  by_cases accepted : response.isAccepted
  · exact .of_writes (Writes.apply registration inventory accepted)
  · unfold Registration.apply
    rw [if_neg accepted]
    exact .refl inventory

/-- What an answer says of one slot, under whatever roles, in its order. -/
def StackResponse.acksFor (response : StackResponse) (windows : RoleWindows)
    (location : Location) : List SlotAck :=
  response.groups.flatMap fun group =>
    group.acks.filter fun ack => windows.acknowledged? group.roleNumber ack.slot = some location

namespace Registration

variable {κ : Type} {registration : Registration κ} {location : Location}

/-- The item that acknowledgements leave in a slot. A predicted item is built on by the last of
them alone, the present one by all of them. -/
def itemAfter (registration : Registration κ) (location : Location) (present : Item)
    (acks : List SlotAck) : Item :=
  let prediction := (registration.predictions.find? location).getD {}
  match prediction.template, acks.getLast? with
  | some template, some last => template.reconcile last prediction.expectation
  | _, _ => acks.foldl (fun base ack => base.reconcile ack prediction.expectation) present

/-- The slot holds what these acknowledgements leave in it, and is as before if there are none. -/
def Leaves (registration : Registration κ) (location : Location) (acks : List SlotAck)
    (before after : Inventory) : Prop :=
  after.item? location =
    if acks = [] then before.item? location
    else some (registration.itemAfter location (before.itemOrEmpty location) acks)

theorem itemAfter_cons (ack : SlotAck) {later : List SlotAck} (more : later ≠ [])
    (present : Item) :
    registration.itemAfter location (registration.itemAfter location present [ack]) later =
      registration.itemAfter location present (ack :: later) := by
  have last : (ack :: later).getLast? = later.getLast? := List.getLast?_cons_of_ne_nil more
  unfold itemAfter
  rw [last, List.getLast?_eq_some_getLast more]
  obtain ⟨template, expectation⟩ := (registration.predictions.find? location).getD {}
  cases template with
  | none => rfl
  | some template => rfl

theorem itemAfter_append {first second : List SlotAck} (some : first ≠ []) (more : second ≠ [])
    (present : Item) :
    registration.itemAfter location (registration.itemAfter location present first) second =
      registration.itemAfter location present (first ++ second) := by
  induction first generalizing present with
  | nil => exact absurd rfl some
  | cons ack later induction =>
      by_cases alone : later = []
      · rw [alone]
        exact itemAfter_cons ack more present
      · have rest : later ++ second ≠ [] := by simp [more]
        rw [← itemAfter_cons ack alone, induction alone, List.cons_append,
          ← itemAfter_cons ack rest]

theorem Leaves.nil (inventory : Inventory) :
    registration.Leaves location [] inventory inventory := rfl

theorem Leaves.append {first second : List SlotAck} {before between after : Inventory}
    (one : registration.Leaves location first before between)
    (two : registration.Leaves location second between after) :
    registration.Leaves location (first ++ second) before after := by
  unfold Leaves at one two ⊢
  by_cases silent : first = []
  · subst silent
    have same : between.itemOrEmpty location = before.itemOrEmpty location := by
      unfold Inventory.itemOrEmpty
      rw [one, if_pos rfl]
    rw [List.nil_append, two, one, if_pos rfl, same]
  · have held : between.itemOrEmpty location =
        registration.itemAfter location (before.itemOrEmpty location) first := by
      unfold Inventory.itemOrEmpty at one ⊢
      rw [one, if_neg silent, Option.getD_some]
    rw [if_neg silent] at one
    by_cases ended : second = []
    · subst ended
      rw [List.append_nil, if_neg silent, two, if_pos rfl, one]
    · rw [two, if_neg ended, held, if_neg (by simp [silent]), itemAfter_append silent ended]

section Answers

variable (registration location)

theorem applyAck_leaves (window : WindowId) (inventory : Inventory) (ack : SlotAck) :
    registration.Leaves location
      ([ack].filter fun ack => (⟨window, ack.slot⟩ : Location) = location)
      inventory (registration.applyAck window inventory ack) := by
  unfold Leaves applyAck
  simp only
  rw [Inventory.item?_set]
  by_cases here : (⟨window, ack.slot⟩ : Location) = location
  · subst here
    unfold itemAfter
    simp only [if_true]
    cases ((registration.predictions.find? ⟨window, ack.slot⟩).getD {}).template with
    | none => simp
    | some template => simp
  · have elsewhere : ¬location = ⟨window, ack.slot⟩ := fun same => here same.symm
    simp [here, elsewhere]

theorem foldl_applyAck_leaves (window : WindowId) (acks : List SlotAck) (inventory : Inventory) :
    registration.Leaves location
      (acks.filter fun ack => (⟨window, ack.slot⟩ : Location) = location)
      inventory (acks.foldl (registration.applyAck window) inventory) := by
  induction acks generalizing inventory with
  | nil => exact .nil inventory
  | cons ack later induction =>
      have first := registration.applyAck_leaves location window inventory ack
      have both := first.append (induction (registration.applyAck window inventory ack))
      rw [← List.filter_append] at both
      exact both

theorem applyGroup_leaves (inventory : Inventory) (group : RoleAcks) :
    registration.Leaves location
      (group.acks.filter fun ack =>
        registration.windows.acknowledged? group.roleNumber ack.slot = some location)
      inventory (registration.applyGroup inventory group) := by
  unfold applyGroup RoleWindows.acknowledged?
  cases (Role.ofNumber? group.roleNumber).bind registration.windows.window? with
  | none => simp [Leaves]
  | some window =>
      simp only [Option.map_some, Option.some.injEq]
      exact registration.foldl_applyAck_leaves location window group.acks inventory

/-- What an accepted answer does to a slot. -/
theorem apply_leaves {response : StackResponse} (accepted : response.isAccepted)
    (inventory : Inventory) :
    registration.Leaves location (response.acksFor registration.windows location) inventory
      (registration.apply inventory response) := by
  unfold apply StackResponse.acksFor
  rw [if_pos accepted]
  generalize response.groups = groups
  induction groups generalizing inventory with
  | nil => exact .nil inventory
  | cons group later induction =>
      rw [List.flatMap_cons, List.foldl_cons]
      exact (registration.applyGroup_leaves location inventory group).append
        (induction (registration.applyGroup inventory group))

end Answers

end Registration

namespace RequestTable

variable {κ : Type} {table : RequestTable κ} {inventory : Inventory}

/-- The answer finds its request waiting after those before it, and is an accepted one that says
something of the slot. -/
def Acknowledges (table : RequestTable κ) (inventory : Inventory) (earlier : List StackResponse)
    (response : StackResponse) (location : Location) : Prop :=
  ∃ registration,
    (settle earlier table inventory).table.find? response.requestId = some registration ∧
      response.isAccepted ∧ response.acksFor registration.windows location ≠ []

/-- What a batch does to one slot of the mirror. -/
inductive SlotOutcome (table : RequestTable κ) (before : Inventory) (batch : List StackResponse)
    (after : Inventory) (location : Location) : Prop where
  | kept
      (unacknowledged : ∀ earlier response later, batch = earlier ++ response :: later →
        ¬table.Acknowledges before earlier response location)
      (same : after.item? location = before.item? location)
  /-- The last answer that acknowledges the slot decides what it holds. -/
  | written {earlier later : List StackResponse} {response : StackResponse}
      {registration : Registration κ} (split : batch = earlier ++ response :: later)
      (waiting :
        (settle earlier table before).table.find? response.requestId = some registration)
      (accepted : response.isAccepted)
      (acknowledged : response.acksFor registration.windows location ≠ [])
      (last : ∀ between other rest, later = between ++ other :: rest →
        ¬table.Acknowledges before (earlier ++ response :: between) other location)
      (item : after.item? location =
        some (registration.itemAfter location
          ((settle earlier table before).inventory.itemOrEmpty location)
          (response.acksFor registration.windows location)))

/-- To go through a batch is to go through its first part and then through the rest. -/
theorem settle_append (first second : List StackResponse) (table : RequestTable κ)
    (inventory : Inventory) :
    settle (first ++ second) table inventory =
      { settle second (settle first table inventory).table
          (settle first table inventory).inventory with
        completed := (settle first table inventory).completed ++
          (settle second (settle first table inventory).table
            (settle first table inventory).inventory).completed
        unknown := (settle first table inventory).unknown ++
          (settle second (settle first table inventory).table
            (settle first table inventory).inventory).unknown } := by
  induction first generalizing table inventory with
  | nil => rfl
  | cons response later induction =>
      rw [List.cons_append, settle, settle]
      cases table.find? response.requestId with
      | none => simp only [induction, List.cons_append]
      | some registration => simp only [induction, List.cons_append]

/-- One answer at its turn. -/
theorem settle_last (before : List StackResponse) (response : StackResponse) :
    (settle (before ++ [response]) table inventory).inventory =
      match (settle before table inventory).table.find? response.requestId with
      | none => (settle before table inventory).inventory
      | some registration =>
          registration.apply (settle before table inventory).inventory response := by
  rw [settle_append, settle]
  cases (settle before table inventory).table.find? response.requestId with
  | none => rfl
  | some registration => rfl

theorem settle_last_kept {before : List StackResponse} {response : StackResponse}
    {location : Location} (silent : ¬table.Acknowledges inventory before response location) :
    (settle (before ++ [response]) table inventory).inventory.item? location =
      (settle before table inventory).inventory.item? location := by
  rw [settle_last]
  cases waiting : (settle before table inventory).table.find? response.requestId with
  | none => rfl
  | some registration =>
      by_cases accepted : response.isAccepted
      · have none : response.acksFor registration.windows location = [] := by
          by_contra some
          exact silent ⟨registration, waiting, accepted, some⟩
        have left := registration.apply_leaves location accepted
          (settle before table inventory).inventory
        rw [none] at left
        exact left
      · simp only
        unfold Registration.apply
        rw [if_neg accepted]

/-- An element of a list is the last one, or stands before it. -/
theorem last_split {before earlier later : List StackResponse} {final response : StackResponse}
    (split : before ++ [final] = earlier ++ response :: later) :
    earlier = before ∧ response = final ∨ ∃ others, before = earlier ++ response :: others := by
  rcases List.eq_nil_or_concat later with rfl | ⟨others, other, rfl⟩
  · obtain ⟨same, ends⟩ := List.append_inj' split rfl
    exact Or.inl ⟨same.symm, (List.singleton_inj.1 ends).symm⟩
  · rw [List.concat_eq_append, ← List.cons_append, ← List.append_assoc] at split
    exact Or.inr ⟨others, (List.append_inj' split rfl).1⟩

theorem slotOutcome (batch : List StackResponse) (table : RequestTable κ) (inventory : Inventory)
    (location : Location) :
    table.SlotOutcome inventory batch (settle batch table inventory).inventory location := by
  induction batch using List.reverseRecOn with
  | nil =>
      apply SlotOutcome.kept
      · intro earlier response later split
        simp at split
      · rfl
  | append_singleton before response induction =>
      by_cases here : table.Acknowledges inventory before response location
      · obtain ⟨registration, waiting, accepted, acknowledged⟩ := here
        apply SlotOutcome.written rfl waiting accepted acknowledged
        · intro between other rest split
          simp at split
        · have left := registration.apply_leaves location accepted
            (settle before table inventory).inventory
          unfold Registration.Leaves at left
          rw [settle_last, waiting]
          exact left.trans (if_neg acknowledged)
      · have same := settle_last_kept here
        cases induction with
        | kept unacknowledged kept =>
            apply SlotOutcome.kept
            · intro earlier answer later split
              rcases last_split split with ⟨rfl, rfl⟩ | ⟨others, rest⟩
              · exact here
              · exact unacknowledged earlier answer others rest
            · exact same.trans kept
        | @written earlier later answer _ split waiting accepted acknowledged last item =>
            subst split
            apply SlotOutcome.written (List.append_assoc ..) waiting accepted acknowledged
            · intro between other rest split
              rcases last_split split with ⟨rfl, rfl⟩ | ⟨others, rest⟩
              · exact here
              · exact last between other others rest
            · exact same.trans item

theorem extends_settle (batch : List StackResponse) (table : RequestTable κ)
    (inventory : Inventory) : (settle batch table inventory).inventory.Extends inventory := by
  induction batch generalizing table inventory with
  | nil => exact .refl inventory
  | cons response later induction =>
      rw [settle]
      cases table.find? response.requestId with
      | none => exact induction table inventory
      | some registration =>
          exact (induction _ _).trans (registration.apply_extends inventory response)

end RequestTable

namespace Engine

variable {τ : Type}

/-- What a batch of answers does to an engine, apart from the requests that it settles. -/
structure AbsorbsBatch (engine : Engine τ) (batch : List StackResponse) (after : Engine τ)
    (events : List (Event τ)) : Prop where
  slots : ∀ location,
    engine.requests.SlotOutcome engine.inventory batch after.inventory location
  stays : after.inventory.Extends engine.inventory
  /-- All observers stay registered, and none of them runs. -/
  observers : after.observers = engine.observers
  unobserved : ∀ callback change, .slotChanged callback change ∉ events
  creative : after.creative = engine.creative

/-- A slot is written only by answers that acknowledge it, and holds in the end what the last of
them says. -/
theorem batches_write_acknowledged_slots (engine : Engine τ) (batch : List StackResponse) :
    engine.AbsorbsBatch batch (engine.responsesReceived batch).2.1
      (engine.responsesReceived batch).2.2 := by
  constructor
  case slots => exact RequestTable.slotOutcome batch engine.requests engine.inventory
  case stays => exact RequestTable.extends_settle batch engine.requests engine.inventory
  case observers => rfl
  case creative => rfl
  case unobserved =>
    intro callback change told
    obtain ⟨⟨completion, response⟩, -, same⟩ := List.mem_map.1 told
    cases completion with
    | callback _ => cases same
    | promise _ => cases same

/-- The slot is named under two roles. The repair cost is raised once, from the predicted item. -/
example :
    let prediction : Prediction :=
      ⟨some { typeId := 5, count := 3 }, some { repairCostDelta := some 2 }⟩
    let engine : Engine Unit :=
      { requests := { pending :=
          [(-1, ⟨RoleWindows.empty.note .hotbar 0, [(⟨0, 2⟩, prediction)], .callback ()⟩)] } }
    (engine.responsesReceived
        [⟨0, -1, [⟨Role.hotbar.number, 0, [⟨2, 2, 4, 8, "", 0⟩]⟩,
          ⟨Role.combinedHotbarAndInventory.number, 0, [⟨2, 2, 3, 9, "", 0⟩]⟩]⟩]).2.1.inventory.item?
      ⟨0, 2⟩ = some
        { typeId := 5, count := 3, stackId := 9, userData := some [("RepairCost", .int 2)] } := by
  decide +kernel

end Engine

end InventorySync
