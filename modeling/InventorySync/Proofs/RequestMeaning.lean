import InventorySync.Proofs.Batching
import InventorySync.Proofs.Totals

/-!
What a request says, read by itself. An action names its slots by roles, and the windows that
are kept with the request tell which locations are meant; carried out on items, the actions of
requests that only move items about lead to just what was predicted for each of them. So the
list of actions, the windows and the predictions, which are put together separately, cannot
drift apart.
-/

namespace InventorySync

set_option autoImplicit false

section Meaning

namespace Item

/-- The stack after so many of its items are gone. -/
def without (item : Item) (number : Nat) : Item :=
  if number = 0 then item
  else if number = item.amount then .empty
  else { item with count := UInt16.ofNat (item.count.toNat - number) }

/-- The stack after so many items of a kind are put onto it. An empty slot takes over the kind,
any other stack only the number. -/
def withMore (item : Item) (number : Nat) (kind : Item) : Item :=
  if number = 0 then item
  else if item.isEmpty then { kind with count := UInt16.ofNat number }
  else { item with count := UInt16.ofNat (min (item.count.toNat + number) 65535) }

end Item

/-- The location that a reference means. -/
def SlotRef.location? (windows : RoleWindows) (reference : SlotRef) : Option Location :=
  (windows.window? reference.role).map fun window => ⟨window, reference.slot⟩

namespace StackAction

/-- Carries an action out, as far as it is one that moves items about. -/
def perform (windows : RoleWindows) (items : Items) : StackAction → Option Items
  | .place count source target => do
      let origin ← source.location? windows
      let goal ← target.location? windows
      let number := min count.toNat (items origin).amount
      let reduced := items.put origin ((items origin).without number)
      return reduced.put goal ((reduced goal).withMore number (items origin))
  | .swap source target => do
      let first ← source.location? windows
      let second ← target.location? windows
      return (items.put first (items second)).put second (items first)
  | .drop count source _ => do
      let origin ← source.location? windows
      let number := min count.toNat (items origin).amount
      return items.put origin ((items origin).without number)
  | _ => none

/-- The locations that an action names. -/
def locations (windows : RoleWindows) (action : StackAction) : List Location :=
  action.references.filterMap (SlotRef.location? windows)

end StackAction

namespace CompiledRequest

/-- Carries the actions of a request out, one after another. -/
def perform (compiled : CompiledRequest) (items : Items) : Option Items :=
  compiled.request.actions.foldlM (StackAction.perform compiled.windows) items

def locations (compiled : CompiledRequest) : List Location :=
  compiled.request.actions.flatMap (StackAction.locations compiled.windows)

/-- Carries requests out, one after another. -/
def performAll (requests : List CompiledRequest) (items : Items) : Option Items :=
  requests.foldlM (fun items compiled => compiled.perform items) items

end CompiledRequest

end Meaning

namespace Item

variable {item : Item} {wanted : UInt8}

theorem isEmpty_iff_amount : item.isEmpty ↔ item.amount = 0 := by
  refine ⟨amount_of_empty, fun none => ?_⟩
  by_contra filled
  rw [amount_of_filled filled] at none
  have zero : item.count = 0 := UInt16.toNat_inj.1 none
  exact filled (by simp [isEmpty, zero])

/-- The parts of a stack that is not empty, by the number of items that are split off. -/
theorem split_of_filled (filled : ¬item.isEmpty) : item.split wanted =
    ({ item with count := UInt16.ofNat (min wanted.toNat item.amount) },
      if min wanted.toNat item.amount = item.amount then .empty
      else { item with
        count := UInt16.ofNat (item.count.toNat - min wanted.toNat item.amount) }) := by
  have number : (min wanted.toUInt16 item.count).toNat = min wanted.toNat item.count.toNat := by
    rw [toNat_min, UInt8.toNat_toUInt16]
  have within : min wanted.toUInt16 item.count ≤ item.count := by
    rw [UInt16.le_iff_toNat_le, number]
    exact Nat.min_le_right _ _
  have left : (item.count - min wanted.toUInt16 item.count).toNat =
      item.count.toNat - min wanted.toNat item.count.toNat := by
    rw [UInt16.toNat_sub_of_le _ _ within, number]
  have taken : min wanted.toUInt16 item.count =
      UInt16.ofNat (min wanted.toNat item.count.toNat) := by
    rw [← number, UInt16.ofNat_toNat]
  have rest : item.count - min wanted.toUInt16 item.count =
      UInt16.ofNat (item.count.toNat - min wanted.toNat item.count.toNat) := by
    rw [← left, UInt16.ofNat_toNat]
  have gone : item.count - min wanted.toUInt16 item.count = 0 ↔
      min wanted.toNat item.count.toNat = item.count.toNat := by
    rw [← UInt16.toNat_inj, left, UInt16.toNat_zero]
    omega
  unfold split
  rw [if_neg filled, amount_of_filled filled]
  simp only [gone]
  rw [rest, taken]

theorem split_snd (item : Item) (wanted : UInt8) :
    (item.split wanted).2 = item.without (min wanted.toNat item.amount) := by
  unfold without
  by_cases nothing : item.isEmpty
  · rw [amount_of_empty nothing, Nat.min_zero, if_pos rfl, split, if_pos nothing]
  · rw [split_of_filled nothing]
    have some : ¬0 = item.amount := fun zero => nothing (isEmpty_iff_amount.2 zero.symm)
    by_cases none : min wanted.toNat item.amount = 0
    · simp only [none, if_neg some, if_true, Nat.sub_zero, UInt16.ofNat_toNat]
    · rw [if_neg none]

theorem stackOnto_split (present item : Item) (wanted : UInt8) :
    present.stackOnto (item.split wanted).1 =
      present.withMore (min wanted.toNat item.amount) item := by
  unfold withMore
  by_cases nothing : item.isEmpty
  · rw [amount_of_empty nothing, Nat.min_zero, if_pos rfl, split, if_pos nothing]
    rfl
  · rw [split_of_filled nothing]
    have small : min wanted.toNat item.amount < UInt16.size :=
      Nat.lt_of_le_of_lt (Nat.min_le_left _ _) (Nat.lt_trans wanted.toNat_lt (by decide))
    have count : (UInt16.ofNat (min wanted.toNat item.amount)).toNat =
      min wanted.toNat item.amount := UInt16.toNat_ofNat_of_lt' small
    have amount := (amount_recount (typeId_of_filled nothing) _).trans count
    unfold stackOnto
    simp only [isEmpty_iff_amount.trans (iff_of_eq (congrArg (· = 0) amount)), addCounts, count]

end Item

namespace Operation

variable (items : Items)

/-- A move in the words of a request. -/
theorem effect_move (source target : Location) (count : UInt8) :
    effect (.move source target count) items =
      (items.put source ((items source).without (min count.toNat (items source).amount))).put target
        ((items.put source ((items source).without
          (min count.toNat (items source).amount)) target).withMore
            (min count.toNat (items source).amount) (items source)) := by
  change (items.put source ((items source).split count).2).put target
    ((items.put source ((items source).split count).2 target).stackOnto
      ((items source).split count).1) = _
  rw [Item.split_snd, Item.stackOnto_split]

theorem effect_drop (source : Location) (count : UInt8) :
    effect (.drop source count) items =
      items.put source ((items source).without (min count.toNat (items source).amount)) := by
  change items.put source ((items source).split count).2 = _
  rw [Item.split_snd]

end Operation

namespace Compile

section Steps

variable {context : Context} {requestId : Int32} {draft after : Draft}

/-- The reference names the slot by its role. -/
structure StandsFor (context : Context) (reference : SlotRef) (location : Location) : Prop where
  slot : reference.slot = location.slot
  role : Role.resolve context.overrides context.opened location = .ok reference.role

/-- The action that stands for an operation in its request. -/
inductive Expresses (context : Context) : Operation → StackAction → Prop where
  | move {source target : Location} {origin goal : SlotRef} (count : UInt8)
      (here : StandsFor context origin source) (there : StandsFor context goal target) :
      Expresses context (.move source target count) (.place count origin goal)
  | swap {first second : Location} {left right : SlotRef}
      (one : StandsFor context left first) (two : StandsFor context right second) :
      Expresses context (.swap first second) (.swap left right)
  | drop {source : Location} {origin : SlotRef} (count : UInt8) (randomly : Bool)
      (here : StandsFor context origin source) :
      Expresses context (.drop source count) (.drop count origin randomly)

theorem refer_standsFor {location : Location} {reference : SlotRef}
    (referred : refer context requestId location draft = .ok (reference, after)) :
    StandsFor context reference location ∧ after.actions = draft.actions := by
  obtain ⟨role, resolved, -, rfl, rfl⟩ := refer_ok.1 referred
  exact ⟨⟨rfl, resolved⟩, rfl⟩

/-- An operation that moves items about becomes a single action. -/
theorem operation_expresses {step : Operation} {answer : Unit} (plain : step.rearranges)
    (performed : operation context requestId step draft = .ok (answer, after)) :
    ∃ action, Expresses context step action ∧ after.actions = draft.actions ++ [action] := by
  cases step with
  | move source target count =>
      change move context requestId source target count draft = _ at performed
      unfold move at performed
      simp only [bind_ok, emit_ok, onOverlay_ok] at performed
      obtain ⟨_, _, first, _, _, second, _, _, rfl, _, _, rfl⟩ := performed
      obtain ⟨here, kept⟩ := refer_standsFor first
      obtain ⟨there, still⟩ := refer_standsFor second
      refine ⟨_, .move count here there, ?_⟩
      change _ ++ _ = _
      rw [still, kept]
  | swap left right =>
      change swap context requestId left right draft = _ at performed
      unfold swap at performed
      simp only [bind_ok, emit_ok, onOverlay_ok] at performed
      obtain ⟨_, _, first, _, _, second, _, _, rfl, _, _, rfl⟩ := performed
      obtain ⟨one, kept⟩ := refer_standsFor first
      obtain ⟨two, still⟩ := refer_standsFor second
      refine ⟨_, .swap one two, ?_⟩
      change _ ++ _ = _
      rw [still, kept]
  | drop source count =>
      change drop context requestId source count draft = _ at performed
      unfold drop at performed
      simp only [bind_ok, emit_ok, onOverlay_ok, pure_ok] at performed
      obtain ⟨_, _, first, _, _, rfl, _, _, ⟨_, _, rfl⟩, -, rfl⟩ := performed
      obtain ⟨here, kept⟩ := refer_standsFor first
      refine ⟨_, .drop count context.dropRandomly here, ?_⟩
      change _ ++ _ = _
      rw [kept]
  | _ => cases plain

theorem forM_expresses {operations : List Operation} {answer : Unit}
    (plain : ∀ step ∈ operations, step.rearranges)
    (performed : operations.forM (operation context requestId) draft = .ok (answer, after)) :
    ∃ actions, List.Forall₂ (Expresses context) operations actions ∧
      after.actions = draft.actions ++ actions := by
  induction operations generalizing draft with
  | nil =>
      rw [forM_nil_ok.1 performed]
      exact ⟨[], .nil, (List.append_nil _).symm⟩
  | cons step later induction =>
      obtain ⟨between, head, tail⟩ := forM_cons_ok.1 performed
      obtain ⟨simple, others⟩ := List.forall_mem_cons.1 plain
      obtain ⟨action, stands, one⟩ := operation_expresses simple head
      obtain ⟨actions, row, more⟩ := induction others tail
      refine ⟨action :: actions, .cons stands row, ?_⟩
      rw [more, one, List.append_assoc, List.singleton_append]

end Steps

section Meaning

variable {context : Context} {windows : RoleWindows}

/-- The windows tell where each of these locations is. -/
def Locates (context : Context) (windows : RoleWindows) (named : List Location) : Prop :=
  ∀ location ∈ named, ∃ role,
    Role.resolve context.overrides context.opened location = .ok role ∧
      windows.window? role = some location.window

theorem StandsFor.location? {reference : SlotRef} {location : Location} {named : List Location}
    (names : StandsFor context reference location) (located : Locates context windows named)
    (member : location ∈ named) : reference.location? windows = some location := by
  obtain ⟨role, resolved, found⟩ := located location member
  have same : reference.role = role := Except.ok.inj (names.role.symm.trans resolved)
  unfold SlotRef.location?
  rw [same, found, names.slot]
  rfl

/-- The action of an operation means the operation. -/
theorem Expresses.perform {step : Operation} {action : StackAction}
    (stands : Expresses context step action)
    (located : Locates context windows step.slots) (items : Items) :
    action.perform windows items = some (step.effect items) ∧
      action.locations windows = step.slots := by
  cases stands with
  | move count here there =>
      have origin := here.location? located (by simp [Operation.slots])
      have goal := there.location? located (by simp [Operation.slots])
      constructor
      · rw [Operation.effect_move]
        simp only [StackAction.perform, origin, goal]
        rfl
      · simp [StackAction.locations, StackAction.references, Operation.slots, origin, goal]
  | swap one two =>
      have first := one.location? located (by simp [Operation.slots])
      have second := two.location? located (by simp [Operation.slots])
      constructor
      · simp only [StackAction.perform, first, second]
        rfl
      · simp [StackAction.locations, StackAction.references, Operation.slots, first, second]
  | drop count randomly here =>
      have origin := here.location? located (by simp [Operation.slots])
      constructor
      · rw [Operation.effect_drop]
        simp only [StackAction.perform, origin]
        rfl
      · simp [StackAction.locations, StackAction.references, Operation.slots, origin]

/-- A row of actions means the row of operations that it stands for. -/
theorem perform_row {operations : List Operation} {actions : List StackAction}
    (row : List.Forall₂ (Expresses context) operations actions)
    (located : Locates context windows (Operation.allSlots operations)) (items : Items) :
    actions.foldlM (StackAction.perform windows) items =
        some (Operation.effects operations items) ∧
      actions.flatMap (StackAction.locations windows) = Operation.allSlots operations := by
  induction row generalizing items with
  | nil => exact ⟨rfl, rfl⟩
  | @cons step action later actions stands _ induction =>
      have here : Locates context windows step.slots := fun location member =>
        located location (Operation.mem_allSlots_cons.2 (Or.inl member))
      have there : Locates context windows (Operation.allSlots later) := fun location member =>
        located location (Operation.mem_allSlots_cons.2 (Or.inr member))
      obtain ⟨performed, named⟩ := stands.perform here items
      obtain ⟨rest, others⟩ := induction there (step.effect items)
      constructor
      · rw [List.foldlM_cons, performed]
        exact rest
      · rw [List.flatMap_cons, named, others]
        rfl

end Meaning

section Requests

variable {context : Context} {requestId : Int32} {overlay final : Overlay}
  (spare : context.overrides.SparePlayer)

/-- The request says what its predictions say: just the locations that it names are predicted,
each with the item that carrying the request out leaves there. -/
structure Foretells (compiled : CompiledRequest) (before after : Items) : Prop where
  performs : compiled.perform before = some after
  predictions : ∀ location, compiled.predictions.find? location =
    if location ∈ compiled.locations then some ⟨some (after location), none⟩ else none

include spare

theorem group_foretells {operations : List Operation} {compiled : CompiledRequest}
    (plain : ∀ step ∈ operations, step.rearranges)
    (succeeds : group context requestId overlay operations = .ok (compiled, final)) :
    Foretells compiled (overlay.itemAt context.inventory) (final.itemAt context.inventory) := by
  have rearranged := group_rearranged spare plain succeeds
  obtain ⟨draft, performed, rfl, rfl⟩ := group_ok.1 succeeds
  obtain ⟨actions, row, emitted⟩ := forM_expresses plain performed
  have listed : (draft.finish requestId).request.actions = actions :=
    emitted.trans (List.nil_append actions)
  obtain ⟨meant, named⟩ :=
    perform_row row rearranged.windows (overlay.itemAt context.inventory)
  have locations : (draft.finish requestId).locations = Operation.allSlots operations := by
    unfold CompiledRequest.locations
    rw [listed]
    exact named
  constructor
  · unfold CompiledRequest.perform
    rw [listed, rearranged.items]
    exact meant
  · intro location
    rw [locations, rearranged.predictions, rearranged.items]

/-- Each request foretells what it does after those before it were carried out. -/
theorem groups_foretell {members : List (List Operation)} {compiled : List CompiledRequest}
    {free : Int32} (plain : ∀ step ∈ members.flatten, step.rearranges)
    (succeeds : groups context requestId overlay members = (.ok compiled, free))
    {position : Nat} {entry : CompiledRequest} (found : compiled[position]? = some entry) :
    ∃ before after, CompiledRequest.performAll (compiled.take position)
        (overlay.itemAt context.inventory) = some before ∧ Foretells entry before after := by
  induction members generalizing requestId overlay compiled position with
  | nil =>
      obtain ⟨rfl, -⟩ := groups_nil_ok.1 succeeds
      cases found
  | cons operations later induction =>
      obtain ⟨first, between, others, head, tail, rfl⟩ := groups_cons_ok.1 succeeds
      rw [List.flatten_cons, List.forall_mem_append] at plain
      have foretells := group_foretells spare plain.1 head
      cases position with
      | zero =>
          cases found
          exact ⟨_, _, rfl, foretells⟩
      | succ position =>
          obtain ⟨before, after, reached, foretold⟩ := induction plain.2 tail found
          refine ⟨before, after, ?_, foretold⟩
          rw [List.take_succ_cons, CompiledRequest.performAll, List.foldlM_cons,
            foretells.performs]
          exact reached

end Requests

end Compile

namespace Engine

variable {τ : Type} {engine after : Engine τ} {queue : List Operation}
  {compiled : List CompiledRequest}

/-- Whoever carries out the requests for moves, swaps and drops, one after another on the items
that are known, finds after each of them the predicted items in the slots that it names, and
predictions for no other slots. -/
theorem requests_mean_their_predictions (spare : engine.settings.overrides.SparePlayer)
    (plain : ∀ operation ∈ queue, operation.rearranges)
    (succeeds : engine.compile queue = (.ok compiled, after))
    {position : Nat} {entry : CompiledRequest} (found : compiled[position]? = some entry) :
    ∃ before items,
      CompiledRequest.performAll (compiled.take position) engine.inventory.itemOrEmpty =
          some before ∧
        entry.perform before = some items ∧
        ∀ location, entry.predictions.find? location =
          if location ∈ entry.locations then some ⟨some (items location), none⟩ else none := by
  obtain ⟨free, reached, -⟩ := compile_ok.1 succeeds
  have whole := engine.settings.policy.flatten_group queue
  obtain ⟨before, items, performed, foretells⟩ :=
    Compile.groups_foretell spare (whole.symm ▸ plain) reached found
  exact ⟨before, items, performed, foretells.performs, foretells.predictions⟩

/-- The last of the three requests goes on with what the swap before it left. -/
theorem tidying_requests_mean_their_predictions :
    ∃ entry, (tidying.requestsFor tidyingQueue)[2]? = some entry ∧ ∃ before items,
      CompiledRequest.performAll ((tidying.requestsFor tidyingQueue).take 2)
          tidying.inventory.itemOrEmpty = some before ∧
        entry.perform before = some items ∧
        ∀ location, entry.predictions.find? location =
          if location ∈ entry.locations then some ⟨some (items location), none⟩ else none := by
  have compiles : tidying.compile tidyingQueue =
      (.ok (tidying.requestsFor tidyingQueue), (tidying.compile tidyingQueue).2) :=
    compile_requestsFor (by decide +kernel)
  have third : 2 < (tidying.requestsFor tidyingQueue).length := by decide +kernel
  have found := List.getElem?_eq_getElem third
  exact ⟨_, found, requests_mean_their_predictions RoleOverrides.sparePlayer_nil (by decide)
    compiles found⟩

example : ((tidying.requestsFor tidyingQueue)[2]?.map CompiledRequest.locations) =
    some [⟨0, 10⟩, ⟨0, 9⟩, ⟨0, 10⟩] := by decide +kernel

end Engine

end InventorySync
