import InventorySync.Proofs.Parallel

/-!
How operations are divided between requests is a matter of the requests alone. Under any
two policies a queue fails for the same reason, or the packets ask for the same work in
the same order and predict the same items in the same slots. Each packet is compared
with one draft that is made of the whole queue at once.
-/

namespace InventorySync

set_option autoImplicit false

/-- Two packets that ask for the same work. Stacks have the names that the requests give them,
and a filter string is found among those of its own request. -/
structure SameWork (first second : List CompiledRequest) : Prop where
  actions : (packetActions first).map StackAction.anonymous =
    (packetActions second).map StackAction.anonymous
  filterStrings : packetFilterStrings first = packetFilterStrings second
  predicted : ∀ location, (∃ entry ∈ first, (entry.predictions.find? location).isSome) ↔
    ∃ entry ∈ second, (entry.predictions.find? location).isSome
  templates : ∀ location, (lastPrediction? first location).map Prediction.template =
    (lastPrediction? second location).map Prediction.template

theorem lastPrediction?_isSome {compiled : List CompiledRequest} {location : Location} :
    (lastPrediction? compiled location).isSome ↔
      ∃ entry ∈ compiled, (entry.predictions.find? location).isSome := by
  unfold lastPrediction?
  rw [List.findSome?_isSome_iff]
  simp only [List.mem_reverse]

namespace Compile

variable {context : Context}

/-- The packet has all the work of a draft that was made at once. -/
structure AmountsTo (inventory : Inventory) (packet : List CompiledRequest) (whole : Draft) :
    Prop where
  actions : (packetActions packet).map StackAction.anonymous =
    whole.actions.map StackAction.anonymous
  filterStrings : packetFilterStrings packet = whole.filterStrings
  predicted : ∀ location, (lastPrediction? packet location).map Prediction.template =
    if location ∈ whole.touched then some (some (whole.overlay.itemAt inventory location)) else none

theorem AmountsTo.sameWork {inventory : Inventory} {first second : List CompiledRequest}
    {whole : Draft} (one : AmountsTo inventory first whole)
    (two : AmountsTo inventory second whole) : SameWork first second := by
  have templates (location : Location) :
      (lastPrediction? first location).map Prediction.template =
        (lastPrediction? second location).map Prediction.template :=
    (one.predicted location).trans (two.predicted location).symm
  refine ⟨one.actions.trans two.actions.symm, one.filterStrings.trans two.filterStrings.symm,
    fun location => ?_, templates⟩
  have present := congrArg Option.isSome (templates location)
  rw [Option.isSome_map, Option.isSome_map] at present
  rw [← lastPrediction?_isSome, ← lastPrediction?_isSome, present]

/-- A group begins where the packet has come to. -/
theorem AmountsTo.begin {packet : List CompiledRequest} {overlay : Overlay} {whole : Draft}
    {inventory : Inventory} (amounts : AmountsTo inventory packet whole)
    (items : overlay.itemAt inventory = whole.overlay.itemAt inventory)
    (holds : overlay.holds = whole.overlay.holds) :
    Alike inventory packet [] { overlay } whole where
  items := items
  holds := holds
  actions := by rw [List.append_nil, amounts.actions]
  filterStrings := by rw [List.append_nil, amounts.filterStrings]
  touched := fun _ touched => absurd touched List.not_mem_nil
  predicted := fun location _ => amounts.predicted location
  named := fun _ member => absurd member List.not_mem_nil

/-- A finished group takes the packet to where the draft of everything has come to. -/
theorem Alike.finish {packet : List CompiledRequest} {named : List Location} {draft whole : Draft}
    {inventory : Inventory} (alike : Alike inventory packet named draft whole) (requestId : Int32) :
    AmountsTo inventory (packet ++ [draft.finish requestId]) whole := by
  refine ⟨?_, ?_, fun location => ?_⟩
  · unfold packetActions
    rw [List.flatMap_append, List.flatMap_singleton]
    exact alike.actions
  · unfold packetFilterStrings
    rw [List.flatMap_append, List.flatMap_singleton]
    exact alike.filterStrings
  · have own : (draft.finish requestId).predictions.find? location =
        if location ∈ draft.touched then
          some ⟨(draft.overlay.slot? location).map PredictedSlot.item,
            draft.expectation? location⟩
        else none :=
      find?_touched draft.touched _ location
    rw [lastPrediction?_append_single, own]
    by_cases touched : location ∈ draft.touched
    · obtain ⟨listed, held⟩ := alike.touched location touched
      rw [if_pos touched, if_pos listed, ← alike.items]
      obtain ⟨slot, found⟩ := Option.isSome_iff_exists.1 held
      unfold Overlay.itemAt Overlay.slotAt
      rw [found]
      rfl
    · rw [if_neg touched]
      exact alike.predicted location touched

theorem forM_append_eq {first later : List Operation} (step : Operation → Action Unit)
    (draft : Draft) : (first ++ later).forM step draft =
      match first.forM step draft with
      | .error failure => .error failure
      | .ok (_, between) => later.forM step between := by
  change forM (first ++ later) step draft = _
  rw [List.forM_append]
  change (first.forM step draft >>= _) = _
  rcases first.forM step draft with failure | ⟨answer, between⟩
  · rfl
  · rfl

theorem group_eq (requestId : Int32) (overlay : Overlay) (operations : List Operation) :
    group context requestId overlay operations =
      match operations.forM (operation context requestId) { overlay } with
      | .error failure => .error failure
      | .ok (_, draft) => .ok (draft.finish requestId, draft.overlay) := by
  unfold group
  change (operations.forM (operation context requestId) { overlay } >>= _) = _
  rcases operations.forM (operation context requestId) { overlay } with failure | ⟨_, draft⟩
  · rfl
  · rfl

theorem groups_cons (requestId : Int32) (overlay : Overlay) (operations : List Operation)
    (later : List (List Operation)) :
    (groups context requestId overlay (operations :: later)).1 =
      match operations.forM (operation context requestId) { overlay } with
      | .error failure => .error failure
      | .ok (_, draft) => (groups context (idAfter requestId) draft.overlay later).1.map
          fun others => draft.finish requestId :: others := by
  rw [groups, group_eq]
  rcases operations.forM (operation context requestId) { overlay } with failure | ⟨_, draft⟩
  · rfl
  · rfl

/-- The groups of a packet, one after another, beside the draft of everything. -/
theorem groups_amount (whole : Draft) (other : Int32) {members : List (List Operation)}
    {requestId : Int32} {overlay : Overlay} {packet : List CompiledRequest}
    (amounts : AmountsTo context.inventory packet whole)
    (items : overlay.itemAt context.inventory = whole.overlay.itemAt context.inventory)
    (holds : overlay.holds = whole.overlay.holds) :
    Matches (fun compiled final => AmountsTo context.inventory (packet ++ compiled) final.2)
      (groups context requestId overlay members).1
      (members.flatten.forM (operation context other) whole) := by
  induction members generalizing requestId overlay packet whole with
  | nil =>
      refine .ok ?_
      rw [List.append_nil]
      exact amounts
  | cons operations later induction =>
      have ran := forM_twin (@stepsTwin_alike context requestId other packet []) operations _ _
        (amounts.begin items holds)
      rw [List.flatten_cons, forM_append_eq, groups_cons]
      generalize operations.forM (operation context requestId) { overlay } = one at ran ⊢
      generalize operations.forM (operation context other) whole = two at ran ⊢
      cases ran with
      | error failure => exact .error failure
      | @ok left right same =>
          have rest := @induction right.2 (idAfter requestId) left.2.overlay _
            (same.2.finish requestId) same.2.items same.2.holds
          simp only
          generalize (groups context (idAfter requestId) left.2.overlay later).1 = others at rest ⊢
          generalize later.flatten.forM (operation context other) right.2 = final at rest ⊢
          cases rest with
          | error failure => exact .error failure
          | ok reached =>
              refine .ok ?_
              rw [List.append_assoc] at reached
              exact reached

end Compile

namespace Engine

variable {τ : Type}

def withPolicy (engine : Engine τ) (policy : GroupingPolicy) : Engine τ :=
  { engine with settings := { engine.settings with policy } }

/-- Whichever kinds of operation get requests of their own, a queue asks for the same work, or
is refused for the same reason. -/
theorem same_work_under_any_policy (engine : Engine τ) (queue : List Operation)
    (first second : GroupingPolicy) :
    Matches SameWork ((engine.withPolicy first).compile queue).1
      ((engine.withPolicy second).compile queue).1 := by
  have nothing : Compile.AmountsTo engine.inventory [] { overlay := .empty } :=
    ⟨rfl, rfl, fun _ => rfl⟩
  have whole (policy : GroupingPolicy) :
      Matches (fun compiled final => Compile.AmountsTo engine.inventory compiled final.2)
        ((engine.withPolicy policy).compile queue).1
        (queue.forM (Compile.operation engine.context 0) { overlay := .empty }) := by
    have divided := @Compile.groups_amount engine.context { overlay := .empty } 0
      (policy.group queue) engine.requests.nextId .empty [] nothing rfl rfl
    rw [policy.flatten_group] at divided
    exact divided
  exact ((whole first).join (whole second)).imp fun _ _ same =>
    same.choose_spec.1.sameWork same.choose_spec.2

end Engine

end InventorySync
