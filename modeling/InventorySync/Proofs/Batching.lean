import InventorySync.Proofs.FaithfulServer
import InventorySync.Proofs.Registration

/-!
Whether operations that move items about are committed all at once or one after
another, a faithful server brings the client to the same inventory. The reason is
that either way it comes to what the operations do to the items, acknowledged: the
acknowledgement of an item changes nothing that the next operation could notice.
-/

namespace InventorySync

set_option autoImplicit false

section Settling

open Operation (effects allSlots)

/-- The client knows what these operations led to. -/
def Settled (before : Inventory) (operations : List Operation) (after : Inventory) : Prop :=
  Wrote (fun location => (effects operations before.itemOrEmpty location).acknowledged)
    (allSlots operations) before after

variable {before between after : Inventory} {first second : List Operation}

theorem settled_nil (inventory : Inventory) : Settled inventory [] inventory := Wrote.refl inventory

/-- The items that are known agree with those that the operations led to. -/
theorem Settled.agree (settled : Settled before first after) :
    Operation.AllAgree after.itemOrEmpty (effects first before.itemOrEmpty) := by
  intro location
  have known := settled.items location
  unfold Inventory.itemOrEmpty
  by_cases named : location ∈ allSlots first
  · rw [if_pos named] at known
    obtain ⟨item, found, reached⟩ := Option.map_eq_some_iff.1 known
    rw [found]
    exact Item.Agrees.of_acknowledged reached
  · rw [if_neg named] at known
    rw [Operation.effects_elsewhere _ named]
    cases found : after.item? location with
    | none =>
        rw [found] at known
        rw [Option.map_eq_none_iff.1 known.symm]
        exact Item.Agrees.refl _
    | some item =>
        rw [found] at known
        obtain ⟨other, same, unstacked⟩ := Option.map_eq_some_iff.1 known.symm
        rw [same]
        unfold Item.Agrees
        rw [Option.getD_some, Option.getD_some, ← Item.acknowledged_unstacked item, ← unstacked]
        rfl

theorem allSlots_append : allSlots (first ++ second) = allSlots first ++ allSlots second :=
  List.flatMap_append

/-- To settle operations in two parts is to settle them all. -/
theorem Settled.trans (one : Settled before first between) (two : Settled between second after) :
    Settled before (first ++ second) after := by
  unfold Settled
  rw [allSlots_append]
  refine Wrote.overwrite one two ?_ ?_
  · intro location _
    rw [Operation.effects_append]
    exact one.agree.effects second location
  · intro location elsewhere
    rw [Operation.effects_append, Operation.effects_elsewhere _ elsewhere]

/-- Nothing but the names of the stacks is left open. -/
theorem Settled.unique {other : Inventory} (one : Settled before first after)
    (two : Settled before first other) :
    (∀ location, (after.item? location).map Item.unstacked =
      (other.item? location).map Item.unstacked) ∧
      ∀ window, after.knows window = other.knows window := by
  constructor
  · intro location
    rw [one.items, two.items]
  · intro window
    rw [Bool.eq_iff_iff, one.knows, two.knows]

end Settling

namespace Server

def answers (server : Server) : Nat → List CompiledRequest → List StackResponse
  | _, [] => []
  | turn, compiled :: later => server turn compiled :: server.answers (turn + 1) later

def absorbAll (server : Server) : Nat → List CompiledRequest → Inventory → Inventory
  | _, [], inventory => inventory
  | turn, compiled :: later, inventory =>
      server.absorbAll (turn + 1) later (compiled.absorb inventory (server turn compiled))

theorem absorbAll_append (server : Server) (turn : Nat) (first : List CompiledRequest)
    (last : CompiledRequest) (inventory : Inventory) :
    ∃ between, server.absorbAll turn (first ++ [last]) inventory =
      last.absorb between (server (turn + first.length) last) := by
  induction first generalizing turn inventory with
  | nil => exact ⟨inventory, rfl⟩
  | cons entry later induction =>
      obtain ⟨between, reached⟩ :=
        induction (turn + 1) (entry.absorb inventory (server turn entry))
      refine ⟨between, reached.trans ?_⟩
      rw [List.length_cons, Nat.add_assoc, Nat.add_comm 1]

end Server

namespace Compile

open Operation (effects allSlots)

variable {context : Context}

/-- After each beginning of a row of operations, all counts fit into an acknowledgement. -/
def CountsFit (items : Items) (operations : List Operation) : Prop :=
  ∀ first, first <+: operations → ∀ location ∈ allSlots first,
    (effects first items location).amount ≤ 255

/-- A faithful answer settles the operations of its request. -/
theorem absorb_settled {done operations : List Operation} {overlay final : Overlay}
    {compiled : CompiledRequest} {response : StackResponse} {current : Inventory}
    (rearranged : Rearranged context overlay operations compiled final)
    (items : overlay.itemAt context.inventory = effects done context.inventory.itemOrEmpty)
    (fits : ∀ location ∈ allSlots (done ++ operations),
      (effects (done ++ operations) context.inventory.itemOrEmpty location).amount ≤ 255)
    (answered : AnswersFaithfully context.overrides context.opened compiled response)
    (settled : Settled context.inventory done current) :
    Settled context.inventory (done ++ operations) (compiled.absorb current response) := by
  have predictions := rearranged.predictions
  rw [items, ← Operation.effects_append] at predictions
  have plain : compiled.Plain := by
    intro location prediction found
    rw [predictions] at found
    split at found
    · next named =>
        cases found
        refine ⟨_, rfl, fits location ?_⟩
        rw [allSlots_append]
        exact List.mem_append_right _ named
    · cases found
  have addressed : compiled.Addressed context.overrides context.opened :=
    CompiledRequest.addressed_of_named predictions rearranged.windows
  have listed := CompiledRequest.mem_iff_predicted predictions
  have wrote := CompiledRequest.absorb_wrote plain addressed answered listed current
  unfold Settled
  rw [allSlots_append]
  refine Wrote.overwrite settled wrote ?_ ?_
  · intro location named
    unfold CompiledRequest.goal
    rw [predictions, if_pos named]
    rfl
  · intro location elsewhere
    rw [Operation.effects_append, Operation.effects_elsewhere _ elsewhere]

/-- Faithful answers to a packet settle all operations that it stands for. -/
theorem groups_settled (spare : context.overrides.SparePlayer) {server : Server}
    (faithful : server.IsFaithful context.overrides context.opened)
    {members : List (List Operation)} {requestId free : Int32} {overlay : Overlay}
    {compiled : List CompiledRequest} {done : List Operation} {current : Inventory} (turn : Nat)
    (plain : ∀ operation ∈ members.flatten, operation.rearranges)
    (succeeds : groups context requestId overlay members = (.ok compiled, free))
    (items : overlay.itemAt context.inventory = effects done context.inventory.itemOrEmpty)
    (fits : CountsFit context.inventory.itemOrEmpty (done ++ members.flatten))
    (settled : Settled context.inventory done current) :
    Settled context.inventory (done ++ members.flatten)
      (server.absorbAll turn compiled current) := by
  induction members generalizing requestId overlay compiled done current turn with
  | nil =>
      obtain ⟨rfl, -⟩ := groups_nil_ok.1 succeeds
      rw [List.flatten_nil, List.append_nil]
      exact settled
  | cons operations later induction =>
      obtain ⟨first, between, others, head, tail, rfl⟩ := groups_cons_ok.1 succeeds
      rw [List.flatten_cons] at plain fits ⊢
      rw [← List.append_assoc] at fits ⊢
      have rearranged := group_rearranged spare
        (fun operation member => plain operation (List.mem_append_left _ member)) head
      have next := absorb_settled rearranged items
        (fits (done ++ operations) (List.prefix_append _ _)) (faithful turn first) settled
      refine induction (turn + 1)
        (fun operation member => plain operation (List.mem_append_right _ member)) tail ?_ fits next
      rw [rearranged.items, items, Operation.effects_append]

/-- Whatever a row of groups names can be used from the start. -/
theorem groups_usable (spare : context.overrides.SparePlayer) {members : List (List Operation)}
    {requestId free : Int32} {overlay : Overlay} {compiled : List CompiledRequest}
    (plain : ∀ operation ∈ members.flatten, operation.rearranges)
    (succeeds : groups context requestId overlay members = (.ok compiled, free))
    (held : ∀ location, overlay.holds location →
      Overlay.empty.available context.inventory location) :
    ∀ location ∈ allSlots members.flatten, Usable context .empty location := by
  have early (location : Location) (usable : Usable context overlay location) :
      Usable context .empty location := by
    refine ⟨usable.1, ?_⟩
    rcases available_iff.1 usable.2 with taken | known
    · exact held location taken
    · exact available_iff.2 (Or.inr known)
  induction members generalizing requestId overlay compiled with
  | nil => exact fun _ member => absurd member List.not_mem_nil
  | cons operations later induction =>
      obtain ⟨first, between, others, head, tail, rfl⟩ := groups_cons_ok.1 succeeds
      rw [List.flatten_cons] at plain ⊢
      have rearranged := group_rearranged spare
        (fun operation member => plain operation (List.mem_append_left _ member)) head
      have heldNext : ∀ location, between.holds location →
          Overlay.empty.available context.inventory location := by
        intro location taken
        rcases (rearranged.holds location).1 taken with before | named
        · exact held location before
        · exact (early location (rearranged.usable location named)).2
      intro location member
      rw [allSlots_append, List.mem_append] at member
      rcases member with now | after
      · exact early location (rearranged.usable location now)
      · refine induction (fun operation member => plain operation (List.mem_append_right _ member))
          tail heldNext ?_ location after
        intro other usable
        refine ⟨usable.1, ?_⟩
        rcases available_iff.1 usable.2 with taken | known
        · exact heldNext other taken
        · exact available_iff.2 (Or.inr known)

end Compile

namespace RequestTable

variable {τ : Type}

/-- Answers to registered requests all find them waiting. -/
theorem settle_answers {server : Server} {compiled : List CompiledRequest} {number position : Nat}
    {table : RequestTable (Completion τ)} (turn : Nat) (inventory : Inventory)
    (own : ∀ turn entry, (server turn entry).requestId = entry.request.id)
    (distinct : (requestIds compiled).Nodup)
    (found : ∀ (index : Nat) (entry : CompiledRequest), compiled[index]? = some entry →
      table.find? entry.request.id = some (entry.registration number (position + index))) :
    (settle (server.answers turn compiled) table inventory).inventory =
        server.absorbAll turn compiled inventory ∧
      (settle (server.answers turn compiled) table inventory).unknown = [] := by
  induction compiled generalizing table inventory turn position with
  | nil => exact ⟨rfl, rfl⟩
  | cons entry later induction =>
      obtain ⟨alone, others⟩ := List.nodup_cons.1 distinct
      have waiting := found 0 entry rfl
      rw [Nat.add_zero, ← own turn entry] at waiting
      have rest := @induction (position + 1) (table.remove (server turn entry).requestId) (turn + 1)
        (entry.absorb inventory (server turn entry)) others fun index other listed => by
          have differs : other.request.id ≠ (server turn entry).requestId := by
            intro same
            rw [own] at same
            have member : other.request.id ∈ requestIds later :=
              List.mem_map_of_mem (List.mem_of_getElem? listed)
            rw [same] at member
            exact alone member
          rw [find?_remove, if_neg differs, Nat.add_assoc, Nat.add_comm 1 index]
          exact found (index + 1) other listed
      rw [Server.answers, settle, waiting]
      exact rest

end RequestTable

namespace Engine

open Operation (effects allSlots)

variable {τ : Type} {engine : Engine τ} {server : Server}

/-- Commits a queue, and takes in the answers to its packet. -/
def exchange (server : Server) (turn number : Nat) (engine : Engine τ) (queue : List Operation) :
    Except SyncError (Engine τ) :=
  match engine.startCommit number queue with
  | (.nothingQueued, unchanged, _) => .ok unchanged
  | (.failed failure, _) => .error failure
  | (.sent _, waiting, _) =>
      match waiting.responsesReceived (server.answers turn (engine.requestsFor queue)) with
      | (.ok (), settled, _) => .ok settled
      | (.error failure, _) => .error failure

/-- Commits each operation for itself, the next one once the last was answered. -/
def exchangeEach (server : Server) : Nat → Nat → Engine τ → List Operation →
    Except SyncError (Engine τ)
  | _, _, engine, [] => .ok engine
  | turn, number, engine, operation :: later => do
      let next ← engine.exchange server turn number [operation]
      exchangeEach server (turn + 1) (number + 1) next later

theorem requestsFor_eq {middle : Engine τ} {queue : List Operation}
    {compiled : List CompiledRequest} (succeeds : engine.compile queue = (.ok compiled, middle)) :
    engine.requestsFor queue = compiled := by
  unfold requestsFor
  rw [succeeds]

/-- A queue that compiles is sent, and all answers to it are taken in. -/
theorem exchange_absorbs {queue : List Operation} {compiled : List CompiledRequest}
    {middle : Engine τ} (turn number : Nat) (connected : engine.connected)
    (own : ∀ turn entry, (server turn entry).requestId = entry.request.id)
    (succeeds : engine.compile queue = (.ok compiled, middle))
    (distinct : (requestIds compiled).Nodup) :
    ∃ requests, engine.exchange server turn number queue =
      .ok { engine with
        requests, inventory := server.absorbAll turn compiled engine.inventory } := by
  have starts := engine.startCommit_starts number queue
  unfold exchange
  rw [requestsFor_eq succeeds]
  generalize engine.startCommit number queue = result at starts
  cases starts with
  | nothingQueued empty =>
      rw [empty] at succeeds
      cases succeeds
      exact ⟨engine.requests, rfl⟩
  | uncompiled fails =>
      rw [succeeds] at fails
      cases fails
  | unsent _ disconnected =>
      rw [connected] at disconnected
      cases disconnected
  | @sent others between filled again _ =>
      rw [succeeds] at again
      cases again
      have kept := engine.compile_engine queue
      rw [succeeds] at kept
      change middle = _ at kept
      obtain ⟨requests, waiting⟩ : ∃ requests,
          (middle.registerAll number 0 compiled).1 = { engine with requests } := by
        refine ⟨(middle.registerAll number 0 compiled).1.requests, ?_⟩
        rw [registerAll_engine]
        generalize (middle.registerAll number 0 compiled).1.requests = requests
        rw [kept]
      have found : ∀ (index : Nat) (entry : CompiledRequest), compiled[index]? = some entry →
          requests.find? entry.request.id = some (entry.registration number (0 + index)) := by
        intro index entry listed
        have registered := @find?_registerAll τ middle number 0 compiled distinct index entry listed
        rw [waiting] at registered
        exact registered
      obtain ⟨inventory, unknown⟩ := RequestTable.settle_answers turn engine.inventory
        own distinct found
      have outcome : (RequestTable.settle (server.answers turn compiled) requests
          engine.inventory).outcome = .ok () := by
        unfold RequestTable.Settlement.outcome
        rw [unknown]
        rfl
      refine ⟨(RequestTable.settle (server.answers turn compiled) requests
        engine.inventory).table, ?_⟩
      simp only
      rw [waiting]
      unfold responsesReceived
      simp only
      rw [outcome, inventory]

theorem exchange_settled {queue : List Operation} {compiled : List CompiledRequest}
    {middle : Engine τ} (turn number : Nat)
    (spare : engine.settings.overrides.SparePlayer) (connected : engine.connected)
    (faithful : server.IsFaithful engine.settings.overrides engine.containers.openContainer?)
    (plain : ∀ operation ∈ queue, operation.rearranges)
    (succeeds : engine.compile queue = (.ok compiled, middle))
    (distinct : (requestIds compiled).Nodup)
    (fits : Compile.CountsFit engine.inventory.itemOrEmpty queue) :
    ∃ requests inventory,
      engine.exchange server turn number queue = .ok { engine with requests, inventory } ∧
        Settled engine.inventory queue inventory := by
  obtain ⟨requests, exchanged⟩ := exchange_absorbs turn number connected
    (fun turn entry => (faithful turn entry).own) succeeds distinct
  obtain ⟨free, reached, -⟩ := compile_ok.1 succeeds
  have whole := engine.settings.policy.flatten_group queue
  have settled := Compile.groups_settled spare faithful turn (whole.symm ▸ plain) reached rfl
    (whole.symm ▸ fits) (settled_nil engine.inventory)
  rw [List.nil_append, whole] at settled
  exact ⟨requests, server.absorbAll turn compiled engine.inventory, exchanged, settled⟩

theorem compile_alone {operation : Operation} {compiled : CompiledRequest} {final : Overlay}
    (grouped : Compile.group engine.context engine.requests.nextId .empty [operation] =
      .ok (compiled, final)) :
    ∃ middle, engine.compile [operation] = (.ok [compiled], middle) := by
  have alone : engine.settings.policy.group [operation] = [[operation]] := rfl
  have reached : Compile.groups engine.context engine.requests.nextId .empty
      (engine.settings.policy.group [operation]) =
      (.ok [compiled], Compile.idAfter engine.requests.nextId) := by
    rw [alone]
    exact Compile.groups_cons_ok.2
      ⟨compiled, final, [], grouped, Compile.groups_nil_ok.2 ⟨rfl, rfl⟩, rfl⟩
  exact ⟨_, compile_ok.2 ⟨_, reached, rfl⟩⟩

theorem compile_single {operation : Operation} (plain : operation.rearranges)
    (usable : ∀ location ∈ operation.slots, Compile.Usable engine.context .empty location) :
    ∃ compiled middle, engine.compile [operation] = (.ok [compiled], middle) := by
  obtain ⟨compiled, final, grouped⟩ := @Compile.group_succeeds engine.context .empty [operation]
    engine.requests.nextId (List.forall_mem_singleton.2 plain)
    (fun location member => by
      unfold allSlots at member
      rw [List.flatMap_cons, List.flatMap_nil, List.append_nil] at member
      exact usable location member)
  exact ⟨compiled, compile_alone grouped⟩

theorem countsFit_later {operation : Operation} {later : List Operation} {before after : Inventory}
    (fits : Compile.CountsFit before.itemOrEmpty (operation :: later))
    (settled : Settled before [operation] after) :
    Compile.CountsFit after.itemOrEmpty later := by
  intro first beginning location named
  have agree := settled.agree.effects first location
  rw [agree.amount, ← Operation.effects_append]
  refine fits ([operation] ++ first) (List.prefix_cons_inj operation |>.2 beginning) location ?_
  rw [allSlots_append]
  exact List.mem_append_right _ named

theorem exchangeEach_settled {queue : List Operation} (turn number : Nat)
    (spare : engine.settings.overrides.SparePlayer) (connected : engine.connected)
    (faithful : server.IsFaithful engine.settings.overrides engine.containers.openContainer?)
    (plain : ∀ operation ∈ queue, operation.rearranges)
    (usable : ∀ location ∈ allSlots queue, Compile.Usable engine.context .empty location)
    (fits : Compile.CountsFit engine.inventory.itemOrEmpty queue) :
    ∃ requests inventory,
      exchangeEach server turn number engine queue = .ok { engine with requests, inventory } ∧
        Settled engine.inventory queue inventory := by
  induction queue generalizing engine turn number with
  | nil => exact ⟨engine.requests, engine.inventory, rfl, settled_nil engine.inventory⟩
  | cons operation later induction =>
      have simple := plain operation List.mem_cons_self
      obtain ⟨compiled, middle, succeeds⟩ := compile_single simple fun location member =>
        usable location (Operation.mem_allSlots_cons.2 (Or.inl member))
      have fitsFirst : Compile.CountsFit engine.inventory.itemOrEmpty [operation] := by
        intro first beginning
        exact fits first (beginning.trans (List.prefix_append [operation] later))
      obtain ⟨requests, inventory, exchanged, settled⟩ := exchange_settled turn number spare
        connected faithful (List.forall_mem_singleton.2 simple) succeeds
        (List.nodup_singleton _) fitsFirst
      have usableNext : ∀ location ∈ allSlots later,
          Compile.Usable ({ engine with requests, inventory } : Engine τ).context .empty
            location := by
        intro location member
        obtain ⟨resolved, available⟩ :=
          usable location (Operation.mem_allSlots_cons.2 (Or.inr member))
        refine ⟨resolved, Compile.available_iff.2 ?_⟩
        rcases Compile.available_iff.1 available with held | known | ui
        · exact Or.inl held
        · exact Or.inr (Or.inl ((settled.knows location.window).2 (Or.inl known)))
        · exact Or.inr (Or.inr ui)
      obtain ⟨finalRequests, finalInventory, rest, settledRest⟩ :=
        @induction { engine with requests, inventory } (turn + 1) (number + 1) spare connected
          faithful (fun other member => plain other (List.mem_cons_of_mem _ member)) usableNext
          (countsFit_later fits settled)
      refine ⟨finalRequests, finalInventory, ?_, settled.trans settledRest⟩
      unfold exchangeEach
      rw [exchanged]
      exact rest

/-- Whatever a queue names that can be compiled can be used from the start. -/
theorem compile_usable {middle : Engine τ} {queue : List Operation}
    {compiled : List CompiledRequest} (spare : engine.settings.overrides.SparePlayer)
    (plain : ∀ operation ∈ queue, operation.rearranges)
    (succeeds : engine.compile queue = (.ok compiled, middle)) :
    ∀ location ∈ allSlots queue, Compile.Usable engine.context .empty location := by
  obtain ⟨free, reached, -⟩ := compile_ok.1 succeeds
  have whole := engine.settings.policy.flatten_group queue
  have usable := Compile.groups_usable spare (whole.symm ▸ plain) reached
    fun _ held => by cases held
  rw [whole] at usable
  exact usable

/-- After each beginning of a queue, the predicted counts fit into an acknowledgement. -/
def PredictsSmallCounts (engine : Engine τ) (queue : List Operation) : Prop :=
  ∀ first, first <+: queue → ∀ compiled overlay,
    Compile.group engine.context engine.requests.nextId .empty first = .ok (compiled, overlay) →
    ∀ location slot, overlay.slot? location = some slot → slot.item.amount ≤ 255

theorem predictsSmallCounts_iff {queue : List Operation}
    (spare : engine.settings.overrides.SparePlayer)
    (plain : ∀ operation ∈ queue, operation.rearranges)
    (usable : ∀ location ∈ allSlots queue, Compile.Usable engine.context .empty location) :
    engine.PredictsSmallCounts queue ↔ Compile.CountsFit engine.inventory.itemOrEmpty queue := by
  have predicted (first : List Operation) (beginning : first <+: queue)
      (compiled : CompiledRequest) (final : Overlay)
      (grouped : Compile.group engine.context engine.requests.nextId .empty first =
        .ok (compiled, final)) (location : Location) :
      final.slot? location = none ∧ location ∉ allSlots first ∨
        ∃ slot, final.slot? location = some slot ∧ location ∈ allSlots first ∧
          slot.item = effects first engine.inventory.itemOrEmpty location := by
    have rearranged := Compile.group_rearranged spare
      (fun operation member => plain operation (beginning.subset member)) grouped
    have held := rearranged.holds location
    unfold Overlay.holds at held
    have reached := congrFun rearranged.items location
    unfold Overlay.itemAt Overlay.slotAt at reached
    cases found : final.slot? location with
    | none =>
        rw [found] at held
        left
        exact ⟨rfl, fun named => absurd (held.2 (Or.inr named)) (by simp)⟩
    | some slot =>
        rw [found] at held reached
        right
        exact ⟨slot, rfl, (held.1 rfl).resolve_left (by simp [Overlay.empty]), reached⟩
  constructor
  · intro small first beginning location named
    obtain ⟨compiled, final, grouped⟩ := @Compile.group_succeeds engine.context .empty first
      engine.requests.nextId (fun operation member => plain operation (beginning.subset member))
      fun other member => by
        obtain ⟨operation, listed, names⟩ := List.mem_flatMap.1 member
        exact usable other (List.mem_flatMap.2 ⟨operation, beginning.subset listed, names⟩)
    rcases predicted first beginning compiled final grouped location with
      ⟨-, absent⟩ | ⟨slot, found, -, reached⟩
    · exact absurd named absent
    · rw [← reached]
      exact small first beginning compiled final grouped location slot found
  · intro fits first beginning compiled final grouped location slot found
    rcases predicted first beginning compiled final grouped location with
      ⟨none, -⟩ | ⟨other, same, named, reached⟩
    · rw [none] at found
      cases found
    · rw [found] at same
      cases same
      rw [reached]
      exact fits first beginning location named

/-- Committed all at once or one after another, operations that move items about bring the
client to the same items in the same slots, whatever the stacks are called. A packet that is
longer than `few` allows would use an id twice. -/
theorem batch_agrees_with_single_commits {engine middle : Engine τ} {server other : Server}
    {queue : List Operation} {compiled : List CompiledRequest}
    (turn number otherTurn otherNumber : Nat)
    (spare : engine.settings.overrides.SparePlayer) (connected : engine.connected)
    (faithful : server.IsFaithful engine.settings.overrides engine.containers.openContainer?)
    (otherFaithful : other.IsFaithful engine.settings.overrides engine.containers.openContainer?)
    (plain : ∀ operation ∈ queue, operation.rearranges)
    (succeeds : engine.compile queue = (.ok compiled, middle))
    (few : compiled.length ≤ 2 ^ 31) (small : engine.PredictsSmallCounts queue) :
    ∃ batch single,
      exchange server turn number engine queue = .ok batch ∧
        exchangeEach other otherTurn otherNumber engine queue = .ok single ∧
        (∀ location, (batch.inventory.item? location).map Item.unstacked =
          (single.inventory.item? location).map Item.unstacked) ∧
        ∀ window, batch.inventory.knows window = single.inventory.knows window := by
  have usable := compile_usable spare plain succeeds
  have fits := (predictsSmallCounts_iff spare plain usable).1 small
  obtain ⟨requests, inventory, batched, settled⟩ := exchange_settled turn number spare connected
    faithful plain succeeds (requestIds_nodup succeeds few) fits
  obtain ⟨otherRequests, otherInventory, singly, settledEach⟩ := exchangeEach_settled otherTurn
    otherNumber spare connected otherFaithful plain usable fits
  exact ⟨_, _, batched, singly, settled.unique settledEach⟩

/-- A named stack and a plain one, with an open chest beside them. -/
def tidying : Engine Unit where
  settings := { policy := .ofKinds [.swap] }
  inventory := ((Inventory.empty.set ⟨0, 9⟩
    { typeId := 3, count := 64, stackId := 7, userData := some (DisplayName.write none "Ore") }).set
      ⟨0, 10⟩ { typeId := 4, count := 2, stackId := 8 }).set ⟨2, 0⟩ .empty
  containers := { state := .opened ⟨2, ContainerType.chest, default, -1⟩ }

def tidyingQueue : List Operation :=
  [.move ⟨0, 9⟩ ⟨2, 0⟩ 32, .swap ⟨2, 0⟩ ⟨0, 10⟩, .move ⟨0, 10⟩ ⟨0, 9⟩ 16, .drop ⟨0, 10⟩ 1]

theorem tidying_agrees :
    ∃ batch single,
      exchange (slotwiseServer [] tidying.containers.openContainer?) 0 0 tidying tidyingQueue =
          .ok batch ∧
        exchangeEach (slotwiseServer [] tidying.containers.openContainer?) 5 0 tidying
          tidyingQueue = .ok single ∧
        (∀ location, (batch.inventory.item? location).map Item.unstacked =
          (single.inventory.item? location).map Item.unstacked) ∧
        ∀ window, batch.inventory.knows window = single.inventory.knows window := by
  have compiles : tidying.compile tidyingQueue =
      (.ok (tidying.requestsFor tidyingQueue), (tidying.compile tidyingQueue).2) :=
    compile_requestsFor (by decide +kernel)
  have plain : ∀ operation ∈ tidyingQueue, operation.rearranges := by decide
  have usable := compile_usable RoleOverrides.sparePlayer_nil plain compiles
  have small : ∀ count ≤ 4, ∀ location ∈ allSlots (tidyingQueue.take count),
      (effects (tidyingQueue.take count) tidying.inventory.itemOrEmpty location).amount ≤ 255 := by
    decide +kernel
  have fits : Compile.CountsFit tidying.inventory.itemOrEmpty tidyingQueue := by
    intro first beginning
    rw [List.prefix_iff_eq_take.1 beginning]
    exact small first.length beginning.length_le
  exact batch_agrees_with_single_commits 0 0 5 0 RoleOverrides.sparePlayer_nil rfl
    (slotwiseServer_isFaithful _ _) (slotwiseServer_isFaithful _ _) plain compiles
    (by decide +kernel)
    ((predictsSmallCounts_iff RoleOverrides.sparePlayer_nil plain usable).2 fits)

end Engine

end InventorySync
