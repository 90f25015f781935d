import InventorySync.Proofs.BatchEffect
import InventorySync.Proofs.Conservation
import InventorySync.Proofs.ForgottenWindows
import InventorySync.Proofs.Registration

/-!
What becomes of an item from the creative list. Its type is declared or known from the list, and
is kept with the slot, so that the answer to the request finds it whatever the slot held before:
the item that is acknowledged there has this type, the count and the stack id that the server
names, and the user data that was declared. It is as good as none exactly if the type is that of
air, which neither a declaration nor the list is kept from naming.
-/

namespace InventorySync

set_option autoImplicit false

/-- The item type that a source stands for: its own, or that of its entry in the list. -/
def CreativeSource.itemType? (index : CreativeIndex) : CreativeSource → Option Int32
  | .networkId id => index.itemType? id
  | .itemType kind => some kind

namespace Compile

variable {context : Context} {requestId : Int32} {source : CreativeSource} {target : Location}
  {count : UInt8} {expectation : Option Expectation} {overlay final : Overlay}

theorem creativeEntry_ok {declared : Option Int32} {entry : UInt32} {kind : Int32}
    (found : creativeEntry context source declared = .ok (entry, kind)) :
    (declared <|> source.itemType? context.creative) = some kind := by
  cases source with
  | networkId id =>
      unfold creativeEntry at found
      simp only at found
      split at found
      · next chosen known =>
          cases found
          exact known
      · cases found
  | itemType own =>
      unfold creativeEntry at found
      simp only at found
      split at found
      · cases found
        cases declared <;> rfl
      · cases found

/-- The slot of a crafted item is the last that gets a role, so it keeps it. -/
theorem placeOutput_window {item : Item} {draft after : Draft} {answer : Unit}
    (placed : placeOutput context requestId item target count draft = .ok (answer, after)) :
    ∃ role, Role.resolve context.overrides context.opened target = .ok role ∧
      after.windows.window? role = some target.window := by
  unfold placeOutput at placed
  simp only [bind_ok, emit_ok, onOverlay_ok, referOutput_ok] at placed
  obtain ⟨_, _, ⟨-, rfl⟩, _, _, referred, _, _, rfl, _, -, rfl⟩ := placed
  obtain ⟨role, resolved, -, -, rfl⟩ := refer_ok.1 referred
  refine ⟨role, resolved, (RoleWindows.window?_note _ _ _ _).trans ?_⟩
  have own : ¬(role = .combinedHotbarAndInventory ∧ (role = .hotbar ∨ role = .inventory)) := by
    rintro ⟨rfl, shared⟩
    simp at shared
  rw [if_neg own, if_pos rfl]

/-- What a request for nothing but an item of the creative list knows of the slot that the item
is for: a role, and a prediction of the item with its type declared. -/
structure ExpectsFetch (context : Context) (source : CreativeSource) (target : Location)
    (expectation : Option Expectation) (entry : CompiledRequest) (kind : Int32) : Prop where
  declares : ((expectation.getD {}).typeId <|> source.itemType? context.creative) = some kind
  role : ∃ role, Role.resolve context.overrides context.opened target = .ok role ∧
    entry.windows.acknowledged? role.number target.slot = some target
  predicted : ∃ template, entry.predictions.find? target =
    some ⟨some template, some { expectation.getD {} with typeId := some kind }⟩

theorem group_expectsFetch {entry : CompiledRequest}
    (succeeds : group context requestId overlay
      [.creativeFetch source target count expectation] = .ok (entry, final)) :
    ∃ kind, ExpectsFetch context source target expectation entry kind := by
  obtain ⟨draft, performed, rfl, -⟩ := group_ok.1 succeeds
  obtain ⟨_, fetched, ended⟩ := forM_cons_ok.1 performed
  cases forM_nil_ok.1 ended
  change creativeFetch context requestId source target count expectation { overlay } = _ at fetched
  unfold creativeFetch at fetched
  simp only [bind_ok, lift_ok, emit_ok] at fetched
  obtain ⟨⟨number, kind⟩, _, ⟨found, rfl⟩, _, _, rfl, _, _, declared, placed⟩ := fetched
  obtain ⟨role, resolved, noted⟩ := placeOutput_window placed
  have arranges := placeOutput_arranges placed
  unfold declare at declared
  rw [← modify_ok.1 declared] at arranges
  have touched (location : Location) : location ∈ draft.touched ↔ location = target := by
    rw [arranges.touched]
    simp
  have held : ∀ location ∈ draft.touched, draft.overlay.holds location := by
    intro location member
    rw [arranges.holds, (touched location).1 member]
    exact Or.inr (List.mem_singleton_self target)
  refine ⟨kind, creativeEntry_ok found, ⟨role, resolved, ?_⟩,
    draft.items context.inventory target, ?_⟩
  · change draft.windows.acknowledged? role.number target.slot = some target
    unfold RoleWindows.acknowledged?
    rw [Role.ofNumber_number, Option.bind_some, noted]
    rfl
  · rw [Draft.find?_finish held requestId context.inventory, if_pos ((touched target).2 rfl),
      arranges.expectation]
    simp only [if_true]

end Compile

namespace RequestTable

variable {κ : Type} {table : RequestTable κ} {inventory : Inventory} {location : Location}

/-- Answers that say nothing of a slot leave it as it is. -/
theorem settle_rest_kept {batch rest : List StackResponse}
    (silent : ∀ between other others, rest = between ++ other :: others →
      ¬table.Acknowledges inventory (batch ++ between) other location) :
    (settle (batch ++ rest) table inventory).inventory.item? location =
      (settle batch table inventory).inventory.item? location := by
  induction rest using List.reverseRecOn with
  | nil => rw [List.append_nil]
  | append_singleton before response induction =>
      rw [← List.append_assoc, settle_last_kept (silent before response [] rfl)]
      refine induction fun between other others split => ?_
      exact silent between other (others ++ [response]) (by rw [split]; simp)

/-- A batch accepts a waiting request with a single word on a slot, and no later answer of it
says anything of the slot. -/
inductive AnswersOnce (table : RequestTable κ) (inventory : Inventory)
    (batch : List StackResponse) (requestId : Int32) (registration : Registration κ)
    (location : Location) (ack : SlotAck) : Prop where
  | intro {earlier later : List StackResponse} {response : StackResponse}
      (split : batch = earlier ++ response :: later) (asked : response.requestId = requestId)
      (waiting : (settle earlier table inventory).table.find? requestId = some registration)
      (accepted : response.isAccepted)
      (once : response.acksFor registration.windows location = [ack])
      (last : ∀ between other others, later = between ++ other :: others →
        ¬table.Acknowledges inventory (earlier ++ response :: between) other location)

theorem AnswersOnce.of_single {response : StackResponse} {registration : Registration κ}
    {ack : SlotAck} (waiting : table.find? response.requestId = some registration)
    (accepted : response.isAccepted)
    (once : response.acksFor registration.windows location = [ack]) :
    table.AnswersOnce inventory [response] response.requestId registration location ack := by
  have split : [response] = [] ++ response :: [] := rfl
  refine .intro split rfl waiting accepted once ?_
  intro between other others split
  simp at split

/-- What was predicted decides what the slot holds then, and not what it held before. -/
theorem AnswersOnce.item? {batch : List StackResponse} {requestId : Int32}
    {registration : Registration κ} {ack : SlotAck} {template : Item}
    {expectation : Option Expectation}
    (answers : table.AnswersOnce inventory batch requestId registration location ack)
    (predicted : registration.predictions.find? location = some ⟨some template, expectation⟩) :
    (settle batch table inventory).inventory.item? location =
      some (template.reconcile ack expectation) := by
  obtain @⟨earlier, later, response, rfl, rfl, waiting, accepted, once, last⟩ := answers
  have written := registration.apply_leaves location accepted
    (settle earlier table inventory).inventory
  unfold Registration.Leaves Registration.itemAfter at written
  rw [once, predicted] at written
  rw [List.append_cons, settle_rest_kept, settle_last, waiting]
  · exact written
  · intro between other others split
    rw [List.append_assoc]
    exact last between other others split

end RequestTable

/-- The item that one acknowledgement makes of what came from the list. -/
structure FetchedAs (kind : Int32) (expectation : Option Expectation) (ack : SlotAck)
    (item : Item) : Prop where
  typeId : item.typeId = kind
  count : item.count = ack.count.toUInt16
  stackId : item.stackId = ack.stackId
  userData : ∀ declared, (expectation.getD {}).userData = some declared →
    (expectation.getD {}).repairCostDelta = none →
      item.userData = DisplayName.unlessEmpty declared
  air : item.isEmpty ↔ kind = 0

theorem reconcile_fetchedAs {expectation : Option Expectation} {ack : SlotAck}
    (counted : ack.count ≠ 0) (template : Item) (kind : Int32) :
    FetchedAs kind expectation ack
      (template.reconcile ack (some { expectation.getD {} with typeId := some kind })) := by
  unfold Item.reconcile
  rw [if_neg counted]
  constructor
  case typeId => rfl
  case count => rfl
  case stackId => rfl
  case userData =>
    intro declared known unraised
    unfold Expectation.userDataAfter
    simp only [Option.getD_some, known, unraised]
  case air =>
    have present : ack.count.toUInt16 ≠ 0 := by
      intro none
      exact counted (UInt8.toNat_inj.1 (congrArg UInt16.toNat none))
    simp [Item.isEmpty, present]

namespace Engine

variable {τ : Type}

/-- The request at this position fetches an item of this type for a slot. -/
structure FetchesAs (engine : Engine τ) (number : Nat) (queue : List Operation)
    (compiled : List CompiledRequest) (position : Nat) (entry : CompiledRequest)
    (source : CreativeSource) (target : Location) (expectation : Option Expectation)
    (kind : Int32) : Prop where
  declares : ((expectation.getD {}).typeId <|> source.itemType? engine.creative) = some kind
  /-- The answer can name the slot by the role that the request named it by. -/
  named : ∃ role, Role.resolve engine.settings.overrides engine.containers.openContainer? target =
      .ok role ∧ entry.windows.acknowledged? role.number target.slot = some target
  /-- A commit of up to 2³¹ requests leaves this one waiting. -/
  waits : engine.connected → compiled.length ≤ 2 ^ 31 →
    (engine.startCommit number queue).2.1.requests.find? entry.request.id =
      some (entry.registration number position)
  /-- Whatever happened until the answer comes. -/
  arrives : ∀ (waiting : Engine τ) (batch : List StackResponse) (ack : SlotAck),
    waiting.requests.AnswersOnce waiting.inventory batch entry.request.id
        (entry.registration number position) target ack →
      ack.count ≠ 0 →
        ∃ item, (waiting.responsesReceived batch).2.1.inventory.item? target = some item ∧
          FetchedAs kind expectation ack item

/-- The requests of a commit that was sent wait for their answers. -/
theorem find?_startCommit {engine middle : Engine τ} {queue : List Operation}
    {compiled : List CompiledRequest} (succeeds : engine.compile queue = (.ok compiled, middle))
    (connected : engine.connected) (few : compiled.length ≤ 2 ^ 31) (number : Nat)
    {position : Nat} {entry : CompiledRequest} (found : compiled[position]? = some entry) :
    (engine.startCommit number queue).2.1.requests.find? entry.request.id =
      some (entry.registration number position) := by
  have starts := engine.startCommit_starts number queue
  generalize engine.startCommit number queue = start at starts ⊢
  cases starts with
  | nothingQueued empty =>
      subst empty
      cases succeeds
      cases found
  | uncompiled fails =>
      rw [succeeds] at fails
      cases fails
  | sent _ compiles _ =>
      rw [succeeds] at compiles
      cases compiles
      have registered : (middle.registerAll number 0 compiled).1.requests.find? entry.request.id =
          some (entry.registration number (0 + position)) :=
        find?_registerAll (requestIds_nodup succeeds few) found
      rw [Nat.zero_add] at registered
      exact registered
  | unsent _ disconnected =>
      rw [connected] at disconnected
      cases disconnected

/-- An item of the list that a request of its own fetches arrives with the type that was declared
for it or that the list gives, and is air only if that is the type of air. -/
theorem fetched_items_are_of_their_type {engine middle : Engine τ} {queue : List Operation}
    {compiled : List CompiledRequest} {position : Nat} {entry : CompiledRequest}
    {source : CreativeSource} {target : Location} {count : UInt8}
    {expectation : Option Expectation} (number : Nat)
    (succeeds : engine.compile queue = (.ok compiled, middle))
    (alone : (engine.settings.policy.group queue)[position]? =
      some [.creativeFetch source target count expectation])
    (asked : compiled[position]? = some entry) :
    ∃ kind, engine.FetchesAs number queue compiled position entry source target expectation
      kind := by
  obtain ⟨id, before, after, grouped⟩ := compile_members succeeds alone asked
  obtain ⟨kind, fetch⟩ := Compile.group_expectsFetch grouped
  obtain ⟨template, predicted⟩ := fetch.predicted
  refine ⟨kind, ?_⟩
  constructor
  case declares => exact fetch.declares
  case named => exact fetch.role
  case waits =>
    intro connected few
    exact find?_startCommit succeeds connected few number asked
  case arrives =>
    intro waiting batch ack answers counted
    exact ⟨_, answers.item? predicted, reconcile_fetchedAs counted template kind⟩

/-- The slot is taken by other items, and the type is not the one of the list. -/
def restocking : Engine Unit where
  inventory := Inventory.empty.set ⟨0, 9⟩ { typeId := 5, count := 3, stackId := 7 }
  creative := [⟨42, 301⟩]

def restockingQueue : List Operation :=
  [.creativeFetch (.networkId 42) ⟨0, 9⟩ 4
    (some { typeId := some 302, userData := some [("Damage", .int 3)] })]

/-- The server puts four items into the slot, and tells nothing more. -/
def fetchAccepted : StackResponse :=
  ⟨0, -1, [⟨Role.inventory.number, 0, [⟨9, 9, 4, -9, "", 0⟩]⟩]⟩

theorem restocking_arrives_as_declared :
    (∃ entry,
      restocking.compile restockingQueue =
          (.ok (restocking.requestsFor restockingQueue),
            (restocking.compile restockingQueue).2) ∧
        (restocking.settings.policy.group restockingQueue)[0]? = some restockingQueue ∧
        (restocking.requestsFor restockingQueue)[0]? = some entry ∧
        restocking.FetchesAs 3 restockingQueue (restocking.requestsFor restockingQueue) 0 entry
          (.networkId 42) ⟨0, 9⟩
          (some { typeId := some 302, userData := some [("Damage", .int 3)] }) 302) ∧
      (restocking.after [.commit 3 restockingQueue,
          .received (.stackResponses [fetchAccepted])]).inventory.item? ⟨0, 9⟩ = some
        { typeId := 302, count := 4, stackId := -9, userData := some [("Damage", .int 3)] } := by
  refine ⟨?_, by decide +kernel⟩
  have compiles : restocking.compile restockingQueue =
      (.ok (restocking.requestsFor restockingQueue), (restocking.compile restockingQueue).2) :=
    compile_requestsFor (by decide +kernel)
  have asks : (restocking.requestsFor restockingQueue)[0]?.isSome := by decide +kernel
  obtain ⟨entry, asked⟩ := Option.isSome_iff_exists.1 asks
  have alone : (restocking.settings.policy.group restockingQueue)[0]? = some restockingQueue := rfl
  obtain ⟨kind, fetches⟩ := fetched_items_are_of_their_type 3 compiles alone asked
  have declared : 302 = kind := Option.some.inj fetches.declares
  subst declared
  exact ⟨entry, compiles, alone, asked, fetches⟩

/-- An empty slot, and a list with an entry that stands for air. -/
def stocking : Engine Unit where
  inventory := Inventory.empty.set ⟨0, 9⟩ .empty
  creative := [⟨42, 0⟩]

def stockingQueue : List Operation := [.creativeFetch (.networkId 42) ⟨0, 9⟩ 4 none]

/-- Nothing keeps an item of the list from ending as air with a count. -/
theorem fetched_items_can_be_air :
    ¬∀ (engine middle : Engine Unit) (queue : List Operation) (entry : CompiledRequest)
        (source : CreativeSource) (target : Location) (count : UInt8)
        (expectation : Option Expectation) (response : StackResponse) (ack : SlotAck)
        (item : Item),
      engine.settings.policy.group queue = [[.creativeFetch source target count expectation]] →
      engine.compile queue = (.ok [entry], middle) → engine.connected →
      (engine.startCommit 0 queue).2.1.requests.AnswersOnce
        (engine.startCommit 0 queue).2.1.inventory [response] entry.request.id
        (entry.registration 0 0) target ack → ack.count ≠ 0 →
      ((engine.startCommit 0 queue).2.1.responsesReceived [response]).2.1.inventory.item? target =
        some item → item.isEmpty = false := by
  intro present
  have compiles : stocking.compile stockingQueue =
      (.ok (stocking.requestsFor stockingQueue), (stocking.compile stockingQueue).2) :=
    compile_requestsFor (by decide +kernel)
  have single : (stocking.requestsFor stockingQueue).length = 1 := by decide +kernel
  obtain ⟨entry, only⟩ := List.length_eq_one_iff.1 single
  have answered : ((stocking.requestsFor stockingQueue).map fun entry =>
      (entry.request.id, fetchAccepted.acksFor entry.windows ⟨0, 9⟩)) =
        [(fetchAccepted.requestId, [⟨9, 9, 4, -9, "", 0⟩])] := by
    decide +kernel
  have air : (((stocking.startCommit 0 stockingQueue).2.1.responsesReceived
      [fetchAccepted]).2.1.inventory.item? ⟨0, 9⟩) = some { count := 4, stackId := -9 } := by
    decide +kernel
  rw [only] at answered compiles
  obtain ⟨same, once⟩ := Prod.mk.inj (List.singleton_inj.1 answered)
  have waiting : (stocking.startCommit 0 stockingQueue).2.1.requests.find? entry.request.id =
      some (entry.registration 0 0) := find?_startCommit compiles rfl (by simp) 0 rfl
  rw [same] at waiting
  have answers : (stocking.startCommit 0 stockingQueue).2.1.requests.AnswersOnce
      (stocking.startCommit 0 stockingQueue).2.1.inventory [fetchAccepted]
      fetchAccepted.requestId (entry.registration 0 0) ⟨0, 9⟩ _ :=
    .of_single waiting rfl once
  rw [← same] at answers
  have filled := present stocking _ stockingQueue entry (.networkId 42) ⟨0, 9⟩ 4
    none fetchAccepted _ _ rfl compiles rfl answers (by decide) air
  cases filled

end Engine

end InventorySync
