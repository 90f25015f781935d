import InventorySync.Proofs.Compile
import Mathlib.Data.List.Induction

/-!
The stack ids under which a transaction names its slots. The first reference to a
slot carries the id that the inventory knows; every later one carries the id of
the request that named the slot last, be it the same request or an earlier one.
The ids that an overlay holds are read off the references so far, and each step
of the compiler keeps it so.
-/

namespace InventorySync

set_option autoImplicit false

/-- What an operation means by one of its references. -/
inductive Naming where
  | slot (location : Location)
  /-- The place where a crafting step makes its result appear. -/
  | output
  deriving DecidableEq, Repr

/-- The slots that an operation names, in the order of its actions and the source
of an action before its target. -/
def Operation.namings : Operation → List Naming
  | .move source target _ => [.slot source, .slot target]
  | .swap first second => [.slot first, .slot second]
  | .drop source _ => [.slot source]
  | .creativeFetch _ target _ _ => [.output, .slot target]
  | .anvilRename location _ _ =>
      [.slot location, .slot UiSlot.anvilInput, .slot UiSlot.anvilInput, .output, .slot location]
  | .loomCombine _ patternItem banner dye _ =>
      [.slot banner, .slot UiSlot.loomInput, .slot dye, .slot UiSlot.loomDye] ++
        patternItem.toList.flatMap
          (fun location => [.slot location, .slot UiSlot.loomMaterial]) ++
        [.slot UiSlot.loomInput, .slot UiSlot.loomDye, .output, .slot banner] ++
        patternItem.toList.flatMap
          (fun location => [.slot UiSlot.loomMaterial, .slot location])

/-- A reference in a request, with what it was meant for. -/
structure Mention where
  requestId : Int32
  naming : Naming
  reference : SlotRef
  deriving DecidableEq, Repr

def mentions (requestId : Int32) (namings : List Naming) (references : List SlotRef) :
    List Mention :=
  List.zipWith (Mention.mk requestId) namings references

namespace Mention

/-- The id of each slot, once it was mentioned. -/
def note (present : Location → Int32) (mention : Mention) : Location → Int32 :=
  match mention.naming with
  | .slot location => fun other => if other = location then mention.requestId else present other
  | .output => present

/-- The request that mentioned a slot last. -/
def lastRequest? (trace : List Mention) (location : Location) : Option Int32 :=
  (trace.reverse.find? fun mention => mention.naming = .slot location).map Mention.requestId

/-- The reference addresses the slot that it was meant for, under the id that the
slot has at this moment. -/
def Fits (context : Compile.Context) (present : Location → Int32) (mention : Mention) : Prop :=
  match mention.naming with
  | .slot location =>
      Role.resolve context.overrides context.opened location = .ok mention.reference.role ∧
        mention.reference.slot = location.slot ∧
        mention.reference.stackId = present location
  | .output =>
      mention.reference = ⟨.createdOutput, UiSlot.createdOutput.slot, mention.requestId⟩

/-- Every reference of a row fits, the ids being those that the row gave so far. -/
def Chained (context : Compile.Context) : (Location → Int32) → List Mention → Prop
  | _, [] => True
  | present, mention :: later =>
      mention.Fits context present ∧ Chained context (mention.note present) later

variable {context : Compile.Context}

theorem chained_append (present : Location → Int32) (first second : List Mention) :
    Chained context present (first ++ second) ↔
      Chained context present first ∧ Chained context (first.foldl note present) second := by
  induction first generalizing present with
  | nil => simp [Chained]
  | cons mention later induction =>
      simp only [List.cons_append, Chained, List.foldl_cons, induction, and_assoc]

theorem note_eq (present : Location → Int32) (mention : Mention) (location : Location) :
    mention.note present location =
      if mention.naming = .slot location then mention.requestId else present location := by
  unfold note
  cases meant : mention.naming with
  | output => simp
  | slot named => simp [eq_comm]

theorem foldl_note (present : Location → Int32) (trace : List Mention) (location : Location) :
    trace.foldl note present location = (lastRequest? trace location).getD (present location) := by
  induction trace using List.reverseRecOn with
  | nil => rfl
  | append_singleton trace mention induction =>
      rw [List.foldl_append, List.foldl_cons, List.foldl_nil, note_eq, induction]
      unfold lastRequest?
      rw [List.reverse_append, List.reverse_singleton, List.singleton_append, List.find?_cons]
      by_cases meant : mention.naming = .slot location
      · simp [meant]
      · simp [meant]

theorem fits_of_chained {present : Location → Int32} {before after : List Mention}
    {mention : Mention} (chained : Chained context present (before ++ mention :: after)) :
    mention.Fits context fun location =>
      (lastRequest? before location).getD (present location) := by
  have tail := ((chained_append present before (mention :: after)).1 chained).2
  have ids : before.foldl note present =
      fun location => (lastRequest? before location).getD (present location) :=
    funext fun location => foldl_note present before location
  rw [← ids]
  exact tail.1

end Mention

namespace Compile

section Steps

variable {context : Context} {requestId : Int32}

/-- The references mean these slots, fit them, and account for every id that
changed between two overlays. -/
structure Traced (context : Context) (requestId : Int32) (namings : List Naming)
    (references : List SlotRef) (before after : Overlay) : Prop where
  aligned : namings.length = references.length
  chained : Mention.Chained context (before.stackIdAt context.inventory)
    (mentions requestId namings references)
  noted : after.stackIdAt context.inventory =
    (mentions requestId namings references).foldl Mention.note
      (before.stackIdAt context.inventory)

namespace Traced

variable {first second : List Naming} {left right : List SlotRef} {before between after : Overlay}

theorem append (head : Traced context requestId first left before between)
    (tail : Traced context requestId second right between after) :
    Traced context requestId (first ++ second) (left ++ right) before after := by
  have split : mentions requestId (first ++ second) (left ++ right) =
      mentions requestId first left ++ mentions requestId second right :=
    List.zipWith_append head.aligned
  refine ⟨?_, ?_, ?_⟩
  · rw [List.length_append, List.length_append, head.aligned, tail.aligned]
  · rw [split, Mention.chained_append, ← head.noted]
    exact ⟨head.chained, tail.chained⟩
  · rw [split, List.foldl_append, ← head.noted]
    exact tail.noted

theorem silent (kept : after.stackIdAt context.inventory = before.stackIdAt context.inventory) :
    Traced context requestId [] [] before after :=
  ⟨rfl, trivial, kept⟩

theorem keeping (traced : Traced context requestId first left before between)
    (kept : after.stackIdAt context.inventory = between.stackIdAt context.inventory) :
    Traced context requestId first left before after :=
  ⟨traced.aligned, traced.chained, kept.trans traced.noted⟩

theorem output (overlay : Overlay) :
    Traced context requestId [.output]
      [⟨.createdOutput, UiSlot.createdOutput.slot, requestId⟩] overlay overlay :=
  ⟨rfl, ⟨rfl, trivial⟩, rfl⟩

end Traced

theorem refer_traced {location : Location} {reference : SlotRef} {draft after : Draft}
    (named : refer context requestId location draft = .ok (reference, after)) :
    after.actions = draft.actions ∧
      Traced context requestId [.slot location] [reference] draft.overlay after.overlay := by
  obtain ⟨role, resolved, -, rfl, rfl⟩ := refer_ok.1 named
  refine ⟨rfl, rfl, ⟨⟨resolved, rfl, rfl⟩, trivial⟩, ?_⟩
  funext other
  unfold Overlay.stackIdAt Draft.naming Overlay.setStackId
  rw [Overlay.slotAt_setSlot]
  by_cases same : other = location
  · simp [mentions, Mention.note, same]
  · simp [mentions, Mention.note, same]

/-- The step appends actions whose references are traced. -/
def Emits (context : Context) (requestId : Int32) (namings : List Naming)
    (before after : Draft) : Prop :=
  ∃ emitted, after.actions = before.actions ++ emitted ∧
    Traced context requestId namings (emitted.flatMap StackAction.references)
      before.overlay after.overlay

namespace Emits

variable {first second : List Naming} {before between after : Draft}

theorem append (head : Emits context requestId first before between)
    (tail : Emits context requestId second between after) :
    Emits context requestId (first ++ second) before after := by
  obtain ⟨left, leftActions, leftTraced⟩ := head
  obtain ⟨right, rightActions, rightTraced⟩ := tail
  refine ⟨left ++ right, ?_, ?_⟩
  · rw [rightActions, leftActions, List.append_assoc]
  · rw [List.flatMap_append]
    exact leftTraced.append rightTraced

theorem silent (actions : after.actions = before.actions)
    (kept : after.overlay.stackIdAt context.inventory =
      before.overlay.stackIdAt context.inventory) :
    Emits context requestId [] before after :=
  ⟨[], by rw [actions, List.append_nil], .silent kept⟩

/-- One action that uses the references of its step. -/
theorem single (action : StackAction) {namings : List Naming} {before after : Draft}
    (actions : after.actions = before.actions ++ [action])
    (traced : Traced context requestId namings action.references before.overlay after.overlay) :
    Emits context requestId namings before after := by
  refine ⟨[action], actions, ?_⟩
  rw [List.flatMap_singleton]
  exact traced

end Emits

variable {draft after : Draft}

theorem move_emits {source target : Location} {count : UInt8} {answer : Unit}
    (moved : move context requestId source target count draft = .ok (answer, after)) :
    Emits context requestId [.slot source, .slot target] draft after := by
  unfold move at moved
  simp only [bind_ok, emit_ok, onOverlay_ok] at moved
  obtain ⟨_, _, first, _, _, second, _, _, rfl, _, transferred, rfl⟩ := moved
  obtain ⟨firstActions, firstTraced⟩ := refer_traced first
  obtain ⟨secondActions, secondTraced⟩ := refer_traced second
  refine .single (.place count _ _) (by rw [secondActions, firstActions]) ?_
  exact (firstTraced.append secondTraced).keeping
    (Overlay.keepsStackIds_transfer context.inventory source target count _ _ _ transferred)

theorem swap_emits {first second : Location} {answer : Unit}
    (swapped : swap context requestId first second draft = .ok (answer, after)) :
    Emits context requestId [.slot first, .slot second] draft after := by
  unfold swap at swapped
  simp only [bind_ok, emit_ok, onOverlay_ok] at swapped
  obtain ⟨_, _, left, _, _, right, _, _, rfl, _, exchanged, rfl⟩ := swapped
  obtain ⟨leftActions, leftTraced⟩ := refer_traced left
  obtain ⟨rightActions, rightTraced⟩ := refer_traced right
  refine .single (.swap _ _) (by rw [rightActions, leftActions]) ?_
  exact (leftTraced.append rightTraced).keeping
    (Overlay.keepsStackIds_swap context.inventory first second _ _ _ exchanged)

theorem drop_emits {source : Location} {count : UInt8} {answer : Unit}
    (dropped : drop context requestId source count draft = .ok (answer, after)) :
    Emits context requestId [.slot source] draft after := by
  unfold drop at dropped
  simp only [bind_ok, emit_ok, onOverlay_ok, pure_ok] at dropped
  obtain ⟨_, _, named, _, _, rfl, _, _, ⟨_, taken, rfl⟩, -, rfl⟩ := dropped
  obtain ⟨actions, traced⟩ := refer_traced named
  refine .single (.drop count _ context.dropRandomly) (by rw [actions]) ?_
  exact traced.keeping (Overlay.keepsStackIds_take context.inventory source count _ _ _ taken)

theorem consume_emits {location : Location} {count : UInt8} {item : Item}
    (consumed : consume context requestId location count draft = .ok (item, after)) :
    Emits context requestId [.slot location] draft after := by
  unfold consume at consumed
  simp only [bind_ok, emit_ok, onOverlay_ok] at consumed
  obtain ⟨_, _, named, _, _, rfl, _, taken, rfl⟩ := consumed
  obtain ⟨actions, traced⟩ := refer_traced named
  refine .single (.consume count _) (by rw [actions]) ?_
  exact traced.keeping (Overlay.keepsStackIds_take context.inventory location count _ _ _ taken)

theorem placeOutput_emits {item : Item} {target : Location} {count : UInt8} {answer : Unit}
    (placed : placeOutput context requestId item target count draft = .ok (answer, after)) :
    Emits context requestId [.output, .slot target] draft after := by
  unfold placeOutput at placed
  simp only [bind_ok, emit_ok, onOverlay_ok, referOutput_ok] at placed
  obtain ⟨_, _, ⟨rfl, rfl⟩, _, _, named, _, _, rfl, _, stacked, rfl⟩ := placed
  obtain ⟨actions, traced⟩ := refer_traced named
  refine .single (.place count _ _) (by rw [actions]) ?_
  exact ((Traced.output _).append traced).keeping
    (Overlay.keepsStackIds_place context.inventory target item _ _ _ stacked)

theorem itemOf_emits {location : Location} {item : Item}
    (found : itemOf context location draft = .ok (item, after)) :
    Emits context requestId [] draft after := by
  obtain ⟨-, -, -, rfl⟩ := itemOf_ok.1 found
  refine .silent rfl ?_
  funext other
  unfold Overlay.stackIdAt
  rw [Overlay.slotAt_setSlot]
  split
  · next same => rw [same]
  · rfl

theorem emit_emits {action : StackAction} {answer : Unit} (plain : action.references = [])
    (emitted : emit action draft = .ok (answer, after)) :
    Emits context requestId [] draft after := by
  rw [emit_ok] at emitted
  subst emitted
  refine .single action rfl ?_
  rw [plain]
  exact .silent rfl

theorem modify_emits {change : Draft → Draft} {answer : Unit}
    (actions : (change draft).actions = draft.actions)
    (overlay : (change draft).overlay = draft.overlay)
    (changed : (modify change : Action Unit) draft = .ok (answer, after)) :
    Emits context requestId [] draft after := by
  rw [modify_ok] at changed
  subst changed
  exact .silent actions (by rw [overlay])

theorem declare_emits {location : Location} {expectation : Expectation} {answer : Unit}
    (declared : declare location expectation draft = .ok (answer, after)) :
    Emits context requestId [] draft after :=
  modify_emits rfl rfl declared

theorem creativeFetch_emits {source : CreativeSource} {target : Location} {count : UInt8}
    {expectation : Option Expectation} {answer : Unit}
    (fetched : creativeFetch context requestId source target count expectation draft =
      .ok (answer, after)) :
    Emits context requestId [.output, .slot target] draft after := by
  unfold creativeFetch at fetched
  simp only [bind_ok, lift_ok] at fetched
  obtain ⟨_, _, ⟨-, rfl⟩, _, _, crafted, _, _, declared, placed⟩ := fetched
  exact ((emit_emits rfl crafted).append (declare_emits declared)).append
    (placeOutput_emits placed)

theorem anvilRename_emits {location : Location} {name : String}
    {expectation : Option Expectation} {answer : Unit}
    (renamed : anvilRename context requestId location name expectation draft =
      .ok (answer, after)) :
    Emits context requestId
      (Operation.anvilRename location name expectation).namings draft after := by
  unfold anvilRename at renamed
  simp only [bind_ok, lift_ok, get_ok] at renamed
  obtain ⟨_, _, ⟨-, rfl⟩, _, _, found, _, _, moved, _, _, ⟨rfl, rfl⟩, _, _, crafted, _, _, noted,
    _, _, consumed, _, _, placed, declared⟩ := renamed
  have brought := (itemOf_emits found).append (move_emits moved)
  have worked := ((emit_emits rfl crafted).append (modify_emits rfl rfl noted)).append
    (consume_emits consumed)
  have finished := (brought.append worked).append (placeOutput_emits placed)
  cases expectation with
  | none =>
      obtain ⟨-, rfl⟩ := pure_ok.1 declared
      exact finished
  | some expected => exact finished.append (declare_emits declared)

theorem loomCombine_emits {pattern : String} {patternItem : Option Location}
    {banner dye : Location} {expectation : Expectation} {answer : Unit}
    (combined : loomCombine context requestId pattern patternItem banner dye expectation draft =
      .ok (answer, after)) :
    Emits context requestId
      (Operation.loomCombine pattern patternItem banner dye expectation).namings draft after := by
  unfold loomCombine at combined
  cases patternItem with
  | none =>
      simp only [bind_ok, lift_ok] at combined
      obtain ⟨_, _, ⟨-, rfl⟩, _, _, bannerFound, _, _, dyeFound, _, _, bannerIn, _, _, dyeIn,
        _, _, crafted, _, _, bannerUsed, _, _, dyeUsed, _, _, placed, declared⟩ := combined
      have checked : Emits context requestId [] draft _ :=
        (itemOf_emits bannerFound).append (itemOf_emits dyeFound)
      have brought := (checked.append (move_emits bannerIn)).append (move_emits dyeIn)
      have worked := ((emit_emits rfl crafted).append (consume_emits bannerUsed)).append
        (consume_emits dyeUsed)
      have finished := (brought.append worked).append (placeOutput_emits placed)
      exact finished.append (declare_emits declared)
  | some location =>
      simp only [bind_ok, lift_ok] at combined
      obtain ⟨_, _, ⟨-, rfl⟩, _, _, bannerFound, _, _, dyeFound, _, _, bannerIn, _, _, dyeIn,
        _, _, patternFound, _, _, patternIn, _, _, crafted, _, _, bannerUsed, _, _, dyeUsed,
        _, _, placed, _, _, patternOut, declared⟩ := combined
      have checked : Emits context requestId [] draft _ :=
        (itemOf_emits bannerFound).append (itemOf_emits dyeFound)
      have brought := (checked.append (move_emits bannerIn)).append (move_emits dyeIn)
      have lent := (brought.append (itemOf_emits patternFound)).append (move_emits patternIn)
      have worked := ((emit_emits rfl crafted).append (consume_emits bannerUsed)).append
        (consume_emits dyeUsed)
      have finished := (lent.append worked).append (placeOutput_emits placed)
      exact (finished.append (move_emits patternOut)).append (declare_emits declared)

theorem operation_emits {step : Operation} {answer : Unit}
    (compiled : operation context requestId step draft = .ok (answer, after)) :
    Emits context requestId step.namings draft after := by
  cases step with
  | move source target count => exact move_emits compiled
  | swap first second => exact swap_emits compiled
  | drop source count => exact drop_emits compiled
  | creativeFetch source target count expectation => exact creativeFetch_emits compiled
  | anvilRename location name expectation => exact anvilRename_emits compiled
  | loomCombine pattern patternItem banner dye expectation => exact loomCombine_emits compiled

end Steps

section Runs

variable {context : Context} {requestId : Int32}

theorem forM_emits {operations : List Operation} {draft after : Draft}
    (compiled : operations.forM (operation context requestId) draft = .ok ((), after)) :
    Emits context requestId (operations.flatMap Operation.namings) draft after := by
  induction operations generalizing draft with
  | nil =>
      obtain ⟨-, rfl⟩ := pure_ok.1 compiled
      exact .silent rfl rfl
  | cons step later induction =>
      obtain ⟨between, head, tail⟩ := forM_cons_ok.1 compiled
      exact (operation_emits head).append (induction tail)

theorem group_traced {operations : List Operation} {overlay after : Overlay}
    {compiled : CompiledRequest}
    (succeeds : group context requestId overlay operations = .ok (compiled, after)) :
    Traced context requestId (operations.flatMap Operation.namings)
      (compiled.request.actions.flatMap StackAction.references) overlay after := by
  obtain ⟨draft, ran, rfl, rfl⟩ := group_ok.1 succeeds
  obtain ⟨emitted, actions, traced⟩ := forM_emits ran
  rw [List.nil_append] at actions
  change Traced context requestId _ (draft.actions.flatMap StackAction.references) overlay _
  rw [actions]
  exact traced

/-- The references of a request next to what the operations behind it mean by them. -/
def requestMentions (operations : List Operation) (compiled : CompiledRequest) : List Mention :=
  mentions compiled.request.id (operations.flatMap Operation.namings)
    (compiled.request.actions.flatMap StackAction.references)

def packetMentions (operations : List (List Operation)) (compiled : List CompiledRequest) :
    List Mention :=
  (List.zipWith requestMentions operations compiled).flatten

theorem groups_chained {operations : List (List Operation)} {overlay : Overlay}
    {compiled : List CompiledRequest} {free : Int32}
    (succeeds : groups context requestId overlay operations = (.ok compiled, free)) :
    List.Forall₂ (fun members entry =>
        (members.flatMap Operation.namings).length =
          (entry.request.actions.flatMap StackAction.references).length) operations compiled ∧
      Mention.Chained context (overlay.stackIdAt context.inventory)
        (packetMentions operations compiled) := by
  induction operations generalizing requestId overlay compiled with
  | nil =>
      obtain ⟨rfl, -⟩ := groups_nil_ok.1 succeeds
      exact ⟨.nil, trivial⟩
  | cons members later induction =>
      obtain ⟨first, between, others, head, tail, rfl⟩ := groups_cons_ok.1 succeeds
      obtain ⟨aligned, chained⟩ := induction tail
      have traced := group_traced head
      refine ⟨.cons traced.aligned aligned, ?_⟩
      change Mention.Chained context _
        (requestMentions members first ++ packetMentions later others)
      unfold requestMentions
      rw [group_request_id head, Mention.chained_append, ← traced.noted]
      exact ⟨traced.chained, chained⟩

end Runs

end Compile

namespace Engine

variable {τ : Type}

/-- The references of a packet that was compiled from a queue, and its ids. -/
structure ChainsStackIds (engine : Engine τ) (queue : List Operation)
    (compiled : List CompiledRequest) : Prop where
  /-- Each reference is meant by an operation of its request, and the other way round. -/
  aligned : List.Forall₂ (fun members entry =>
      (members.flatMap Operation.namings).length =
        (entry.request.actions.flatMap StackAction.references).length)
    (engine.settings.policy.group queue) compiled
  /-- A slot is named under the id of the request that named it last, or under the
  id that the inventory has for it. -/
  chained : ∀ before mention later,
    Compile.packetMentions (engine.settings.policy.group queue) compiled =
      before ++ mention :: later →
    mention.Fits engine.context fun location =>
      (Mention.lastRequest? before location).getD
        (((engine.inventory.item? location).map Item.stackId).getD 0)
  ids : ∀ (position : Nat) entry, compiled[position]? = some entry →
    entry.request.id = Compile.idAt engine.requests.nextId position
  descending : ∀ (position : Nat) entry, compiled[position]? = some entry →
    -2 ^ 31 ≤ engine.requests.nextId.toInt - 2 * position →
    entry.request.id.toInt = engine.requests.nextId.toInt - 2 * position

theorem stack_ids_chain_over_requests {engine after : Engine τ} {queue : List Operation}
    {compiled : List CompiledRequest} (succeeds : engine.compile queue = (.ok compiled, after)) :
    engine.ChainsStackIds queue compiled := by
  obtain ⟨free, grouped, rfl⟩ := compile_ok.1 succeeds
  obtain ⟨aligned, chained⟩ := Compile.groups_chained grouped
  obtain ⟨-, -, ids⟩ := Compile.groups_request_ids grouped
  refine ⟨aligned, ?_, ids, ?_⟩
  · intro before mention later split
    rw [split] at chained
    have fits := Mention.fits_of_chained chained
    have present : (Overlay.empty.stackIdAt engine.context.inventory) =
        fun location => ((engine.inventory.item? location).map Item.stackId).getD 0 := by
      funext location
      change (engine.inventory.itemOrEmpty location).stackId = _
      unfold Inventory.itemOrEmpty
      cases engine.inventory.item? location <;> rfl
    rw [present] at fits
    exact fits
  · intro position entry found room
    rw [ids position entry found]
    exact Compile.toInt_idAt room

/-- A banner is moved and then dyed in a request of its own. -/
def dyeing : Engine Unit where
  inventory := (Inventory.empty.set ⟨0, 9⟩ { typeId := 3, count := 1, stackId := 7 }).set ⟨0, 10⟩
    { typeId := 4, count := 2, stackId := 8 }
  containers := { state := .opened ⟨2, ContainerType.loom, default, -1⟩ }

def dyeingQueue : List Operation :=
  [.move ⟨0, 9⟩ ⟨0, 20⟩ 1, .loomCombine "bo" none ⟨0, 20⟩ ⟨0, 10⟩ {}]

theorem dyeing_chains_stack_ids :
    dyeing.compile dyeingQueue =
        (.ok (dyeing.requestsFor dyeingQueue), (dyeing.compile dyeingQueue).2) ∧
      ((dyeing.requestsFor dyeingQueue).map fun entry =>
        (entry.request.actions.flatMap StackAction.references).map SlotRef.stackId) =
          [[7, 0], [-1, 0, 8, 0, -3, -3, -3, -3]] ∧
      dyeing.ChainsStackIds dyeingQueue (dyeing.requestsFor dyeingQueue) := by
  have compiles : dyeing.compile dyeingQueue =
      (.ok (dyeing.requestsFor dyeingQueue), (dyeing.compile dyeingQueue).2) :=
    compile_requestsFor (by decide +kernel)
  exact ⟨compiles, by decide +kernel, stack_ids_chain_over_requests compiles⟩

end Engine

end InventorySync
