import InventorySync.Proofs.BatchEffect
import InventorySync.Proofs.Rollback
import Mathlib.Data.List.Perm.Basic

/-!
Answers that have nothing to do with each other. The slots that an answer writes are
those that it acknowledges, and what it leaves in one of them depends on what that slot
held and on nothing else. So answers to different requests that write different slots can
come in any order, and in one packet or in many: they are all taken, the mirror and the
table of requests end the same, and each request is told of its own answer.
-/

namespace InventorySync

set_option autoImplicit false

/-- An inventory is known by its windows and the items in them. -/
theorem Inventory.eq_of_known {left right : Inventory}
    (windows : ∀ window, left.knows window ↔ right.knows window)
    (items : ∀ location, left.item? location = right.item? location) : left = right := by
  suffices same : left.window? = right.window? from congrArg Inventory.mk same
  funext window
  have known := windows window
  have held (slot : UInt8) := items ⟨window, slot⟩
  unfold knows at known
  unfold item? at held
  cases here : left.window? window with
  | none =>
      cases there : right.window? window with
      | none => rfl
      | some slots => simp [here, there] at known
  | some slots =>
      cases there : right.window? window with
      | none => simp [here, there] at known
      | some others =>
          simp only [here, there, Option.bind_some] at held
          rw [funext held]

theorem Writes.knows {locations : List Location} {before after : Inventory}
    (writes : Writes locations before after) (window : WindowId) :
    after.knows window ↔
      before.knows window ∨ ∃ location ∈ locations, location.window = window := by
  induction writes with
  | nil inventory => simp
  | @cons location later before after item _ induction =>
      rw [induction, Inventory.knows_set, Bool.or_eq_true, decide_eq_true_iff,
        List.exists_mem_cons_iff, or_comm (a := window = _), or_assoc, eq_comm (a := window)]

theorem StackResponse.mem_acknowledged {response : StackResponse} {windows : RoleWindows}
    {location : Location} :
    location ∈ response.acknowledged windows ↔ response.acksFor windows location ≠ [] := by
  unfold acknowledged acksFor
  simp

namespace RequestTable

variable {κ : Type} (table : RequestTable κ)

/-- The slots that an answer writes: those that it acknowledges under the roles of its request,
if the request waits and was accepted. -/
def targets (response : StackResponse) : List Location :=
  match table.find? response.requestId with
  | some registration =>
      if response.isAccepted then response.acknowledged registration.windows else []
  | none => []

section OneAnswer

variable {table} {response : StackResponse} {location : Location}

theorem knows_applyAnswer (inventory : Inventory) (window : WindowId) :
    (table.applyAnswer inventory response).knows window ↔
      inventory.knows window ∨ ∃ location ∈ table.targets response, location.window = window := by
  unfold applyAnswer targets
  cases table.find? response.requestId with
  | none => simp
  | some registration =>
      by_cases accepted : response.isAccepted
      · simp only [if_pos accepted]
        exact (Writes.apply registration inventory accepted).knows window
      · simp [Registration.apply, accepted]

/-- What an answer leaves in a slot depends on what the slot held, and on nothing else. -/
theorem item?_applyAnswer (table : RequestTable κ) (response : StackResponse)
    (location : Location) :
    ∃ effect : Item → Item, ∀ inventory,
      (table.applyAnswer inventory response).item? location =
        if location ∈ table.targets response then
          some (effect (inventory.itemOrEmpty location))
        else inventory.item? location := by
  unfold applyAnswer targets
  cases table.find? response.requestId with
  | none => exact ⟨id, fun inventory => by simp⟩
  | some registration =>
      by_cases accepted : response.isAccepted
      · refine ⟨fun present => registration.itemAfter location present
          (response.acksFor registration.windows location), fun inventory => ?_⟩
        have left := registration.apply_leaves location accepted inventory
        unfold Registration.Leaves at left
        simp only [if_pos accepted, StackResponse.mem_acknowledged]
        rw [left, ite_not]
      · exact ⟨id, fun inventory => by simp [Registration.apply, accepted]⟩

theorem item?_applyAnswer_elsewhere (inventory : Inventory)
    (elsewhere : location ∉ table.targets response) :
    (table.applyAnswer inventory response).item? location = inventory.item? location := by
  obtain ⟨effect, left⟩ := table.item?_applyAnswer response location
  rw [left, if_neg elsewhere]

/-- Two answers that write different slots do not notice each other. -/
theorem applyAnswer_comm {first second : StackResponse} (inventory : Inventory)
    (apart : (table.targets first).Disjoint (table.targets second)) :
    table.applyAnswer (table.applyAnswer inventory first) second =
      table.applyAnswer (table.applyAnswer inventory second) first := by
  apply Inventory.eq_of_known
  · intro window
    simp only [knows_applyAnswer]
    exact or_right_comm
  · intro location
    obtain ⟨one, leftOne⟩ := table.item?_applyAnswer first location
    obtain ⟨two, leftTwo⟩ := table.item?_applyAnswer second location
    by_cases here : location ∈ table.targets first
    · have there : location ∉ table.targets second := apart here
      have same : (table.applyAnswer inventory second).itemOrEmpty location =
          inventory.itemOrEmpty location :=
        congrArg (Option.getD · Item.empty) (item?_applyAnswer_elsewhere inventory there)
      rw [item?_applyAnswer_elsewhere _ there, leftOne, leftOne, same, if_pos here, if_pos here]
    · have same : (table.applyAnswer inventory first).itemOrEmpty location =
          inventory.itemOrEmpty location :=
        congrArg (Option.getD · Item.empty) (item?_applyAnswer_elsewhere inventory here)
      rw [item?_applyAnswer_elsewhere _ here, leftTwo, leftTwo, same,
        item?_applyAnswer_elsewhere _ here]

end OneAnswer

section Packets

/-- It makes no difference how answers are divided between packets. -/
theorem performAll_answers (packets : List (List StackResponse)) (table : RequestTable κ)
    (inventory : Inventory) :
    performAll (packets.map TableStep.answers) table inventory =
      settle packets.flatten table inventory := by
  induction packets generalizing table inventory with
  | nil => rfl
  | cons batch later induction =>
      rw [List.flatten_cons, settle_append, ← induction]
      rfl

theorem turns_snd (earlier batch : List StackResponse) :
    (turns earlier batch).map Prod.snd = batch := by
  induction batch generalizing earlier with
  | nil => rfl
  | cons response later induction =>
      unfold turns
      rw [List.map_cons, induction]

theorem without_congr {table : RequestTable κ} {first second : List Int32}
    (same : ∀ requestId, requestId ∈ first ↔ requestId ∈ second) :
    table.without first = table.without second := by
  have alike : (fun entry : Int32 × Registration κ => !first.contains entry.1) =
      fun entry => !second.contains entry.1 := by
    funext entry
    rw [List.contains_eq_mem, List.contains_eq_mem, decide_eq_decide.2 (same entry.1)]
  unfold without
  rw [alike]

variable {table} {answers : List StackResponse}

/-- Answers to different requests that wait all find their requests. -/
theorem settle_waiting (waiting : ∀ response ∈ answers, table.isPending response.requestId)
    (distinct : (answers.map StackResponse.requestId).Nodup) (inventory : Inventory) :
    settle answers table inventory =
      { table := table.without (answers.map StackResponse.requestId)
        inventory := answers.foldl table.applyAnswer inventory
        completed := answers.filterMap table.told
        unknown := [] } := by
  have due : ∀ turn ∈ turns [] answers, table.isDue turn := by
    intro turn member
    obtain ⟨before, later, seen, split⟩ := mem_turns.1 member
    rw [split, List.map_append, List.map_cons, List.nodup_append] at distinct
    have fresh : turn.2.requestId ∉ before.map StackResponse.requestId := fun named =>
      distinct.2.2 _ named _ List.mem_cons_self rfl
    have pending := waiting turn.2 (split ▸ List.mem_append_right _ List.mem_cons_self)
    unfold isDue
    rw [seen, List.nil_append, pending, Bool.true_and]
    simpa using fresh
  have all : (turns [] answers).filter table.isDue = turns [] answers :=
    List.filter_eq_self.2 due
  have none : (turns [] answers).filter (fun turn => !table.isDue turn) = [] :=
    List.filter_eq_nil_iff.2 fun turn member => by rw [due turn member]; decide
  rw [settle_eq]
  unfold settlementAfter
  rw [all, none, turns_snd, List.nil_append]
  rfl

variable (table) in
/-- Answers to different requests, all of them waiting, that write different slots. -/
structure Independent (answers : List StackResponse) : Prop where
  waiting : ∀ response ∈ answers, table.isPending response.requestId
  distinct : (answers.map StackResponse.requestId).Nodup
  apart : answers.Pairwise fun first second =>
    (table.targets first).Disjoint (table.targets second)

namespace Independent

theorem init {first second : List StackResponse} (independent : table.Independent (first ++ second)) :
    table.Independent first where
  waiting response member := independent.waiting response (List.mem_append_left _ member)
  distinct := by
    have distinct := independent.distinct
    rw [List.map_append, List.nodup_append] at distinct
    exact distinct.1
  apart := (List.pairwise_append.1 independent.apart).1

/-- What comes last is not refused. -/
theorem accepts_rest {first second : List StackResponse}
    (independent : table.Independent (first ++ second)) (inventory : Inventory) :
    (settle second (settle first table inventory).table
      (settle first table inventory).inventory).outcome = .ok () := by
  have unknown : (settle (first ++ second) table inventory).unknown = [] := by
    rw [settle_waiting independent.waiting independent.distinct]
  rw [settle_append] at unknown
  unfold Settlement.outcome
  rw [(List.append_eq_nil_iff.1 unknown).2]
  rfl

theorem perm {others : List StackResponse} (independent : table.Independent answers)
    (same : others.Perm answers) : table.Independent others where
  waiting response member := independent.waiting response (same.subset member)
  distinct := ((same.map _).nodup_iff).2 independent.distinct
  apart := independent.apart.perm same.symm List.disjoint_symm

theorem commute (independent : table.Independent answers) {first second : StackResponse}
    (one : first ∈ answers) (two : second ∈ answers) (inventory : Inventory) :
    table.applyAnswer (table.applyAnswer inventory first) second =
      table.applyAnswer (table.applyAnswer inventory second) first := by
  by_cases same : first = second
  · rw [same]
  · have : Std.Symm fun first second =>
        (table.targets first).Disjoint (table.targets second) := ⟨fun _ _ => List.disjoint_symm⟩
    exact applyAnswer_comm inventory (independent.apart.forall one two same)

/-- In whatever order the answers come, they lead to the same mirror and the same table. -/
theorem settle_perm (independent : table.Independent answers) {others : List StackResponse}
    (same : others.Perm answers) (inventory : Inventory) :
    (settle others table inventory).inventory = (settle answers table inventory).inventory ∧
      (settle others table inventory).table = (settle answers table inventory).table ∧
      (settle others table inventory).completed.Perm
        (settle answers table inventory).completed := by
  have other := independent.perm same
  rw [settle_waiting other.waiting other.distinct,
    settle_waiting independent.waiting independent.distinct]
  refine ⟨?_, ?_, same.filterMap table.told⟩
  · exact same.foldl_eq' (fun _ one _ two inventory => other.commute one two inventory) inventory
  · exact without_congr fun requestId => (same.map StackResponse.requestId).mem_iff

/-- Each request is told of the answer to it, and of no other. -/
theorem told (independent : table.Independent answers) {response : StackResponse}
    (member : response ∈ answers) (inventory : Inventory) :
    ∃ registration, table.find? response.requestId = some registration ∧
      (settle answers table inventory).completed.filter
          (fun entry => entry.2.requestId = response.requestId) =
        [(registration.completion, response)] := by
  obtain ⟨registration, waits⟩ :=
    Option.isSome_iff_exists.1 (independent.waiting response member)
  refine ⟨registration, waits, ?_⟩
  obtain ⟨first, found⟩ : ∃ first, answers.find?
      (fun other => other.requestId = response.requestId) = some first :=
    Option.isSome_iff_exists.1 (List.find?_isSome.2 ⟨response, member, decide_eq_true rfl⟩)
  have named : first.requestId = response.requestId := by simpa using List.find?_some found
  have own : first = response :=
    List.inj_on_of_nodup_map independent.distinct (List.mem_of_find?_eq_some found) member named
  rw [(routes_once table inventory answers).once, found, Option.bind_some, own]
  unfold RequestTable.told
  rw [waits]
  rfl

end Independent

/-- Answers that were cut into packets are all taken, and lead to the same as in one packet. -/
structure SettlesAsOne (table : RequestTable κ) (inventory : Inventory)
    (answers : List StackResponse) (packets : List (List StackResponse)) : Prop where
  /-- No packet is refused at its turn. -/
  accepted : ∀ before batch later, packets = before ++ batch :: later →
    (settle batch (performAll (before.map TableStep.answers) table inventory).table
      (performAll (before.map TableStep.answers) table inventory).inventory).outcome = .ok ()
  mirror : (performAll (packets.map TableStep.answers) table inventory).inventory =
    (settle answers table inventory).inventory
  left : (performAll (packets.map TableStep.answers) table inventory).table =
    (settle answers table inventory).table
  completed : (performAll (packets.map TableStep.answers) table inventory).completed.Perm
    (settle answers table inventory).completed
  /-- Each request is told of its own answer, once. -/
  told : ∀ response ∈ answers, ∃ registration,
    table.find? response.requestId = some registration ∧
      (performAll (packets.map TableStep.answers) table inventory).completed.filter
          (fun entry => entry.2.requestId = response.requestId) =
        [(registration.completion, response)]

/-- In whatever order answers to different requests come, and in whatever packets, they lead to
the same as long as they write different slots. -/
theorem independent_answers_commute (inventory : Inventory) {packets : List (List StackResponse)}
    (independent : table.Independent answers) (same : packets.flatten.Perm answers) :
    table.SettlesAsOne inventory answers packets := by
  have other := independent.perm same
  obtain ⟨mirror, left, completed⟩ := independent.settle_perm same inventory
  rw [← performAll_answers] at mirror left completed
  refine ⟨?_, mirror, left, completed, ?_⟩
  · intro before batch later split
    rw [split, List.flatten_append, List.flatten_cons, ← List.append_assoc] at other
    rw [performAll_answers]
    exact other.init.accepts_rest inventory
  · intro response member
    rw [performAll_answers]
    exact other.told (same.symm.subset member) inventory

end Packets

/-- Three requests under way: on a slot that was predicted, on slots of a window that is not
known, and one that the server rejects. -/
def unloading : RequestTable Nat where
  pending :=
    [(-1, ⟨RoleWindows.empty.note .hotbar 0,
        [(⟨0, 2⟩, { template := some { typeId := 5, count := 3 } })], 1⟩),
      (-3, ⟨RoleWindows.empty.note .levelEntity 7, [], 3⟩),
      (-5, ⟨RoleWindows.empty.note .hotbar 0, [], 5⟩)]

def unloadingAnswers : List StackResponse :=
  [⟨0, -1, [⟨Role.hotbar.number, 0, [⟨2, 2, 3, 11, "", 0⟩]⟩]⟩,
    ⟨0, -3, [⟨Role.levelEntity.number, 0, [⟨0, 0, 1, 12, "", 0⟩, ⟨4, 4, 0, 0, "", 0⟩]⟩]⟩,
    ⟨1, -5, []⟩]

/-- The same answers backwards, in two packets. -/
def unloadingPackets : List (List StackResponse) :=
  [[⟨1, -5, []⟩],
    [⟨0, -3, [⟨Role.levelEntity.number, 0, [⟨0, 0, 1, 12, "", 0⟩, ⟨4, 4, 0, 0, "", 0⟩]⟩]⟩,
      ⟨0, -1, [⟨Role.hotbar.number, 0, [⟨2, 2, 3, 11, "", 0⟩]⟩]⟩]]

theorem unloading_settles_in_any_order :
    unloading.Independent unloadingAnswers ∧ unloadingPackets.flatten.Perm unloadingAnswers ∧
      (unloadingAnswers.map unloading.targets) = [[⟨0, 2⟩], [⟨7, 0⟩, ⟨7, 4⟩], []] ∧
      unloading.SettlesAsOne .empty unloadingAnswers unloadingPackets := by
  have apart : unloadingAnswers.Pairwise fun first second =>
      ∀ location ∈ unloading.targets first, location ∉ unloading.targets second := by
    decide +kernel
  have independent : unloading.Independent unloadingAnswers :=
    ⟨by decide +kernel, by decide, apart⟩
  have same : unloadingPackets.flatten.Perm unloadingAnswers := by decide
  exact ⟨independent, same, by decide +kernel,
    independent_answers_commute .empty independent same⟩

end RequestTable

end InventorySync
