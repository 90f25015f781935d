import InventorySync.Proofs.Compile

/-!
How a commit begins. Its requests are registered one after another before they
are sent, and all of them are given up again if nothing can be sent.
-/

namespace InventorySync

set_option autoImplicit false

/-- What is kept of a request of a commit. -/
def CompiledRequest.registration {τ : Type} (entry : CompiledRequest) (commit position : Nat) :
    Registration (Completion τ) :=
  ⟨entry.windows, entry.predictions, .promise ⟨commit, position⟩⟩

def requestIds (compiled : List CompiledRequest) : List Int32 :=
  compiled.map fun entry => entry.request.id

theorem ids_of_requests (compiled : List CompiledRequest) :
    (compiled.map CompiledRequest.request).map StackRequest.id = requestIds compiled :=
  List.map_map

namespace Engine

variable {τ : Type}

theorem requestIds_nodup {engine middle : Engine τ} {queue : List Operation}
    {compiled : List CompiledRequest} (succeeds : engine.compile queue = (.ok compiled, middle))
    (few : compiled.length ≤ 2 ^ 31) : (requestIds compiled).Nodup := by
  have ids := (compile_ids succeeds).2
  apply List.pairwise_map.2
  rw [List.pairwise_iff_getElem]
  intro first second firstIn secondIn smaller same
  have firstAt := ids first _ (List.getElem?_eq_getElem firstIn)
  have secondAt := ids second _ (List.getElem?_eq_getElem secondIn)
  rw [firstAt, secondAt] at same
  have equal := Compile.idAt_injective (by omega) (by omega) same
  omega

theorem requestIds_compiled {engine middle : Engine τ} {queue : List Operation}
    {compiled : List CompiledRequest} (succeeds : engine.compile queue = (.ok compiled, middle)) :
    requestIds compiled =
      (List.range (engine.idsFor queue)).map (Compile.idAt engine.requests.nextId) := by
  obtain ⟨count, ids⟩ := compile_ids succeeds
  apply List.ext_getElem?
  intro position
  unfold requestIds
  rw [List.getElem?_map, List.getElem?_map, ← count]
  cases found : compiled[position]? with
  | none =>
      rw [List.getElem?_eq_none (by simpa using List.getElem?_eq_none_iff.1 found)]
      rfl
  | some entry =>
      have inside := (List.getElem?_eq_some_iff.1 found).1
      rw [List.getElem?_range inside, Option.map_some, Option.map_some, ids position entry found]

section Tables

variable {engine : Engine τ} {commit position : Nat} {compiled : List CompiledRequest}

theorem registerAll_engine :
    (engine.registerAll commit position compiled).1 =
      { engine with requests := (engine.registerAll commit position compiled).1.requests } := by
  induction compiled generalizing engine position with
  | nil => rfl
  | cons entry later induction =>
      have rest := @induction
        (engine.register entry.request.id (entry.registration commit position)).1 (position + 1)
      exact rest

theorem registerAll_nextId :
    (engine.registerAll commit position compiled).1.requests.nextId = engine.requests.nextId := by
  induction compiled generalizing engine position with
  | nil => rfl
  | cons entry later induction =>
      have rest := @induction
        (engine.register entry.request.id (entry.registration commit position)).1 (position + 1)
      exact rest

theorem cancelAll_nextId {ids : List Int32} :
    (engine.cancelAll ids).1.requests.nextId = engine.requests.nextId := by
  induction ids generalizing engine with
  | nil => rfl
  | cons requestId later induction =>
      have rest := @induction (engine.cancel requestId).1
      exact rest

theorem find?_registerAll_absent {requestId : Int32} (absent : requestId ∉ requestIds compiled) :
    (engine.registerAll commit position compiled).1.requests.find? requestId =
      engine.requests.find? requestId := by
  induction compiled generalizing engine position with
  | nil => rfl
  | cons entry later induction =>
      have differs : requestId ≠ entry.request.id := fun same => absent (same ▸ List.mem_cons_self)
      have rest := @induction
        (engine.register entry.request.id (entry.registration commit position)).1 (position + 1)
        fun member => absent (List.mem_cons_of_mem _ member)
      change (Engine.registerAll _ _ _ _).1.requests.find? requestId = _ at rest ⊢
      refine rest.trans ?_
      exact (RequestTable.find?_register _ _ requestId _).trans (if_neg differs)

/-- Requests under different ids do not get in each other's way. -/
theorem find?_registerAll (distinct : (requestIds compiled).Nodup) {index : Nat}
    {entry : CompiledRequest} (found : compiled[index]? = some entry) :
    (engine.registerAll commit position compiled).1.requests.find? entry.request.id =
      some (entry.registration commit (position + index)) := by
  induction compiled generalizing engine position index with
  | nil => cases found
  | cons first later induction =>
      obtain ⟨alone, others⟩ := List.nodup_cons.1 distinct
      cases index with
      | zero =>
          cases found
          have rest := @find?_registerAll_absent _
            (engine.register entry.request.id (entry.registration commit position)).1 commit
            (position + 1) later _ alone
          refine rest.trans ?_
          exact (RequestTable.find?_register _ _ _ _).trans (if_pos rfl)
      | succ index =>
          have rest := @induction
            (engine.register first.request.id (first.registration commit position)).1
            (position + 1) others index found
          rw [Nat.add_assoc, Nat.add_comm 1 index] at rest
          exact rest

theorem isPending_registerAll {requestId : Int32} :
    (engine.registerAll commit position compiled).1.requests.isPending requestId ↔
      engine.requests.isPending requestId ∨ requestId ∈ requestIds compiled := by
  induction compiled generalizing engine position with
  | nil => simp [registerAll, requestIds]
  | cons entry later induction =>
      have rest := @induction
        (engine.register entry.request.id (entry.registration commit position)).1 (position + 1)
      refine rest.trans ?_
      change (RequestTable.register _ _ _).isPending requestId ∨ _ ↔ _
      unfold RequestTable.isPending requestIds
      rw [RequestTable.find?_register, List.map_cons, List.mem_cons]
      by_cases same : requestId = entry.request.id
      · simp [same]
      · simp [same]

/-- Under ids of their own, requests take the place of no others. -/
theorem registerAll_silent (distinct : (requestIds compiled).Nodup)
    (free : ∀ requestId ∈ requestIds compiled, engine.requests.isPending requestId = false) :
    (engine.registerAll commit position compiled).2 = [] := by
  induction compiled generalizing engine position with
  | nil => rfl
  | cons entry later induction =>
      obtain ⟨alone, others⟩ := List.nodup_cons.1 distinct
      have none : engine.requests.find? entry.request.id = none :=
        Option.isNone_iff_eq_none.1
          (Option.isSome_eq_false_iff.1 (free _ List.mem_cons_self))
      have rest : ∀ requestId ∈ requestIds later,
          (engine.register entry.request.id
            (entry.registration commit position)).1.requests.isPending requestId = false := by
        intro requestId listed
        have differs : requestId ≠ entry.request.id := ne_of_mem_of_not_mem listed alone
        change (RequestTable.register _ _ _).isPending requestId = false
        unfold RequestTable.isPending
        rw [RequestTable.find?_register, if_neg differs]
        exact free requestId (List.mem_cons_of_mem _ listed)
      change abandonedBy (engine.requests.find? entry.request.id) ++ _ = []
      rw [none]
      exact induction others rest

theorem abandonedBy_told {registration : Option (Registration (Completion τ))} {event : Event τ}
    (told : event ∈ abandonedBy registration) : ∃ promise, event = .abandoned promise := by
  rcases registration with none | ⟨_, _, callback | promise⟩
  · cases told
  · cases told
  · exact ⟨promise, List.mem_singleton.1 told⟩

/-- All that is told of registrations is which requests they take the place of. -/
theorem registerAll_told {event : Event τ}
    (told : event ∈ (engine.registerAll commit position compiled).2) :
    ∃ promise, event = .abandoned promise := by
  induction compiled generalizing engine position with
  | nil => cases told
  | cons entry later induction =>
      rcases List.mem_append.1 told with here | there
      · exact abandonedBy_told here
      · exact induction there

theorem cancelAll_told {ids : List Int32} {event : Event τ}
    (told : event ∈ (engine.cancelAll ids).2) : ∃ promise, event = .abandoned promise := by
  induction ids generalizing engine with
  | nil => cases told
  | cons requestId later induction =>
      rcases List.mem_append.1 told with here | there
      · exact abandonedBy_told here
      · exact induction there

end Tables

/-- How a commit begins, and all that it does to the engine. -/
inductive Starts (engine : Engine τ) (number : Nat) (queue : List Operation) :
    CommitStart × Step τ → Prop where
  | nothingQueued (empty : queue = []) : Starts engine number queue (.nothingQueued, engine, [])
  | uncompiled {failure : SyncError} {middle : Engine τ}
      (fails : engine.compile queue = (.error failure, middle)) :
      Starts engine number queue (.failed failure, middle, [])
  | sent {compiled : List CompiledRequest} {middle : Engine τ} (filled : queue ≠ [])
      (succeeds : engine.compile queue = (.ok compiled, middle)) (connected : engine.connected) :
      Starts engine number queue
        (.sent (compiled.map CompiledRequest.request), (middle.registerAll number 0 compiled).1,
          (middle.registerAll number 0 compiled).2 ++
            [.sent (.stackRequests (compiled.map CompiledRequest.request))])
  | unsent {compiled : List CompiledRequest} {middle : Engine τ}
      (succeeds : engine.compile queue = (.ok compiled, middle))
      (disconnected : engine.connected = false) :
      Starts engine number queue
        (.failed .channelClosed,
          ((middle.registerAll number 0 compiled).1.cancelAll (requestIds compiled)).1,
          (middle.registerAll number 0 compiled).2 ++
            ((middle.registerAll number 0 compiled).1.cancelAll (requestIds compiled)).2)

theorem send_eq_ok_iff {engine : Engine τ} {packet : ClientPacket} :
    engine.send packet = .ok () ↔ engine.connected := by
  unfold send
  split
  · next connected => simp [connected]
  · next disconnected => simp [disconnected]

theorem send_eq_error_iff {engine : Engine τ} {packet : ClientPacket} {failure : SyncError} :
    engine.send packet = .error failure ↔
      failure = .channelClosed ∧ engine.connected = false := by
  unfold send
  split
  · next connected => simp [connected]
  · next disconnected => simp [disconnected, eq_comm]

/-- No sender is asked if there is nothing to hand over. -/
theorem startCommitThrough_of_fails {engine middle : Engine τ} {queue : List Operation}
    {failure : SyncError} (filled : queue ≠ [])
    (fails : engine.compile queue = (.error failure, middle)) (sender : Sender τ)
    (number : Nat) :
    engine.startCommitThrough sender number queue = (.failed failure, middle, []) := by
  unfold startCommitThrough
  rw [if_neg fun empty => filled (List.isEmpty_iff.1 empty), fails]

/-- A sender is asked once, when all requests are registered, and its answer decides. -/
theorem startCommitThrough_eq {engine middle : Engine τ} {queue : List Operation}
    {compiled : List CompiledRequest} (filled : queue ≠ [])
    (succeeds : engine.compile queue = (.ok compiled, middle)) (sender : Sender τ)
    (number : Nat) :
    engine.startCommitThrough sender number queue =
      handedOver (middle.registerAll number 0 compiled) (compiled.map CompiledRequest.request)
        (sender (middle.registerAll number 0 compiled).1
          (.stackRequests (compiled.map CompiledRequest.request))) := by
  unfold startCommitThrough
  rw [if_neg fun empty => filled (List.isEmpty_iff.1 empty), succeeds]

theorem startCommit_starts (engine : Engine τ) (number : Nat) (queue : List Operation) :
    Starts engine number queue (engine.startCommit number queue) := by
  by_cases filled : queue = []
  · rw [filled]
    exact .nothingQueued rfl
  rcases succeeds : engine.compile queue with ⟨failure | compiled, middle⟩
  · unfold startCommit
    rw [startCommitThrough_of_fails filled succeeds]
    exact .uncompiled succeeds
  · have connection : (middle.registerAll number 0 compiled).1.connected = engine.connected := by
      have kept := congrArg Engine.connected (engine.compile_engine queue)
      rw [succeeds] at kept
      rw [registerAll_engine]
      exact kept
    unfold startCommit
    rw [startCommitThrough_eq filled succeeds]
    cases answer : send (middle.registerAll number 0 compiled).1
        (.stackRequests (compiled.map CompiledRequest.request)) with
    | ok _ =>
        rw [send_eq_ok_iff, connection] at answer
        exact .sent filled succeeds answer
    | error failure =>
        obtain ⟨rfl, disconnected⟩ := send_eq_error_iff.1 answer
        rw [connection] at disconnected
        unfold handedOver
        rw [ids_of_requests]
        exact .unsent succeeds disconnected

end Engine

end InventorySync
