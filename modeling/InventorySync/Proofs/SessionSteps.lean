import InventorySync.Proofs.Promises
import InventorySync.Proofs.Settlement
import InventorySync.Session

/-!
What one step of a session does to the requests under way and to its transactions.
Only answers, registrations, cancellations and commits reach the table of waiting
requests; every other step leaves it as it is and tells no commit anything.
-/

namespace InventorySync

set_option autoImplicit false

def ServerPacket.answers : ServerPacket → List StackResponse
  | .stackResponses responses => responses
  | _ => []

/-- The answers that bytes from the server hold. -/
def ServerPacket.answersIn (raw : Bytes) : List StackResponse :=
  match ServerPacket.read raw with
  | .ok (received, _) => received.answers
  | .error _ => []

def ClientPacket.requestIds : ClientPacket → List Int32
  | .stackRequests requests => requests.map StackRequest.id
  | .closeContainer _ => []

namespace SessionStep

variable {α : Type}

/-- The answers that a step brings, in whatever form. -/
def answers : SessionStep α → List StackResponse
  | .respond responses => responses
  | .packet received => received.answers
  | .bytes raw => ServerPacket.answersIn raw
  | _ => []

/-- The ids for which a step ends the wait, each with its receipt. -/
def closings : SessionStep α → List Closing
  | .addRequest requestId _ _ _ => [(requestId, .dropped)]
  | .cancelRequest requestId => [(requestId, .dropped)]
  | action => action.answers.map fun response => (response.requestId, .answered response)

end SessionStep

def Event.packet? {τ : Type} : Event τ → Option ClientPacket
  | .sent sending => some sending
  | _ => none

def packetsIn {τ : Type} (events : List (Event τ)) : List ClientPacket :=
  events.filterMap Event.packet?

def sentIds {τ : Type} (events : List (Event τ)) : List Int32 :=
  (packetsIn events).flatMap ClientPacket.requestIds

theorem packetsIn_append {τ : Type} (first second : List (Event τ)) :
    packetsIn (first ++ second) = packetsIn first ++ packetsIn second :=
  List.filterMap_append

theorem sentIds_append {τ : Type} (first second : List (Event τ)) :
    sentIds (first ++ second) = sentIds first ++ sentIds second := by
  unfold sentIds
  rw [packetsIn_append, List.flatMap_append]

theorem sentIds_of_none {τ : Type} {events : List (Event τ)} (none : packetsIn events = []) :
    sentIds events = [] := by
  unfold sentIds
  rw [none, List.flatMap_nil]

namespace Engine

variable {τ : Type}

/-- A step that neither touches requests nor tells of any. -/
structure Quiet (engine : Engine τ) (step : Step τ) : Prop where
  requests : step.1.requests = engine.requests
  tellsNone : heard step.2 = []
  sendsNone : sentIds step.2 = []

namespace Quiet

variable {engine : Engine τ}

theorem of_nil {after : Engine τ} (same : after.requests = engine.requests) :
    Quiet engine (after, []) :=
  ⟨same, rfl, rfl⟩

theorem append {first second : Step τ} (head : Quiet engine first) (tail : Quiet first.1 second) :
    Quiet engine (second.1, first.2 ++ second.2) := by
  refine ⟨tail.requests.trans head.requests, ?_, ?_⟩
  · rw [heard_append, head.tellsNone, tail.tellsNone, List.append_nil]
  · rw [sentIds_append, head.sendsNone, tail.sendsNone, List.append_nil]

theorem setCloseHook (hook : Option (CloseHook τ)) : Quiet engine (engine.setCloseHook hook) := by
  unfold Engine.setCloseHook ContainerTracker.setCloseHook
  rcases engine.containers.closeHook with none | ⟨callback | number⟩
  · exact of_nil rfl
  · exact of_nil rfl
  · exact ⟨rfl, rfl, rfl⟩

theorem subscribe (subscription : Subscription τ) :
    Quiet engine (engine.subscribe subscription) := by
  cases subscription with
  | slot location callback => exact of_nil rfl
  | opening callback => exact of_nil rfl
  | closing callback => exact setCloseHook _

theorem subscribeAll (subscriptions : List (Subscription τ)) :
    Quiet engine (engine.subscribeAll subscriptions) := by
  induction subscriptions generalizing engine with
  | nil => exact of_nil rfl
  | cons subscription later induction => exact (subscribe subscription).append induction

theorem runObservers (due : List (τ × SlotChange)) : Quiet engine (engine.runObservers due) := by
  induction due generalizing engine with
  | nil => exact of_nil rfl
  | cons first later induction =>
      obtain ⟨callback, change⟩ := first
      have ran : Quiet engine
          (engine.subscribeAll (engine.reactions.slotChanged callback change)) :=
        subscribeAll _
      have both := ran.append induction
      exact ⟨both.requests, both.tellsNone, both.sendsNone⟩

theorem contentReceived (content : WindowContent) :
    Quiet engine (engine.contentReceived content) := by
  have ran := @runObservers τ
    { engine with
      inventory := (engine.inventory.apply content).1
      observers := (engine.observers.take (engine.inventory.apply content).2).2 }
    (engine.observers.take (engine.inventory.apply content).2).1
  exact ⟨ran.requests, ran.tellsNone, ran.sendsNone⟩

theorem containerOpened (container : OpenedContainer) :
    Quiet engine (engine.containerOpened container) := by
  unfold Engine.containerOpened ContainerTracker.opened
  cases engine.containers.openHook with
  | none => exact of_nil rfl
  | some callback =>
      have ran := @subscribeAll τ
        { engine with containers := (engine.containers.opened container).1 }
        (engine.reactions.containerOpened callback container)
      exact ⟨ran.requests, ran.tellsNone, ran.sendsNone⟩

theorem containerClosed (container : ClosedContainer) :
    Quiet engine (engine.containerClosed container) := by
  unfold Engine.containerClosed ContainerTracker.closed
  rcases engine.containers.closeHook with none | ⟨callback | number⟩
  · exact of_nil rfl
  · have ran := @subscribeAll τ
      { engine with containers := (engine.containers.closed container).1 }
      (engine.reactions.containerClosed callback container)
    exact ⟨ran.requests, ran.tellsNone, ran.sendsNone⟩
  · exact ⟨rfl, rfl, rfl⟩

theorem closeContainer (receipt : Nat) : Quiet engine (engine.closeContainer receipt).2 := by
  unfold Engine.closeContainer
  cases engine.containers.openContainer? with
  | none => exact of_nil rfl
  | some container =>
      have hooked : Quiet engine (engine.setCloseHook (some (.receipt receipt))) := setCloseHook _
      simp only
      split
      · have asked : Quiet (engine.setCloseHook (some (.receipt receipt))).1
            ((engine.setCloseHook (some (.receipt receipt))).1,
              [.sent (.closeContainer ⟨container.window, false⟩)]) := ⟨rfl, rfl, rfl⟩
        exact hooked.append asked
      · exact hooked.append (setCloseHook none)

/-- A packet brings answers, or nothing that requests take notice of. -/
theorem packet_cases (engine : Engine τ) (received : ServerPacket) :
    engine.packetReceived received = engine.responsesReceived received.answers ∨
      received.answers = [] ∧ Quiet engine (engine.packetReceived received).2 := by
  cases received with
  | stackResponses batch => exact Or.inl rfl
  | windowContent content => exact Or.inr ⟨rfl, contentReceived content⟩
  | containerOpened container => exact Or.inr ⟨rfl, containerOpened container⟩
  | containerClosed container =>
      have closed : Quiet engine (engine.containerClosed container) := containerClosed container
      refine Or.inr ⟨rfl, ?_, closed.tellsNone, closed.sendsNone⟩
      change (Engine.forgetClosed _ _).requests = _
      unfold Engine.forgetClosed
      split
      · exact closed.requests
      · exact closed.requests

theorem bytes_cases (engine : Engine τ) (raw : Bytes) :
    engine.bytesReceived raw = engine.responsesReceived (ServerPacket.answersIn raw) ∨
      ServerPacket.answersIn raw = [] ∧ Quiet engine (engine.bytesReceived raw).2 := by
  unfold Engine.bytesReceived ServerPacket.answersIn
  cases ServerPacket.read raw with
  | ok found => exact packet_cases engine found.1
  | error cause => cases cause <;> exact Or.inr ⟨rfl, of_nil rfl⟩

end Quiet

end Engine

/-- All that a step can do to the table of requests, with the numbers of the commits that begin
in it, the ids that it takes and those that it closes. -/
structure Moves {τ : Type} (engine : Engine τ) (first last taken : Nat) (closings : List Closing)
    (step : Engine.Step τ) : Prop where
  nextId : step.1.requests.nextId = Compile.idAt engine.requests.nextId taken
  /-- Other commits hear of the closings, and of nothing else. -/
  follows : ∀ other requests, other < first ∨ last ≤ other → (requests.map StackRequest.id).Nodup →
    (∀ position < taken,
      Compile.idAt engine.requests.nextId position ∉ requests.map StackRequest.id) →
    Follows other requests engine.requests closings step.1.requests (heard step.2)
  sends : sentIds step.2 = [] ∨
    sentIds step.2 = (List.range taken).map (Compile.idAt engine.requests.nextId)

namespace Moves

variable {τ : Type} {engine : Engine τ} {first last : Nat}

theorem ofQuiet {step : Engine.Step τ} (quiet : engine.Quiet step) :
    Moves engine first last 0 [] step := by
  refine ⟨?_, ?_, Or.inl quiet.sendsNone⟩
  · rw [quiet.requests, Compile.idAt_zero]
  · intro other requests _ _ _
    rw [quiet.tellsNone]
    exact Follows.quiet (congrArg RequestTable.pending quiet.requests)

theorem idle {after : Engine τ} (same : after.requests = engine.requests) :
    Moves engine first last 0 [] (after, []) :=
  ofQuiet (.of_nil same)

/-- Ids that are taken and not used. -/
theorem takes {after : Engine τ} {taken : Nat}
    (nextId : after.requests.nextId = Compile.idAt engine.requests.nextId taken)
    (pending : after.requests.pending = engine.requests.pending) :
    Moves engine first last taken [] (after, []) :=
  ⟨nextId, fun _ _ _ _ _ => Follows.quiet pending, Or.inl rfl⟩

theorem packetsIn_abandonedBy (registration : Option (Registration (Completion τ))) :
    packetsIn (Engine.abandonedBy registration) = [] := by
  rcases registration with none | ⟨windows, predictions, callback | promise⟩ <;> rfl

theorem cancel (requestId : Int32) :
    Moves engine first last 0 [(requestId, .dropped)] (engine.cancel requestId) :=
  ⟨(Compile.idAt_zero _).symm,
    fun _ _ _ distinct _ => .remove distinct engine.requests requestId,
    Or.inl (sentIds_of_none (packetsIn_abandonedBy _))⟩

theorem register (requestId : Int32) {registration : Registration (Completion τ)}
    (callback : registration.completion.promise? = none) :
    Moves engine first last 0 [(requestId, .dropped)] (engine.register requestId registration) :=
  ⟨(Compile.idAt_zero _).symm,
    fun _ _ _ distinct _ => .register distinct engine.requests requestId callback,
    Or.inl (sentIds_of_none (packetsIn_abandonedBy _))⟩

theorem sentIds_completions (completed : List (Completion τ × StackResponse)) :
    sentIds (completed.map Engine.completionEvent) = [] := by
  apply sentIds_of_none
  unfold packetsIn
  rw [List.filterMap_map, List.filterMap_eq_nil_iff]
  intro entry _
  obtain ⟨callback | promise, response⟩ := entry <;> rfl

theorem responses (batch : List StackResponse) :
    Moves engine first last 0 (batch.map fun response => (response.requestId, .answered response))
      (engine.responsesReceived batch).2 := by
  refine ⟨?_, fun _ _ _ distinct _ => .settle distinct batch engine.requests engine.inventory,
    Or.inl (sentIds_completions _)⟩
  rw [Compile.idAt_zero]
  change (RequestTable.settle batch engine.requests engine.inventory).table.nextId = _
  rw [(RequestTable.routes_once engine.requests engine.inventory batch).left]
  rfl

theorem elsewhere_compiled {middle : Engine τ} {queue : List Operation}
    {compiled : List CompiledRequest} {ids : List Int32}
    (succeeds : engine.compile queue = (.ok compiled, middle))
    (elsewhere : ∀ position < engine.idsFor queue,
      Compile.idAt engine.requests.nextId position ∉ ids) :
    ∀ entry ∈ compiled, entry.request.id ∉ ids := by
  intro entry member
  have listed : entry.request.id ∈ requestIds compiled := List.mem_map_of_mem member
  rw [Engine.requestIds_compiled succeeds] at listed
  obtain ⟨position, inside, same⟩ := List.mem_map.1 listed
  rw [← same]
  exact elsewhere position (List.mem_range.1 inside)

theorem packetsIn_registerAll {number position : Nat} {engine : Engine τ}
    {compiled : List CompiledRequest} :
    packetsIn (engine.registerAll number position compiled).2 = [] := by
  refine List.filterMap_eq_nil_iff.2 fun event told => ?_
  obtain ⟨promise, rfl⟩ := Engine.registerAll_told told
  rfl

theorem packetsIn_cancelAll {engine : Engine τ} {ids : List Int32} :
    packetsIn (engine.cancelAll ids).2 = [] := by
  refine List.filterMap_eq_nil_iff.2 fun event told => ?_
  obtain ⟨promise, rfl⟩ := Engine.cancelAll_told told
  rfl

theorem sentIds_sent {number position : Nat} {engine : Engine τ}
    {compiled : List CompiledRequest} :
    sentIds ((engine.registerAll number position compiled).2 ++
      [.sent (.stackRequests (compiled.map CompiledRequest.request))]) = requestIds compiled := by
  rw [sentIds_append, sentIds_of_none packetsIn_registerAll, ← ids_of_requests]
  exact List.append_nil _

theorem sentIds_unsent {number position : Nat} {engine : Engine τ}
    {compiled : List CompiledRequest} {ids : List Int32} :
    sentIds ((engine.registerAll number position compiled).2 ++
      ((engine.registerAll number position compiled).1.cancelAll ids).2) = [] := by
  rw [sentIds_append, sentIds_of_none packetsIn_registerAll, sentIds_of_none packetsIn_cancelAll]
  rfl

/-- To compile a queue is nothing to any commit. -/
theorem follows_compiled {middle : Engine τ} {taken : Nat} {other : Nat}
    {requests : List StackRequest}
    (kept : middle = { engine with
      requests := { engine.requests with
        nextId := Compile.idAt engine.requests.nextId taken } }) :
    Follows other requests engine.requests [] middle.requests [] := by
  rw [kept]
  exact Follows.quiet rfl

theorem commit {number : Nat} {queue : List Operation}
    {result : Engine.CommitStart × Engine.Step τ} (starts : engine.Starts number queue result) :
    Moves engine number (number + 1) (engine.idsFor queue) [] result.2 := by
  have kept := engine.compile_engine queue
  cases starts with
  | nothingQueued empty =>
      rw [empty]
      exact idle rfl
  | uncompiled fails =>
      rw [fails] at kept
      exact takes (congrArg (fun engine => engine.requests.nextId) kept)
        (congrArg (fun engine => engine.requests.pending) kept)
  | @sent compiled middle _ succeeds _ =>
      rw [succeeds] at kept
      refine ⟨?_, ?_, ?_⟩
      · rw [Engine.registerAll_nextId]
        exact congrArg (fun engine => engine.requests.nextId) kept
      · intro other requests apart _ elsewhere
        have different : number ≠ other := by omega
        have absent := elsewhere_compiled succeeds elsewhere
        have registered := (follows_compiled kept).trans
          (@Follows.registerAll _ _ _ middle number 0 _ different absent)
        rw [heard_append]
        exact (List.append_nil (heard _)).symm ▸ registered
      · right
        rw [sentIds_sent, ← Engine.requestIds_compiled succeeds]
  | @unsent compiled middle succeeds _ =>
      rw [succeeds] at kept
      refine ⟨?_, ?_, ?_⟩
      · rw [Engine.cancelAll_nextId, Engine.registerAll_nextId]
        exact congrArg (fun engine => engine.requests.nextId) kept
      · intro other requests apart _ elsewhere
        have different : number ≠ other := by omega
        have absent := elsewhere_compiled succeeds elsewhere
        have registered := (follows_compiled kept).trans
          (@Follows.registerAll _ _ _ middle number 0 _ different absent)
        rw [heard_append]
        apply registered.trans
        apply Follows.cancelAll
        intro requestId member
        obtain ⟨entry, listed, rfl⟩ := List.mem_map.1 member
        exact absent entry listed
      · exact Or.inl sentIds_unsent

end Moves

namespace Session

variable {α : Type} {session : Session α} {name : String}

def idsTakenBy (session : Session α) : SessionStep α → Nat
  | .newRequestId => 1
  | .compile name | .commit name =>
      if session.isBusy name then 0 else session.engine.idsFor (session.transaction name).queue
  | _ => 0

def engineStep (session : Session α) (action : SessionStep α) : Engine.Step (Callback α) :=
  ((session.perform action).session.engine, (session.perform action).events)

theorem onTransaction_cases {P : Progress α → Prop} {use : Transaction → Progress α}
    (refused : P (.answer session .busy))
    (used : session.isBusy name = false → P (use (session.transaction name))) :
    P (session.onTransaction name use) := by
  unfold onTransaction
  split
  · exact refused
  · next idle => exact used (Bool.eq_false_iff.2 idle)

theorem onOverlay_cases {P : Progress α → Prop} {β : Type} {action : Overlay.Action β}
    {reply : β → SessionReply}
    (answered : ∀ overlay reply, P (.answer { session with overlay } reply)) :
    P (session.onOverlay action reply) := by
  unfold onOverlay
  rcases action session.overlay with ⟨failure | result, overlay⟩
  · exact answered overlay _
  · exact answered overlay _

theorem onTransaction_idle {use : Transaction → Progress α} (idle : session.isBusy name = false) :
    session.onTransaction name use = use (session.transaction name) :=
  if_neg (Bool.eq_false_iff.1 idle)

/-- Nothing happens to the requests, and nothing is told of any. -/
def Untouched (session : Session α) (progress : Progress α) : Prop :=
  progress.session.engine.requests = session.engine.requests ∧ progress.events = []

/-- What a step is to the requests under way. -/
inductive Works (session : Session α) (action : SessionStep α) : Prop where
  | quiet (unanswered : action.answers = []) (unclosed : action.closings = [])
      (unused : session.idsTakenBy action = 0)
      (quiet : session.engine.Quiet (session.engineStep action))
  /-- Ids are taken and not used. -/
  | takes (unanswered : action.answers = []) (unclosed : action.closings = [])
      (requests : (session.perform action).session.engine.requests =
        session.engine.requests.idsUsed (session.idsTakenBy action))
      (silent : (session.perform action).events = [])
  | answers (unused : session.idsTakenBy action = 0)
      (closings : action.closings =
        action.answers.map fun response => (response.requestId, .answered response))
      (performed : session.perform action =
        .ofResult session (session.engine.responsesReceived action.answers))
  | registers {requestId : Int32} {windows : RoleWindows} {predictions : Predictions} {tag : α}
      (same : action = .addRequest requestId windows predictions tag)
  | cancels {requestId : Int32} (same : action = .cancelRequest requestId)
  | commits {name : String} (same : action = .commit name) (idle : session.isBusy name = false)
      (performed : session.perform action = session.startCommit name (session.transaction name))

theorem Works.idle {action : SessionStep α} (unanswered : action.answers = [])
    (unclosed : action.closings = []) (unused : session.idsTakenBy action = 0)
    (untouched : session.Untouched (session.perform action)) : session.Works action := by
  obtain ⟨same, silent⟩ := untouched
  refine .quiet unanswered unclosed unused ⟨same, ?_, ?_⟩
  · exact congrArg heard silent
  · exact congrArg sentIds silent

/-- Nothing happens while the commit of the transaction runs. -/
theorem Works.refused {action : SessionStep α} (unanswered : action.answers = [])
    (unclosed : action.closings = []) (unused : session.idsTakenBy action = 0)
    (busy : session.perform action = .answer session .busy) : session.Works action := by
  apply Works.idle unanswered unclosed unused
  rw [busy]
  exact ⟨rfl, rfl⟩

theorem perform_works (session : Session α) (action : SessionStep α) : session.Works action := by
  cases action with
  | commit name =>
      by_cases busy : session.isBusy name
      · exact .refused rfl rfl (if_pos busy) (if_pos busy)
      · exact .commits rfl (Bool.eq_false_iff.2 busy) (if_neg busy)
  | compile name =>
      by_cases busy : session.isBusy name
      · exact .refused rfl rfl (if_pos busy) (if_pos busy)
      · have idle := Bool.eq_false_iff.2 busy
        have taken : session.idsTakenBy (.compile name) =
            session.engine.idsFor (session.transaction name).queue := if_neg busy
        apply Works.takes rfl rfl
        · change (session.onTransaction name _).session.engine.requests = _
          rw [onTransaction_idle idle, taken]
          exact session.engine.compile_requests _
        · change (session.onTransaction name _).events = []
          rw [onTransaction_idle idle]
          rfl
  | watch location callback => exact .quiet rfl rfl rfl (.subscribe (.slot location callback))
  | onOpen callback => exact .quiet rfl rfl rfl (.subscribe (.opening callback))
  | onClose callback => exact .quiet rfl rfl rfl (.subscribe (.closing callback))
  | content content => exact .quiet rfl rfl rfl (.contentReceived content)
  | containerOpened container => exact .quiet rfl rfl rfl (.containerOpened container)
  | containerClosed container => exact .quiet rfl rfl rfl (.containerClosed container)
  | closeContainer tag => exact .quiet rfl rfl rfl (.closeContainer session.nextReceipt)
  | newRequestId =>
      refine .takes rfl rfl ?_ rfl
      change RequestTable.mk (Compile.idAfter session.engine.requests.nextId) _ =
        RequestTable.mk (Compile.idAt session.engine.requests.nextId (0 + 1)) _
      rw [← Compile.idAfter_idAt, Compile.idAt_zero]
  | addRequest requestId windows predictions tag => exact .registers rfl
  | cancelRequest requestId => exact .cancels rfl
  | respond responses => exact .answers rfl rfl rfl
  | packet received =>
      rcases Engine.Quiet.packet_cases session.engine received with brings | ⟨none, quiet⟩
      · exact .answers rfl rfl (congrArg (Progress.ofResult session) brings)
      · exact .quiet none (congrArg (List.map _) none) rfl quiet
  | bytes raw =>
      rcases Engine.Quiet.bytes_cases session.engine raw with brings | ⟨none, quiet⟩
      · exact .answers rfl rfl (congrArg (Progress.ofResult session) brings)
      · exact .quiet none (congrArg (List.map _) none) rfl quiet
  | enqueue _ _ | showQueue _ | discard _ =>
      apply Works.idle rfl rfl rfl
      exact onTransaction_cases (P := session.Untouched) ⟨rfl, rfl⟩ fun _ => ⟨rfl, rfl⟩
  | overlayLoad _ | overlayReserve _ _ | overlayItem _ | overlayTake _ _ | overlayPlace _ _
  | overlaySwap _ _ | overlayTransfer _ _ _ =>
      apply Works.idle rfl rfl rfl
      exact onOverlay_cases (P := session.Untouched) fun _ _ => ⟨rfl, rfl⟩
  | _ => exact .idle rfl rfl rfl ⟨rfl, rfl⟩

theorem perform_moves (session : Session α) (action : SessionStep α) :
    Moves session.engine session.nextCommit (session.perform action).session.nextCommit
      (session.idsTakenBy action) action.closings (session.engineStep action) := by
  cases session.perform_works action with
  | quiet _ unclosed unused quiet =>
      rw [unclosed, unused]
      exact .ofQuiet quiet
  | takes _ unclosed requests silent =>
      unfold engineStep
      rw [unclosed, silent]
      exact .takes (by rw [requests]; rfl) (by rw [requests]; rfl)
  | answers unused closings performed =>
      unfold engineStep
      rw [unused, closings, performed]
      exact .responses action.answers
  | @registers requestId _ _ _ same =>
      subst same
      exact .register requestId rfl
  | @cancels requestId same =>
      subst same
      exact .cancel requestId
  | @commits name same idle performed =>
      have starts := session.engine.startCommit_starts session.nextCommit
        (session.transaction name).queue
      have taken : session.idsTakenBy (.commit name) =
          session.engine.idsFor (session.transaction name).queue :=
        if_neg (Bool.eq_false_iff.1 idle)
      subst same
      unfold engineStep
      rw [performed, taken]
      exact .commit starts

end Session

end InventorySync
