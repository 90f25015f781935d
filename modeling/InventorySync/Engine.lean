import InventorySync.Container.Tracker
import InventorySync.Inventory.Observers
import InventorySync.Packet.Basic
import InventorySync.Transaction.Requests

/-!
The state that one connection shares: what the client knows of the inventories,
the open container, the requests under way, and everybody who waits for a change
of them. Callbacks are data. What a callback does when it runs is to be seen by
the outside, as an event, and to register further callbacks.
-/

namespace InventorySync

set_option autoImplicit false

/-- What stays the same during a session. -/
structure Settings where
  policy : GroupingPolicy := .default
  overrides : RoleOverrides := []
  dropRandomly : Bool := false

/-- A callback to be registered. -/
inductive Subscription (τ : Type) where
  | slot (location : Location) (callback : τ)
  | opening (callback : τ)
  | closing (callback : τ)
  deriving DecidableEq, Repr

/-- What callbacks register when they run. -/
structure Reactions (τ : Type) where
  slotChanged : τ → SlotChange → List (Subscription τ) := fun _ _ => []
  containerOpened : τ → OpenedContainer → List (Subscription τ) := fun _ _ => []
  containerClosed : τ → ClosedContainer → List (Subscription τ) := fun _ _ => []

/-- Names one of the requests of a commit. -/
structure Promise where
  commit : Nat
  position : Nat
  deriving DecidableEq, Repr, Inhabited

/-- Who is told of the answer to a request. -/
inductive Completion (τ : Type) where
  | callback (callback : τ)
  | promise (promise : Promise)
  deriving DecidableEq, Repr

inductive Event (τ : Type) where
  | slotChanged (callback : τ) (change : SlotChange)
  | containerOpened (callback : τ) (container : OpenedContainer)
  | containerClosed (callback : τ) (container : ClosedContainer)
  | completed (callback : τ) (response : StackResponse)
  | answered (promise : Promise) (response : StackResponse)
  /-- The answer to a request will not be told any more. -/
  | abandoned (promise : Promise)
  | closeConfirmed (receipt : Nat) (container : ClosedContainer)
  /-- Another hook took the place of the one that a receipt stands for. -/
  | closeLost (receipt : Nat)
  | sent (packet : ClientPacket)
  deriving DecidableEq, Repr

structure Engine (τ : Type) where
  settings : Settings := {}
  reactions : Reactions τ := {}
  inventory : Inventory := .empty
  observers : Observers τ := []
  creative : CreativeIndex := []
  containers : ContainerTracker τ := {}
  requests : RequestTable (Completion τ) := {}
  /-- Whether packets still get through to the server. -/
  connected : Bool := true

namespace Engine

variable {τ : Type}

/-- The part of a step that cannot fail: the engine after it, and what happened. -/
abbrev Step (τ : Type) := Engine τ × List (Event τ)

/-- What takes packets to the server. It may look at the engine as it is when a packet is
handed over. -/
abbrev Sender (τ : Type) := Engine τ → ClientPacket → Except SyncError Unit

/-- The sender of a session: whatever is handed over gets through while there is a connection. -/
def send (engine : Engine τ) (_packet : ClientPacket) : Except SyncError Unit :=
  if engine.connected then .ok () else .error .channelClosed

section Callbacks

def lostReceipt : Option (CloseHook τ) → List (Event τ)
  | some (.receipt number) => [.closeLost number]
  | _ => []

def setCloseHook (engine : Engine τ) (hook : Option (CloseHook τ)) : Step τ :=
  let (containers, replaced) := engine.containers.setCloseHook hook
  ({ engine with containers }, lostReceipt replaced)

def subscribe (engine : Engine τ) : Subscription τ → Step τ
  | .slot location callback =>
      ({ engine with observers := engine.observers.set location callback }, [])
  | .opening callback =>
      ({ engine with containers := { engine.containers with openHook := some callback } }, [])
  | .closing callback => engine.setCloseHook (some (.callback callback))

def subscribeAll (engine : Engine τ) : List (Subscription τ) → Step τ
  | [] => (engine, [])
  | subscription :: later =>
      let (subscribed, events) := engine.subscribe subscription
      let (final, others) := subscribed.subscribeAll later
      (final, events ++ others)

/-- Runs observers one after another. They were all taken out before, so what one
of them registers does not run now. -/
def runObservers (engine : Engine τ) : List (τ × SlotChange) → Step τ
  | [] => (engine, [])
  | (callback, change) :: later =>
      let (ran, events) :=
        engine.subscribeAll (engine.reactions.slotChanged callback change)
      let (final, others) := ran.runObservers later
      (final, .slotChanged callback change :: (events ++ others))

end Callbacks

section Windows

def contentReceived (engine : Engine τ) (content : WindowContent) : Step τ :=
  let (inventory, changes) := engine.inventory.apply content
  let (due, observers) := engine.observers.take changes
  { engine with inventory, observers }.runObservers due

def containerOpened (engine : Engine τ) (container : OpenedContainer) : Step τ :=
  let (containers, hook) := engine.containers.opened container
  let changed := { engine with containers }
  match hook with
  | none => (changed, [])
  | some callback =>
      let (final, events) :=
        changed.subscribeAll (engine.reactions.containerOpened callback container)
      (final, .containerOpened callback container :: events)

def containerClosed (engine : Engine τ) (container : ClosedContainer) : Step τ :=
  let (containers, hook) := engine.containers.closed container
  let changed := { engine with containers }
  match hook with
  | none => (changed, [])
  | some (.receipt number) => (changed, [.closeConfirmed number container])
  | some (.callback callback) =>
      let (final, events) :=
        changed.subscribeAll (engine.reactions.containerClosed callback container)
      (final, .containerClosed callback container :: events)

/-- Forgets a window that is no longer open. The player's windows stay. -/
def forgetClosed (engine : Engine τ) (window : WindowId) : Engine τ :=
  if Window.isPlayer window then engine
  else { engine with inventory := engine.inventory.forget window }

end Windows

section Requests

def completionEvent : Completion τ × StackResponse → Event τ
  | (.callback callback, response) => .completed callback response
  | (.promise promise, response) => .answered promise response

def responsesReceived (engine : Engine τ) (responses : List StackResponse) :
    Except SyncError Unit × Step τ :=
  let settlement := RequestTable.settle responses engine.requests engine.inventory
  (settlement.outcome,
    { engine with requests := settlement.table, inventory := settlement.inventory },
    settlement.completed.map completionEvent)

def abandonedBy : Option (Registration (Completion τ)) → List (Event τ)
  | some ⟨_, _, .promise promise⟩ => [.abandoned promise]
  | _ => []

/-- Registers a request. A request that was waiting under the id is given up. -/
def register (engine : Engine τ) (requestId : Int32) (registration : Registration (Completion τ)) :
    Step τ :=
  ({ engine with requests := engine.requests.register requestId registration },
    abandonedBy (engine.requests.find? requestId))

/-- Gives up a waiting request. -/
def cancel (engine : Engine τ) (requestId : Int32) : Step τ :=
  ({ engine with requests := engine.requests.remove requestId },
    abandonedBy (engine.requests.find? requestId))

def cancelAll (engine : Engine τ) : List Int32 → Step τ
  | [] => (engine, [])
  | requestId :: later =>
      let (cancelled, events) := engine.cancel requestId
      let (final, others) := cancelled.cancelAll later
      (final, events ++ others)

def context (engine : Engine τ) : Compile.Context :=
  { inventory := engine.inventory
    creative := engine.creative
    overrides := engine.settings.overrides
    opened := engine.containers.openContainer?
    dropRandomly := engine.settings.dropRandomly }

/-- The requests for a queue of operations. Only the next free id changes. -/
def compile (engine : Engine τ) (queue : List Operation) :
    Except SyncError (List CompiledRequest) × Engine τ :=
  let (compiled, free) := Compile.groups engine.context engine.requests.nextId .empty
    (engine.settings.policy.group queue)
  (compiled, { engine with requests := { engine.requests with nextId := free } })

/-- Registers the requests of a commit, the first of them at a given position. -/
def registerAll (engine : Engine τ) (commit : Nat) : Nat → List CompiledRequest → Step τ
  | _, [] => (engine, [])
  | position, compiled :: later =>
      let (registered, events) := engine.register compiled.request.id
        ⟨compiled.windows, compiled.predictions, .promise ⟨commit, position⟩⟩
      let (final, others) := registered.registerAll commit (position + 1) later
      (final, events ++ others)

/-- How a commit began. -/
inductive CommitStart where
  | nothingQueued
  /-- Nothing was sent, and the queue is as it was. -/
  | failed (failure : SyncError)
  | sent (requests : List StackRequest)
  deriving DecidableEq, Repr

/-- What becomes of registered requests by the sender's answer to their packet. If it cannot be
sent the registrations are taken back. -/
def handedOver (registered : Step τ) (packet : List StackRequest) :
    Except SyncError Unit → CommitStart × Step τ
  | .ok () =>
      (.sent packet, registered.1, registered.2 ++ [.sent (.stackRequests packet)])
  | .error failure =>
      let (cancelled, dropped) := registered.1.cancelAll (packet.map StackRequest.id)
      (.failed failure, cancelled, registered.2 ++ dropped)

/-- Compiles a queue, registers its requests and hands them over in one packet. -/
def startCommitThrough (engine : Engine τ) (sender : Sender τ) (commit : Nat)
    (queue : List Operation) : CommitStart × Step τ :=
  if queue.isEmpty then
    (.nothingQueued, engine, [])
  else
    match engine.compile queue with
    | (.error failure, compiled) => (.failed failure, compiled, [])
    | (.ok requests, compiled) =>
        let packet := requests.map CompiledRequest.request
        let registered := compiled.registerAll commit 0 requests
        handedOver registered packet (sender registered.1 (.stackRequests packet))

def startCommit (engine : Engine τ) (commit : Nat) (queue : List Operation) :
    CommitStart × Step τ :=
  engine.startCommitThrough send commit queue

end Requests

/-- Takes in one packet from the server. -/
def packetReceived (engine : Engine τ) : ServerPacket → Except SyncError Unit × Step τ
  | .windowContent content => (.ok (), engine.contentReceived content)
  | .containerOpened container => (.ok (), engine.containerOpened container)
  | .containerClosed container =>
      let (closed, events) := engine.containerClosed container
      (.ok (), closed.forgetClosed container.window, events)
  | .stackResponses responses => engine.responsesReceived responses

/-- Takes in one packet as it came over the wire. Packets of other kinds are not
for this library. -/
def bytesReceived (engine : Engine τ) (bytes : Bytes) : Except SyncError Unit × Step τ :=
  match ServerPacket.read bytes with
  | .ok (packet, _) => engine.packetReceived packet
  | .error (.unknownPacket _) => (.ok (), engine, [])
  | .error cause => (.error (.wire cause), engine, [])

/-- Asks the server to close the open container. The receipt stands for the hook
that waits for it. If the packet cannot be sent, no hook is left. -/
def closeContainer (engine : Engine τ) (receipt : Nat) : Except SyncError Unit × Step τ :=
  match engine.containers.openContainer? with
  | none => (.error .noOpenContainer, engine, [])
  | some container =>
      let (hooked, events) := engine.setCloseHook (some (.receipt receipt))
      let packet := .closeContainer ⟨container.window, false⟩
      match hooked.send packet with
      | .ok () => (.ok (), hooked, events ++ [.sent packet])
      | .error failure =>
          let (cleared, others) := hooked.setCloseHook none
          (.error failure, cleared, events ++ others)

end Engine

end InventorySync
