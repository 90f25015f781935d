import InventorySync.Engine
import InventorySync.Transaction.Commit

/-!
A session from the side of its user: one engine, named transactions on it, an
overlay to try things out on, and everything that is to be seen of them. A
session goes on in steps. After each step the commits that came to an end are
reported in the order of their names, then the fate of the requests to close a
container.
-/

namespace InventorySync

set_option autoImplicit false

/-- A callback with the tag under which it is reported. -/
structure Callback (α : Type) where
  tag : α
  /-- Whether the callback registers itself anew when it runs. -/
  again : Bool := false
  deriving DecidableEq, Repr

def Callback.reactions {α : Type} : Reactions (Callback α) where
  slotChanged callback change := if callback.again then [.slot change.location callback] else []
  containerOpened callback _ := if callback.again then [.opening callback] else []
  containerClosed callback _ := if callback.again then [.closing callback] else []

/-- A commit that was not reported yet. -/
inductive RunningCommit where
  | waiting (number : Nat) (commit : Commit)
  | ended (result : Except SyncError CommitOutcome)

structure Transaction where
  queue : List Operation := []
  running : Option RunningCommit := none

namespace Transaction

/-- Hands an answer to the commit that waits for it. -/
def record (transaction : Transaction) (promise : Promise) (receipt : Receipt) : Transaction :=
  match transaction.running with
  | some (.waiting number commit) =>
      if number = promise.commit then
        { transaction with
          running := some (.waiting number (commit.record promise.position receipt)) }
      else
        transaction
  | _ => transaction

def result? (transaction : Transaction) : Option (Except SyncError CommitOutcome) :=
  match transaction.running with
  | none => none
  | some (.ended result) => some result
  | some (.waiting _ commit) => commit.outcome?

end Transaction

/-- One action of the user, or one packet from the server. -/
inductive SessionStep (α : Type) where
  | setSlot (location : Location) (item : Option Item)
  | getSlot (location : Location)
  | showWindow (window : WindowId)
  | listWindows
  | forgetWindow (window : WindowId)
  | watch (location : Location) (callback : Callback α)
  | content (content : WindowContent)
  | setCreative (index : CreativeIndex)
  | creativeItem (networkId : UInt32)
  | creativeNetworkId (itemType : Int32)
  | showContainer
  | onOpen (callback : Callback α)
  | onClose (callback : Callback α)
  | containerOpened (container : OpenedContainer)
  | containerClosed (container : ClosedContainer)
  | newRequestId
  | addRequest (requestId : Int32) (windows : RoleWindows) (predictions : Predictions) (tag : α)
  | cancelRequest (requestId : Int32)
  | countPending
  | isPending (requestId : Int32)
  | respond (responses : List StackResponse)
  | showPolicy
  | packet (packet : ServerPacket)
  | bytes (bytes : Bytes)
  | closeContainer (tag : α)
  | disconnect
  | reconnect
  | enqueue (transaction : String) (operation : Operation)
  | showQueue (transaction : String)
  | discard (transaction : String)
  | compile (transaction : String)
  | commit (transaction : String)
  | abandon (transaction : String)
  | newOverlay
  | overlayLoad (location : Location)
  | overlayReserve (location : Location) (requestId : Int32)
  | overlayItem (location : Location)
  | overlayTake (location : Location) (count : UInt8)
  | overlayPlace (location : Location) (item : Item)
  | overlaySwap (first second : Location)
  | overlayTransfer (source target : Location) (count : UInt8)

/-- The direct answer to a step. -/
inductive SessionReply where
  | done
  | failed (failure : SyncError)
  /-- The transaction cannot be used while its commit runs. -/
  | busy
  | slot (item : Option Item) (windowKnown : Bool)
  | window (slots : Option (List (UInt8 × Item)))
  | windows (windows : List WindowId)
  | itemType (itemType : Option Int32)
  | networkId (networkId : Option UInt32)
  | container (state : ContainerState) (opened : Option OpenedContainer) (isOpen : Bool)
      (closed : Option ClosedContainer)
  | opened (container : OpenedContainer)
  | closed (container : ClosedContainer)
  | requestId (requestId : Int32)
  | flag (value : Bool)
  | size (size : Nat)
  | queue (isEmpty : Bool) (operations : List Operation)
  | compiled (requests : List CompiledRequest)
  /-- For each kind of operation whether it has a request of its own. -/
  | dedicated (kinds : List Bool)
  | item (item : Item)

/-- Something that happened during a step. -/
inductive SessionReport (α : Type) where
  | slotChanged (tag : α) (change : SlotChange)
  | containerOpened (tag : α) (container : OpenedContainer)
  | containerClosed (tag : α) (container : ClosedContainer)
  | completed (tag : α) (response : StackResponse)
  | committed (transaction : String) (result : Except SyncError CommitOutcome) (queued : Nat)
  | closeConfirmed (tag : α) (container : ClosedContainer)
  | closeLost (tag : α)

structure SessionAnswer (α : Type) where
  reply : SessionReply
  reports : List (SessionReport α)
  sent : List ClientPacket

/-- Somebody who asked for a container to be closed. -/
structure CloseReceiver (α : Type) where
  number : Nat
  tag : α

structure Session (α : Type) where
  engine : Engine (Callback α)
  overlay : Overlay := .empty
  /-- The transactions by name, ascending. -/
  transactions : List (String × Transaction) := []
  receivers : List (CloseReceiver α) := []
  nextCommit : Nat := 0
  nextReceipt : Nat := 0

namespace Session

variable {α : Type}

def ofSettings (settings : Settings) : Session α :=
  { engine := { settings, reactions := Callback.reactions } }

section Transactions

/-- A transaction is made when it is first used. -/
def transaction (session : Session α) (name : String) : Transaction :=
  (session.transactions.lookup name).getD {}

def insertTransaction (name : String) (transaction : Transaction) :
    List (String × Transaction) → List (String × Transaction)
  | [] => [(name, transaction)]
  | (other, present) :: later =>
      if name = other then (name, transaction) :: later
      else if name < other then (name, transaction) :: (other, present) :: later
      else (other, present) :: insertTransaction name transaction later

def setTransaction (session : Session α) (name : String) (transaction : Transaction) :
    Session α :=
  { session with transactions := insertTransaction name transaction session.transactions }

def isBusy (session : Session α) (name : String) : Bool :=
  (session.transaction name).running.isSome

end Transactions

/-- What a step leads to before anything is reported. -/
structure Progress (α : Type) where
  session : Session α
  reply : SessionReply
  events : List (Event (Callback α)) := []

namespace Progress

def answer (session : Session α) (reply : SessionReply) : Progress α := { session, reply }

def ofEngine (session : Session α) (reply : SessionReply) (step : Engine.Step (Callback α)) :
    Progress α :=
  { session := { session with engine := step.1 }, reply, events := step.2 }

def ofResult (session : Session α)
    (result : Except SyncError Unit × Engine.Step (Callback α)) : Progress α :=
  let reply := match result.1 with
    | .ok () => .done
    | .error failure => .failed failure
  ofEngine session reply result.2

end Progress

open Progress

def setInventory (session : Session α) (inventory : Inventory) : Session α :=
  { session with engine := { session.engine with inventory } }

/-- Acts on the overlay, which keeps what was done before a failure. -/
def onOverlay {β : Type} (session : Session α) (action : Overlay.Action β)
    (reply : β → SessionReply) : Progress α :=
  match action session.overlay with
  | (.ok result, overlay) => answer { session with overlay } (reply result)
  | (.error failure, overlay) => answer { session with overlay } (.failed failure)

/-- Uses a transaction, unless its commit runs. -/
def onTransaction (session : Session α) (name : String) (use : Transaction → Progress α) :
    Progress α :=
  if session.isBusy name then answer session .busy else use (session.transaction name)

/-- Starts the commit of a transaction. Its end is reported later, or right after
this step if there is nothing to wait for. The queue is empty once it was sent. -/
def startCommit (session : Session α) (name : String) (transaction : Transaction) : Progress α :=
  let number := session.nextCommit
  let (start, engine, events) := session.engine.startCommit number transaction.queue
  let after := match start with
    | .nothingQueued => { transaction with running := some (.ended (.ok .nothing)) }
    | .failed failure => { transaction with running := some (.ended (.error failure)) }
    | .sent requests => { queue := [], running := some (.waiting number (.ofRequests requests)) }
  let started := { session with engine, nextCommit := number + 1 }
  { session := started.setTransaction name after, reply := .done, events }

/-- Drops a running commit together with its transaction. Its requests stay
registered. -/
def abandonCommit (session : Session α) (name : String) : Progress α :=
  let running := session.isBusy name
  let remaining :=
    if running then Keyed.erase session.transactions name else session.transactions
  answer { session with transactions := remaining } (.flag running)

/-- Asks for the open container to be closed. -/
def requestClose (session : Session α) (tag : α) : Progress α :=
  let number := session.nextReceipt
  let (result, step) := session.engine.closeContainer number
  let receivers := match result with
    | .ok () => session.receivers ++ [⟨number, tag⟩]
    | .error _ => session.receivers
  ofResult { session with nextReceipt := number + 1, receivers } (result, step)

def perform (session : Session α) : SessionStep α → Progress α
  | .setSlot location item =>
      answer (session.setInventory (session.engine.inventory.set location (item.getD .empty))) .done
  | .getSlot location =>
      answer session (.slot (session.engine.inventory.item? location)
        (session.engine.inventory.knows location.window))
  | .showWindow window => answer session (.window (session.engine.inventory.present? window))
  | .listWindows => answer session (.windows session.engine.inventory.knownWindows)
  | .forgetWindow window =>
      answer (session.setInventory (session.engine.inventory.forget window)) .done
  | .watch location callback =>
      ofEngine session .done (session.engine.subscribe (.slot location callback))
  | .content content => ofEngine session .done (session.engine.contentReceived content)
  | .setCreative index =>
      answer { session with engine := { session.engine with creative := index } } .done
  | .creativeItem networkId =>
      answer session (.itemType (session.engine.creative.itemType? networkId))
  | .creativeNetworkId itemType =>
      answer session (.networkId (session.engine.creative.networkId? itemType))
  | .showContainer =>
      let containers := session.engine.containers
      answer session (.container containers.state containers.openContainer? containers.isOpen
        containers.closedContainer?)
  | .onOpen callback => ofEngine session .done (session.engine.subscribe (.opening callback))
  | .onClose callback => ofEngine session .done (session.engine.subscribe (.closing callback))
  | .containerOpened container =>
      ofEngine session (.opened container) (session.engine.containerOpened container)
  | .containerClosed container =>
      ofEngine session (.closed container) (session.engine.containerClosed container)
  | .newRequestId =>
      let (requestId, requests) := session.engine.requests.newId
      answer { session with engine := { session.engine with requests } } (.requestId requestId)
  | .addRequest requestId windows predictions tag =>
      ofEngine session .done
        (session.engine.register requestId ⟨windows, predictions, .callback ⟨tag, false⟩⟩)
  | .cancelRequest requestId =>
      ofEngine session (.flag (session.engine.requests.isPending requestId))
        (session.engine.cancel requestId)
  | .countPending => answer session (.size session.engine.requests.pending.length)
  | .isPending requestId =>
      answer session (.flag (session.engine.requests.isPending requestId))
  | .respond responses => ofResult session (session.engine.responsesReceived responses)
  | .showPolicy =>
      answer session (.dedicated (OperationKind.all.map session.engine.settings.policy.isDedicated))
  | .packet packet => ofResult session (session.engine.packetReceived packet)
  | .bytes bytes => ofResult session (session.engine.bytesReceived bytes)
  | .closeContainer tag => session.requestClose tag
  | .disconnect =>
      answer { session with engine := { session.engine with connected := false } } .done
  | .reconnect =>
      answer { session with engine := { session.engine with connected := true } } .done
  | .enqueue name operation =>
      session.onTransaction name fun transaction =>
        let queue := transaction.queue ++ [operation]
        answer (session.setTransaction name { transaction with queue }) (.size queue.length)
  | .showQueue name =>
      session.onTransaction name fun transaction =>
        answer session (.queue transaction.queue.isEmpty transaction.queue)
  | .discard name =>
      session.onTransaction name fun transaction =>
        answer (session.setTransaction name { transaction with queue := [] }) (.size 0)
  | .compile name =>
      session.onTransaction name fun transaction =>
        let (result, engine) := session.engine.compile transaction.queue
        let reply := match result with
          | .ok requests => .compiled requests
          | .error failure => .failed failure
        answer { session with engine } reply
  | .commit name => session.onTransaction name fun transaction => session.startCommit name transaction
  | .abandon name => session.abandonCommit name
  | .newOverlay => answer { session with overlay := .empty } .done
  | .overlayLoad location =>
      session.onOverlay (Overlay.load session.engine.inventory location) .requestId
  | .overlayReserve location requestId =>
      session.onOverlay (Overlay.reserve session.engine.inventory location requestId) .requestId
  | .overlayItem location =>
      session.onOverlay (Overlay.item session.engine.inventory location) .item
  | .overlayTake location count =>
      session.onOverlay (Overlay.take session.engine.inventory location count) .item
  | .overlayPlace location item =>
      session.onOverlay (Overlay.place session.engine.inventory location item) fun () => .done
  | .overlaySwap first second =>
      session.onOverlay (Overlay.swap session.engine.inventory first second) fun () => .done
  | .overlayTransfer source target count =>
      session.onOverlay (Overlay.transfer session.engine.inventory source target count)
        fun () => .done

section Reporting

/-- What the user sees of an event at once. -/
def reportOf : Event (Callback α) → Option (SessionReport α)
  | .slotChanged callback change => some (.slotChanged callback.tag change)
  | .containerOpened callback container => some (.containerOpened callback.tag container)
  | .containerClosed callback container => some (.containerClosed callback.tag container)
  | .completed callback response => some (.completed callback.tag response)
  | _ => none

def recordAll (session : Session α) (promise : Promise) (receipt : Receipt) : Session α :=
  { session with transactions := session.transactions.map fun (name, transaction) =>
      (name, transaction.record promise receipt) }

/-- Hands an event to the commit that waits for it. -/
def absorb (session : Session α) : Event (Callback α) → Session α
  | .answered promise response => session.recordAll promise (.answered response)
  | .abandoned promise => session.recordAll promise .dropped
  | _ => session

/-- Reports the commits that came to an end. -/
def endCommits :
    List (String × Transaction) → List (SessionReport α) × List (String × Transaction)
  | [] => ([], [])
  | (name, transaction) :: later =>
      let (reports, others) := endCommits later
      match transaction.result? with
      | none => (reports, (name, transaction) :: others)
      | some result =>
          (.committed name result transaction.queue.length :: reports,
            (name, { transaction with running := none }) :: others)

/-- What became of a request to close a container. -/
def fateOf (events : List (Event (Callback α))) (receiver : CloseReceiver α) :
    Option (SessionReport α) :=
  events.findSome? fun event =>
    match event with
    | .closeConfirmed number container =>
        if number = receiver.number then some (.closeConfirmed receiver.tag container) else none
    | .closeLost number =>
        if number = receiver.number then some (.closeLost receiver.tag) else none
    | _ => none

def sentPacket? : Event (Callback α) → Option ClientPacket
  | .sent packet => some packet
  | _ => none

/-- Reports a step and ends what came to an end with it. -/
def report (progress : Progress α) : Session α × SessionAnswer α :=
  let session := progress.events.foldl absorb progress.session
  let (commits, transactions) := endCommits session.transactions
  let fates := session.receivers.filterMap (fateOf progress.events)
  let receivers := session.receivers.filter fun receiver =>
    (fateOf progress.events receiver).isNone
  ({ session with transactions, receivers },
    { reply := progress.reply
      reports := progress.events.filterMap reportOf ++ commits ++ fates
      sent := progress.events.filterMap sentPacket? })

end Reporting

def step (session : Session α) (action : SessionStep α) : Session α × SessionAnswer α :=
  report (session.perform action)

/-- The answers to a row of steps. -/
def run (session : Session α) : List (SessionStep α) → List (SessionAnswer α)
  | [] => []
  | action :: later =>
      let (next, answer) := session.step action
      answer :: next.run later

end Session

end InventorySync
