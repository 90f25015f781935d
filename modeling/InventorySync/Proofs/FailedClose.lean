import InventorySync.Proofs.ForgottenWindows

/-!
What a request to close the open container leaves of the hook that waits for the close. Only one
hook waits at a time, so that the request puts its own in the place of the one before. If it
cannot be sent, it takes its own out again, but does not put the one before back: that one is
forgotten, and nothing of it happens at the next close. A hook that is left where it is runs
once, at the first close.
-/

namespace InventorySync

set_option autoImplicit false

variable {τ : Type}

/-- What is to be seen of a close hook when it runs. -/
def CloseHook.event (container : ClosedContainer) : CloseHook τ → Event τ
  | .callback called => .containerClosed called container
  | .receipt number => .closeConfirmed number container

def Event.ofCloseHook : Event τ → Bool
  | .containerClosed _ _ => true
  | .closeConfirmed _ _ => true
  | _ => false

/-- The runs of close hooks. -/
def closings (events : List (Event τ)) : List (Event τ) := events.filter Event.ofCloseHook

theorem closings_append (first second : List (Event τ)) :
    closings (first ++ second) = closings first ++ closings second :=
  List.filter_append first second

/-- What the callback that an event tells of registers. -/
def Event.registers (reactions : Reactions τ) : Event τ → List (Subscription τ)
  | .slotChanged callback change => reactions.slotChanged callback change
  | .containerOpened callback container => reactions.containerOpened callback container
  | .containerClosed callback container => reactions.containerClosed callback container
  | _ => []

/-- None of the callbacks that run registers a close hook. -/
def Unhooked (reactions : Reactions τ) (events : List (Event τ)) : Prop :=
  ∀ event ∈ events, ∀ callback, .closing callback ∉ event.registers reactions

theorem unhooked_append {reactions : Reactions τ} {first second : List (Event τ)} :
    Unhooked reactions (first ++ second) ↔
      Unhooked reactions first ∧ Unhooked reactions second := by
  unfold Unhooked
  exact List.forall_mem_append

def Turn.closed? : Turn → Option ClosedContainer
  | .received (.containerClosed container) => some container
  | _ => none

theorem Turn.eq_of_closed? {turn : Turn} {container : ClosedContainer}
    (closed : turn.closed? = some container) : turn = .received (.containerClosed container) := by
  cases turn with
  | commit _ _ => cases closed
  | received packet =>
      cases packet with
      | containerClosed _ => cases closed; rfl
      | windowContent _ => cases closed
      | containerOpened _ => cases closed
      | stackResponses _ => cases closed

/-- A hook that waits runs at the first close, and only there. -/
def nextClosing (hook : Option (CloseHook τ)) (turns : List Turn) : List (Event τ) :=
  ((turns.findSome? Turn.closed?).bind fun container =>
    hook.map (CloseHook.event container)).toList

theorem nextClosing_none (turns : List Turn) : (nextClosing none turns : List (Event τ)) = [] := by
  unfold nextClosing
  cases turns.findSome? Turn.closed? <;> rfl

namespace Engine

variable {engine : Engine τ}

def happens (engine : Engine τ) : Turn → List (Event τ)
  | .received packet => (engine.packetReceived packet).2.2
  | .commit number queue => (engine.startCommit number queue).2.2

/-- All that happens in a run. -/
def history (engine : Engine τ) : List Turn → List (Event τ)
  | [] => []
  | turn :: later => engine.happens turn ++ (engine.turn turn).history later

section Requests

theorem closings_registerAll {commit position : Nat} {compiled : List CompiledRequest} :
    closings (engine.registerAll commit position compiled).2 = [] := by
  refine List.filter_eq_nil_iff.2 fun event told => ?_
  obtain ⟨promise, rfl⟩ := registerAll_told told
  exact Bool.false_ne_true

theorem closings_cancelAll {requestIds : List Int32} :
    closings (engine.cancelAll requestIds).2 = [] := by
  refine List.filter_eq_nil_iff.2 fun event told => ?_
  obtain ⟨promise, rfl⟩ := cancelAll_told told
  exact Bool.false_ne_true

end Requests

/-- A step that leaves the close hook where it is, and runs none. -/
structure SparesHook (engine : Engine τ) (step : Step τ) : Prop where
  hook : step.1.containers.closeHook = engine.containers.closeHook
  reactions : step.1.reactions = engine.reactions
  runsNone : closings step.2 = []

namespace SparesHook

theorem of_nil {after : Engine τ}
    (hook : after.containers.closeHook = engine.containers.closeHook)
    (reactions : after.reactions = engine.reactions) : SparesHook engine (after, []) :=
  ⟨hook, reactions, rfl⟩

theorem append {first second : Step τ} (head : SparesHook engine first)
    (tail : SparesHook first.1 second) : SparesHook engine (second.1, first.2 ++ second.2) := by
  refine ⟨tail.hook.trans head.hook, tail.reactions.trans head.reactions, ?_⟩
  rw [closings_append, head.runsNone, tail.runsNone, List.append_nil]

theorem subscribe {subscription : Subscription τ}
    (other : ∀ callback, .closing callback ≠ subscription) :
    SparesHook engine (engine.subscribe subscription) := by
  cases subscription with
  | slot location callback => exact of_nil rfl rfl
  | opening callback => exact of_nil rfl rfl
  | closing callback => exact absurd rfl (other callback)

theorem subscribeAll {subscriptions : List (Subscription τ)}
    (others : ∀ callback, .closing callback ∉ subscriptions) :
    SparesHook engine (engine.subscribeAll subscriptions) := by
  induction subscriptions generalizing engine with
  | nil => exact of_nil rfl rfl
  | cons subscription later induction =>
      have first := @subscribe τ engine subscription fun callback same =>
        others callback (same ▸ List.mem_cons_self)
      exact first.append (induction fun callback member =>
        others callback (List.mem_cons_of_mem _ member))

theorem runObservers {due : List (τ × SlotChange)}
    (unhooked : Unhooked engine.reactions (engine.runObservers due).2) :
    SparesHook engine (engine.runObservers due) := by
  induction due generalizing engine with
  | nil => exact of_nil rfl rfl
  | cons entry later induction =>
      obtain ⟨callback, change⟩ := entry
      obtain ⟨own, others⟩ := List.forall_mem_cons.1 unhooked
      have ran := @subscribeAll τ engine (engine.reactions.slotChanged callback change) own
      have rest : Unhooked
          (engine.subscribeAll (engine.reactions.slotChanged callback change)).1.reactions
          ((engine.subscribeAll
            (engine.reactions.slotChanged callback change)).1.runObservers later).2 := by
        rw [ran.reactions]
        exact (unhooked_append.1 others).2
      have both := ran.append (induction rest)
      exact ⟨both.hook, both.reactions, both.runsNone⟩

theorem containerOpened {container : OpenedContainer}
    (unhooked : Unhooked engine.reactions (engine.containerOpened container).2) :
    SparesHook engine (engine.containerOpened container) := by
  unfold Engine.containerOpened ContainerTracker.opened at unhooked ⊢
  cases found : engine.containers.openHook with
  | none => exact of_nil rfl rfl
  | some callback =>
      simp only [found] at unhooked ⊢
      have ran := @subscribeAll τ
        { engine with
          containers := { engine.containers with state := .opened container, openHook := none } }
        (engine.reactions.containerOpened callback container)
        (List.forall_mem_cons.1 unhooked).1
      exact ⟨ran.hook, ran.reactions, ran.runsNone⟩

theorem responsesReceived (batch : List StackResponse) :
    SparesHook engine (engine.responsesReceived batch).2 := by
  refine ⟨rfl, rfl, List.filter_eq_nil_iff.2 ?_⟩
  rintro _ told
  obtain ⟨⟨completion, response⟩, -, rfl⟩ := List.mem_map.1 told
  cases completion with
  | callback _ => exact Bool.false_ne_true
  | promise _ => exact Bool.false_ne_true

theorem startCommit (number : Nat) (queue : List Operation) :
    SparesHook engine (engine.startCommit number queue).2 := by
  constructor
  case hook => rw [startCommit_engine]
  case reactions => rw [startCommit_engine]
  case runsNone =>
    have starts := engine.startCommit_starts number queue
    generalize engine.startCommit number queue = start at starts ⊢
    cases starts with
    | nothingQueued _ => rfl
    | uncompiled _ => rfl
    | sent _ _ _ => rw [closings_append, closings_registerAll]; rfl
    | unsent _ _ => rw [closings_append, closings_registerAll, closings_cancelAll]; rfl

/-- Every turn but a close leaves the hook where it is, as long as no callback registers another. -/
theorem turn {turn : Turn} (other : turn.closed? = none)
    (unhooked : Unhooked engine.reactions (engine.happens turn)) :
    SparesHook engine (engine.turn turn, engine.happens turn) := by
  cases turn with
  | commit number queue => exact startCommit number queue
  | received packet =>
      cases packet with
      | windowContent content =>
          have ran := @runObservers τ
            { engine with
              inventory := (engine.inventory.apply content).1
              observers := (engine.observers.take (engine.inventory.apply content).2).2 }
            _ unhooked
          exact ⟨ran.hook, ran.reactions, ran.runsNone⟩
      | containerOpened container => exact containerOpened unhooked
      | containerClosed container => cases other
      | stackResponses batch => exact responsesReceived batch

end SparesHook

/-- A close takes the hook away and runs it. -/
structure TakesHook (engine : Engine τ) (container : ClosedContainer) (step : Step τ) : Prop where
  hook : step.1.containers.closeHook = none
  reactions : step.1.reactions = engine.reactions
  runs : closings step.2 = (engine.containers.closeHook.map (CloseHook.event container)).toList

theorem containerClosed_takesHook {container : ClosedContainer}
    (unhooked : Unhooked engine.reactions (engine.containerClosed container).2) :
    TakesHook engine container (engine.containerClosed container) := by
  unfold containerClosed ContainerTracker.closed at unhooked ⊢
  rcases found : engine.containers.closeHook with none | ⟨callback | number⟩
  · exact ⟨rfl, rfl, by rw [found]; rfl⟩
  · simp only [found] at unhooked ⊢
    have ran := @SparesHook.subscribeAll τ
      { engine with
        containers := { engine.containers with state := .closed container, closeHook := none } }
      (engine.reactions.containerClosed callback container)
      (List.forall_mem_cons.1 unhooked).1
    refine ⟨ran.hook, ran.reactions, ?_⟩
    rw [found]
    exact congrArg (Event.containerClosed callback container :: ·) ran.runsNone
  · exact ⟨rfl, rfl, by rw [found]; rfl⟩

theorem turn_takesHook {container : ClosedContainer}
    (unhooked : Unhooked engine.reactions
      (engine.happens (.received (.containerClosed container)))) :
    TakesHook engine container (engine.turn (.received (.containerClosed container)),
      engine.happens (.received (.containerClosed container))) := by
  have took := containerClosed_takesHook unhooked
  have forgets : (engine.turn (.received (.containerClosed container))) =
      (engine.containerClosed container).1.forgetClosed container.window := rfl
  unfold forgetClosed at forgets
  constructor
  case hook =>
    rw [forgets]
    split <;> exact took.hook
  case reactions =>
    rw [forgets]
    split <;> exact took.reactions
  case runs => exact took.runs

/-- As long as no callback registers a close hook, only the one that waits runs, and once. -/
theorem closings_history {turns : List Turn}
    (unhooked : Unhooked engine.reactions (engine.history turns)) :
    closings (engine.history turns) = nextClosing engine.containers.closeHook turns := by
  -- What one turn makes of the hook is all that the turns after it depend on.
  induction turns generalizing engine with
  | nil => rfl
  | cons turn later induction =>
      obtain ⟨now, rest⟩ := unhooked_append.1 unhooked
      unfold history nextClosing
      rw [closings_append, List.findSome?_cons]
      cases closed : turn.closed? with
      | none =>
          have spares := SparesHook.turn closed now
          rw [← spares.reactions] at rest
          rw [spares.runsNone, induction rest, spares.hook]
          rfl
      | some container =>
          obtain rfl := Turn.eq_of_closed? closed
          have takes := turn_takesHook now
          rw [← takes.reactions] at rest
          rw [takes.runs, induction rest, takes.hook, nextClosing_none, List.append_nil]
          rfl

/-- How a request to close the open container goes. -/
inductive AsksToClose (engine : Engine τ) (receipt : Nat) :
    Except SyncError Unit × Step τ → Prop where
  | notOpen (closed : engine.containers.isOpen = false) :
      AsksToClose engine receipt (.error .noOpenContainer, engine, [])
  | sent {container : OpenedContainer}
      (opened : engine.containers.openContainer? = some container)
      (connected : engine.connected) :
      AsksToClose engine receipt
        (.ok (), { engine with
            containers := { engine.containers with closeHook := some (.receipt receipt) } },
          lostReceipt engine.containers.closeHook ++
            [.sent (.closeContainer ⟨container.window, false⟩)])
  | unsent (opened : engine.containers.isOpen) (disconnected : engine.connected = false) :
      AsksToClose engine receipt
        (.error .channelClosed,
          { engine with containers := { engine.containers with closeHook := none } },
          lostReceipt engine.containers.closeHook ++ [.closeLost receipt])

theorem closeContainer_asksToClose (engine : Engine τ) (receipt : Nat) :
    AsksToClose engine receipt (engine.closeContainer receipt) := by
  unfold closeContainer
  cases opened : engine.containers.openContainer? with
  | none =>
      refine .notOpen ?_
      unfold ContainerTracker.isOpen
      rw [opened]
      rfl
  | some container =>
      simp only
      split
      · next through =>
          rw [send_eq_ok_iff] at through
          exact .sent opened through
      · next failure refused =>
          obtain ⟨rfl, disconnected⟩ := send_eq_error_iff.1 refused
          refine .unsent ?_ disconnected
          unfold ContainerTracker.isOpen
          rw [opened]
          rfl

/-- What a request to close the open container leaves behind if it fails. -/
structure ForgetsHook (engine : Engine τ) (receipt : Nat) (failure : SyncError)
    (step : Step τ) : Prop where
  reason : failure = if engine.containers.isOpen then .channelClosed else .noOpenContainer
  /-- Nothing is different but the close hook, which is gone if a container was open. -/
  left : step.1 = { engine with
    containers := { engine.containers with
      closeHook := if engine.containers.isOpen then none else engine.containers.closeHook } }
  told : step.2 = if engine.containers.isOpen then
    lostReceipt engine.containers.closeHook ++ [.closeLost receipt] else []
  /-- So nothing is different just if there was no hook to forget. -/
  unchanged : step.1.containers = engine.containers ↔
    (engine.containers.isOpen → engine.containers.closeHook = none)
  /-- The hook runs once, at the next close, if no container was open, and never otherwise. -/
  later : ∀ turns, Unhooked engine.reactions (step.1.history turns) →
    closings (step.1.history turns) =
      if engine.containers.isOpen then [] else nextClosing engine.containers.closeHook turns

/-- A request to close a container that fails forgets the hook that waited for the close, unless
no container was open. -/
theorem failed_close_forgets_the_hook {engine : Engine τ} {receipt : Nat} {failure : SyncError}
    (fails : (engine.closeContainer receipt).1 = .error failure) :
    engine.ForgetsHook receipt failure (engine.closeContainer receipt).2 := by
  have asks := engine.closeContainer_asksToClose receipt
  generalize engine.closeContainer receipt = result at fails asks ⊢
  cases asks with
  | sent _ _ => cases fails
  | notOpen closed =>
      cases fails
      constructor
      case reason => rw [closed]; rfl
      case left => rw [closed]; rfl
      case told => rw [closed]; rfl
      case unchanged => simp [closed]
      case later =>
        intro turns unhooked
        rw [closed]
        exact closings_history unhooked
  | unsent opened _ =>
      cases fails
      constructor
      case reason => rw [opened]; rfl
      case left => rw [opened]; rfl
      case told => rw [opened]; rfl
      case unchanged =>
        constructor
        · intro same _
          exact (congrArg ContainerTracker.closeHook same).symm
        · intro alone
          have absent := alone opened
          change { engine.containers with closeHook := none } = engine.containers
          rw [← absent]
      case later =>
        intro turns unhooked
        rw [opened]
        exact (closings_history unhooked).trans (nextClosing_none turns)

/-- A chest is open, somebody waits for the close, and nothing gets through to the server. -/
def stranded : Engine Nat where
  containers := { state := .opened ⟨5, 0, default, -1⟩, closeHook := some (.callback 3) }
  connected := false

theorem stranded_close_forgets_its_hook :
    (stranded.closeContainer 8).1 = .error .channelClosed ∧
      stranded.ForgetsHook 8 .channelClosed (stranded.closeContainer 8).2 ∧
      closings (stranded.history [.received (.containerClosed ⟨5, false⟩)]) =
        [.containerClosed 3 ⟨5, false⟩] ∧
      closings ((stranded.closeContainer 8).2.1.history
        [.received (.containerClosed ⟨5, false⟩)]) = [] :=
  ⟨rfl, failed_close_forgets_the_hook rfl, by decide, by decide⟩

/-- After a request that fails, neither need the tracker be as before nor the hook run. -/
theorem failed_close_need_not_restore_the_hook :
    ¬∀ (engine : Engine Nat) (receipt callback : Nat) (failure : SyncError)
        (container : ClosedContainer),
      (engine.closeContainer receipt).1 = .error failure →
      engine.containers.closeHook = some (.callback callback) →
      (engine.closeContainer receipt).2.1.containers = engine.containers ∨
        .containerClosed callback container ∈
          (engine.closeContainer receipt).2.1.happens (.received (.containerClosed container)) := by
  intro restores
  rcases restores stranded 8 3 .channelClosed ⟨5, false⟩ rfl rfl with same | runs
  · cases congrArg ContainerTracker.closeHook same
  · cases runs

end Engine

end InventorySync
