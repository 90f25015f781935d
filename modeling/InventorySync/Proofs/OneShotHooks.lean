import InventorySync.Proofs.HookStories

/-!
The hooks of an engine over whole runs, in which the user and callbacks that run register others.
Each step of a run is one moment of a story, followed by what callbacks register in it. So a hook
is seen at most once, at the next moment of its slot, and never at the event in which it is
registered, as that comes before it in the story.
-/

namespace InventorySync

set_option autoImplicit false

variable {τ : Type}

def Subscription.moment? : Subscription τ → Option (HookMoment τ)
  | .slot _ _ => none
  | .opening callback => some (.onOpen callback)
  | .closing callback => some (.onClose (.callback callback))

/-- The hooks that are registered by callbacks that run. -/
def registered (reactions : Reactions τ) (events : List (Event τ)) : List (HookMoment τ) :=
  (events.flatMap (Event.registers reactions)).filterMap Subscription.moment?

theorem registered_append (reactions : Reactions τ) (first second : List (Event τ)) :
    registered reactions (first ++ second) =
      registered reactions first ++ registered reactions second := by
  unfold registered
  rw [List.flatMap_append, List.filterMap_append]

/-- What is told and what registers nothing. -/
theorem registered_of_none {reactions : Reactions τ} {events : List (Event τ)}
    (none : ∀ event ∈ events, event.registers reactions = []) :
    registered reactions events = [] := by
  unfold registered
  rw [List.flatMap_eq_nil_iff.2 none]
  rfl

/-- Something that is done to an engine: a callback is registered, the open container is asked to
be closed, or a packet comes or a commit begins. -/
inductive HookStep (τ : Type) where
  | subscribe (subscription : Subscription τ)
  | closeContainer (receipt : Nat)
  | turn (turn : Turn)
  deriving DecidableEq, Repr

/-- The moment that a step is, apart from what callbacks register in it. -/
def HookStep.moment? : HookStep τ → Option (HookMoment τ)
  | .subscribe subscription => subscription.moment?
  | .closeContainer receipt => some (.onClose (.receipt receipt))
  | .turn (.received (.containerOpened container)) => some (.opened container)
  | .turn (.received (.containerClosed container)) => some (.closed container)
  | .turn _ => none

namespace Engine

variable {engine : Engine τ}

/-- What a step tells of hooks, and what it makes of the tracker, is due to these moments. -/
structure Meets (engine : Engine τ) (moments : List (HookMoment τ)) (step : Step τ) : Prop where
  containers : step.1.containers = (engine.containers.meetAll moments).1
  told : hooksTold step.2 = (engine.containers.meetAll moments).2
  reactions : step.1.reactions = engine.reactions

section Losses

theorem hooksTold_lostReceipt (hook : Option (CloseHook τ)) :
    hooksTold (lostReceipt hook) = lostReceipt hook := by
  rcases hook with none | ⟨_ | _⟩ <;> rfl

theorem lostReceipt_registers (reactions : Reactions τ) (hook : Option (CloseHook τ)) :
    registered reactions (lostReceipt hook) = [] := by
  rcases hook with none | ⟨_ | _⟩ <;> rfl

end Losses

namespace Meets

theorem append {first second : Step τ} {early late : List (HookMoment τ)}
    (head : Meets engine early first) (tail : Meets first.1 late second) :
    Meets engine (early ++ late) (second.1, first.2 ++ second.2) := by
  constructor
  case containers =>
    rw [ContainerTracker.meetAll_append, ← head.containers]
    exact tail.containers
  case told =>
    rw [ContainerTracker.meetAll_append, ← head.containers, hooksTold_append, head.told, tail.told]
  case reactions => exact tail.reactions.trans head.reactions

theorem subscribe (subscription : Subscription τ) :
    Meets engine subscription.moment?.toList (engine.subscribe subscription) := by
  cases subscription with
  | slot _ _ => exact ⟨rfl, rfl, rfl⟩
  | opening _ => exact ⟨rfl, rfl, rfl⟩
  | closing callback =>
      refine ⟨rfl, ?_, rfl⟩
      exact (hooksTold_lostReceipt _).trans (List.append_nil _).symm

theorem subscribeAll (subscriptions : List (Subscription τ)) :
    Meets engine (subscriptions.filterMap Subscription.moment?)
      (engine.subscribeAll subscriptions) := by
  induction subscriptions generalizing engine with
  | nil => exact ⟨rfl, rfl, rfl⟩
  | cons subscription later induction =>
      have both := (@subscribe τ engine subscription).append induction
      have moments : (subscription :: later).filterMap Subscription.moment? =
          subscription.moment?.toList ++ later.filterMap Subscription.moment? := by
        rw [List.filterMap_cons]
        cases subscription.moment? <;> rfl
      rw [moments]
      exact both

end Meets

theorem subscribe_registers (engine : Engine τ) (subscription : Subscription τ)
    (reactions : Reactions τ) :
    registered reactions (engine.subscribe subscription).2 = [] := by
  cases subscription with
  | slot _ _ => rfl
  | opening _ => rfl
  | closing _ => exact lostReceipt_registers reactions engine.containers.closeHook

/-- To register something runs no callback. -/
theorem subscribeAll_registers (engine : Engine τ) (subscriptions : List (Subscription τ))
    (reactions : Reactions τ) :
    registered reactions (engine.subscribeAll subscriptions).2 = [] := by
  induction subscriptions generalizing engine with
  | nil => rfl
  | cons subscription later induction =>
      let subscribed := engine.subscribe subscription
      change registered reactions (subscribed.2 ++ (subscribed.1.subscribeAll later).2) = []
      rw [registered_append, subscribe_registers, induction, List.append_nil]

/-- A callback runs, which registers others. -/
theorem Meets.callback {changed : Engine τ} {own : List (HookMoment τ)} {event : Event τ}
    (head : Meets engine own (changed, [event])) :
    let ran := changed.subscribeAll (event.registers engine.reactions)
    Meets engine (own ++ registered engine.reactions (event :: ran.2)) (ran.1, event :: ran.2) := by
  intro ran
  have moments : registered engine.reactions (event :: ran.2) =
      (event.registers engine.reactions).filterMap Subscription.moment? := by
    have apart := registered_append engine.reactions [event] ran.2
    rw [List.singleton_append, subscribeAll_registers, List.append_nil] at apart
    rw [apart]
    unfold registered
    rw [List.flatMap_singleton]
  rw [moments]
  exact head.append (@Meets.subscribeAll τ changed (event.registers engine.reactions))

theorem Meets.runObservers (due : List (τ × SlotChange)) :
    Meets engine (registered engine.reactions (engine.runObservers due).2)
      (engine.runObservers due) := by
  induction due generalizing engine with
  | nil => exact ⟨rfl, rfl, rfl⟩
  | cons first later induction =>
      obtain ⟨callback, change⟩ := first
      have head : Meets engine [] (engine, [.slotChanged callback change]) := ⟨rfl, rfl, rfl⟩
      have ran := head.callback
      have both := ran.append induction
      rw [ran.reactions, List.nil_append, ← registered_append] at both
      exact both

/-- Only a request to close the container is said to fail here. A packet that is refused comes
nevertheless. -/
def undergo (engine : Engine τ) : HookStep τ → Except SyncError Unit × Step τ
  | .subscribe subscription => (.ok (), engine.subscribe subscription)
  | .closeContainer receipt => engine.closeContainer receipt
  | .turn turn => (.ok (), engine.turn turn, engine.happens turn)

/-- The moments of a step: its own, and what callbacks register that run in it. -/
def moments (engine : Engine τ) (step : HookStep τ) : List (HookMoment τ) :=
  step.moment?.toList ++ registered engine.reactions (engine.undergo step).2.2

theorem Meets.containerOpened (container : OpenedContainer) :
    Meets engine
      (.opened container :: registered engine.reactions (engine.containerOpened container).2)
      (engine.containerOpened container) := by
  have told : (engine.containers.meetAll [.opened container]).2 =
      (engine.containers.openHook.map fun callback =>
        Event.containerOpened callback container).toList := by
    rw [ContainerTracker.meetAll_singleton]
    rfl
  unfold Engine.containerOpened ContainerTracker.opened
  cases found : engine.containers.openHook with
  | none =>
      rw [found] at told
      exact ⟨rfl, told.symm, rfl⟩
  | some callback =>
      rw [found] at told
      have head : Meets engine [.opened container]
          ({ engine with
              containers :=
                { engine.containers with state := .opened container, openHook := none } },
            [.containerOpened callback container]) := ⟨rfl, told.symm, rfl⟩
      exact head.callback

theorem Meets.containerClosed (container : ClosedContainer) :
    Meets engine
      (.closed container :: registered engine.reactions (engine.containerClosed container).2)
      (engine.containerClosed container) := by
  have told : (engine.containers.meetAll [.closed container]).2 =
      (engine.containers.closeHook.map (CloseHook.event container)).toList := by
    rw [ContainerTracker.meetAll_singleton]
    rfl
  unfold Engine.containerClosed ContainerTracker.closed
  rcases found : engine.containers.closeHook with none | ⟨callback | number⟩
  · rw [found] at told
    exact ⟨rfl, told.symm, rfl⟩
  · rw [found] at told
    have head : Meets engine [.closed container]
        ({ engine with
            containers :=
              { engine.containers with state := .closed container, closeHook := none } },
          [.containerClosed callback container]) := ⟨rfl, told.symm, rfl⟩
    exact head.callback
  · rw [found] at told
    exact ⟨rfl, told.symm, rfl⟩

theorem Meets.forgetClosed {moments : List (HookMoment τ)} {step : Step τ}
    (met : Meets engine moments step) (window : WindowId) :
    Meets engine moments (step.1.forgetClosed window, step.2) := by
  unfold Engine.forgetClosed
  split
  · exact met
  · exact ⟨met.containers, met.told, met.reactions⟩

/-- Nothing of a step matters to hooks. -/
theorem Meets.of_quiet {step : Step τ} {reactions : Reactions τ}
    (containers : step.1.containers = engine.containers)
    (same : step.1.reactions = engine.reactions)
    (quiet : ∀ event ∈ step.2, event.hookSlot? = none ∧ event.registers reactions = []) :
    Meets engine (registered reactions step.2) step := by
  rw [registered_of_none fun event told => (quiet event told).2]
  refine ⟨containers, ?_, same⟩
  refine List.filter_eq_nil_iff.2 fun event told => ?_
  rw [(quiet event told).1]
  exact Bool.false_ne_true

theorem Meets.responsesReceived (batch : List StackResponse) :
    Meets engine (registered engine.reactions (engine.responsesReceived batch).2.2)
      (engine.responsesReceived batch).2 := by
  refine of_quiet rfl rfl ?_
  intro event told
  obtain ⟨⟨completion, response⟩, -, rfl⟩ := List.mem_map.1 told
  cases completion with
  | callback _ => exact ⟨rfl, rfl⟩
  | promise _ => exact ⟨rfl, rfl⟩

theorem Meets.startCommit (number : Nat) (queue : List Operation) :
    Meets engine (registered engine.reactions (engine.startCommit number queue).2.2)
      (engine.startCommit number queue).2 := by
  refine of_quiet (by rw [startCommit_engine]) (by rw [startCommit_engine]) ?_
  have starts := engine.startCommit_starts number queue
  generalize engine.startCommit number queue = start at starts ⊢
  have quietly (event : Event τ) (abandons : ∃ promise, event = .abandoned promise) :
      event.hookSlot? = none ∧ event.registers engine.reactions = [] := by
    obtain ⟨promise, rfl⟩ := abandons
    exact ⟨rfl, rfl⟩
  cases starts with
  | nothingQueued _ => exact fun _ told => absurd told List.not_mem_nil
  | uncompiled _ => exact fun _ told => absurd told List.not_mem_nil
  | sent _ _ _ =>
      exact List.forall_mem_append.2 ⟨fun event told => quietly event (registerAll_told told),
        List.forall_mem_singleton.2 ⟨rfl, rfl⟩⟩
  | unsent _ _ =>
      exact List.forall_mem_append.2 ⟨fun event told => quietly event (registerAll_told told),
        fun event told => quietly event (cancelAll_told told)⟩

theorem Meets.closeContainer {receipt : Nat}
    (succeeds : (engine.closeContainer receipt).1 = .ok ()) :
    Meets engine
      (.onClose (.receipt receipt) ::
        registered engine.reactions (engine.closeContainer receipt).2.2)
      (engine.closeContainer receipt).2 := by
  have asks := engine.closeContainer_asksToClose receipt
  generalize engine.closeContainer receipt = result at succeeds asks ⊢
  cases asks with
  | notOpen _ => cases succeeds
  | unsent _ _ => cases succeeds
  | sent _ _ =>
      -- The packet that asks for the close is told too, but not of a hook.
      rw [registered_append, lostReceipt_registers]
      refine ⟨rfl, ?_, rfl⟩
      rw [hooksTold_append, hooksTold_lostReceipt]
      rfl

/-- A step is due to its moments. -/
theorem undergo_meets {step : HookStep τ} (succeeds : (engine.undergo step).1 = .ok ()) :
    Meets engine (engine.moments step) (engine.undergo step).2 := by
  unfold moments
  cases step with
  | subscribe subscription =>
      have alone := engine.subscribe_registers subscription engine.reactions
      rw [undergo, alone, List.append_nil]
      exact Meets.subscribe subscription
  | closeContainer receipt => exact Meets.closeContainer succeeds
  | turn turn =>
      cases turn with
      | commit number queue => exact Meets.startCommit number queue
      | received packet =>
          cases packet with
          | windowContent content =>
              have ran := @Meets.runObservers τ
                { engine with
                  inventory := (engine.inventory.apply content).1
                  observers := (engine.observers.take (engine.inventory.apply content).2).2 }
                (engine.observers.take (engine.inventory.apply content).2).1
              exact ⟨ran.containers, ran.told, ran.reactions⟩
          | containerOpened container => exact Meets.containerOpened container
          | containerClosed container =>
              exact (Meets.containerClosed container).forgetClosed container.window
          | stackResponses batch => exact Meets.responsesReceived batch

theorem registered_state? {reactions : Reactions τ} {events : List (Event τ)}
    {moment : HookMoment τ} (member : moment ∈ registered reactions events) :
    moment.state? = none := by
  obtain ⟨subscription, -, same⟩ := List.mem_filterMap.1 member
  cases subscription with
  | slot _ _ => cases same
  | opening _ => cases same; rfl
  | closing _ => cases same; rfl

section Runs

/-- An engine after some steps, and all that happened in them. -/
def undergoAll (engine : Engine τ) : List (HookStep τ) → Step τ
  | [] => (engine, [])
  | step :: later =>
      let (next, events) := (engine.undergo step).2
      let (final, others) := next.undergoAll later
      (final, events ++ others)

def allMoments (engine : Engine τ) : List (HookStep τ) → List (HookMoment τ)
  | [] => []
  | step :: later => engine.moments step ++ (engine.undergo step).2.1.allMoments later

/-- What happened to the hooks of an engine up to the end of some steps. -/
def story (engine : Engine τ) (steps : List (HookStep τ)) : List (HookMoment τ) :=
  engine.containers.past ++ engine.allMoments steps

def Succeeds (engine : Engine τ) : List (HookStep τ) → Prop
  | [] => True
  | step :: later => (engine.undergo step).1 = .ok () ∧ (engine.undergo step).2.1.Succeeds later

variable {steps : List (HookStep τ)}

theorem succeeds_append {earlier later : List (HookStep τ)} :
    engine.Succeeds (earlier ++ later) ↔
      engine.Succeeds earlier ∧ (engine.undergoAll earlier).1.Succeeds later := by
  induction earlier generalizing engine with
  | nil => exact (and_iff_right trivial).symm
  | cons step others induction =>
      rw [List.cons_append, Succeeds, Succeeds, induction, and_assoc]
      rfl

theorem undergoAll_meets (succeeds : engine.Succeeds steps) :
    Meets engine (engine.allMoments steps) (engine.undergoAll steps) := by
  induction steps generalizing engine with
  | nil => exact ⟨rfl, rfl, rfl⟩
  | cons step later induction =>
      exact (undergo_meets succeeds.1).append (induction succeeds.2)

/-- A tracker knows of the story of its engine what it has to. -/
theorem undergoAll_recalls (succeeds : engine.Succeeds steps) :
    (engine.undergoAll steps).1.containers.Recalls (engine.story steps) := by
  rw [(undergoAll_meets succeeds).containers]
  exact engine.containers.recalls_past.meetAll _

/-- The hooks of a run, from its beginning to its end. -/
structure OneShot (engine : Engine τ) (steps : List (HookStep τ)) : Prop where
  /-- At any time, what was seen of the hooks of a slot are the fates that are decided, in the
  order in which the hooks were registered. -/
  fates : ∀ earlier, earlier <+: steps → ∀ slot,
    toldOf slot (engine.undergoAll earlier).2 = HookMoment.fates slot (engine.story earlier)
  /-- What was seen are ends of registered hooks, of each hook one at most. -/
  once : ∀ earlier, earlier <+: steps → ∀ slot, ∃ hooks, hooks.Sublist (engine.story earlier) ∧
    List.Forall₂ (fun hook event => ∃ next, HookMoment.ends hook next = [event]) hooks
      (toldOf slot (engine.undergoAll earlier).2)
  /-- In a step runs no hook but the one that waited before the step. -/
  current : ∀ earlier step, earlier ++ [step] <+: steps →
    hookRuns ((engine.undergoAll earlier).1.undergo step).2.2 =
      hookRuns (step.moment?.elim [] (HookMoment.ended (engine.story earlier)))
  opened : ∀ earlier, earlier <+: steps → ∀ container,
    (engine.undergoAll earlier).1.containers.openContainer? = some container ↔
      HookMoment.lastEvent? (engine.story earlier) = some (.opened container)
  isOpen : ∀ earlier, earlier <+: steps →
    ((engine.undergoAll earlier).1.containers.isOpen ↔
      ∃ container, HookMoment.lastEvent? (engine.story earlier) = some (.opened container))
  closed : ∀ earlier, earlier <+: steps → ∀ container,
    (engine.undergoAll earlier).1.containers.closedContainer? = some container ↔
      HookMoment.lastEvent? (engine.story earlier) = some (.closed container)

theorem hookRuns_undergo {earlier : List (HookStep τ)} {step : HookStep τ}
    (succeeds : engine.Succeeds (earlier ++ [step])) :
    hookRuns ((engine.undergoAll earlier).1.undergo step).2.2 =
      hookRuns (step.moment?.elim [] (HookMoment.ended (engine.story earlier))) := by
  -- After the moment of the step itself there are only registrations, which run nothing.
  obtain ⟨first, last, -⟩ := succeeds_append.1 succeeds
  have recalls := undergoAll_recalls first
  have met := undergo_meets last
  generalize (engine.undergoAll earlier).1 = reached at recalls met
  rw [← hookRuns_hooksTold, met.told]
  unfold moments
  rw [ContainerTracker.meetAll_append, hookRuns_append,
    ContainerTracker.hookRuns_meetAll _ fun _ member => registered_state? member, List.append_nil]
  cases step.moment? with
  | none => rfl
  | some moment =>
      change hookRuns (reached.containers.meetAll [moment]).2 =
        hookRuns (HookMoment.ended (engine.story earlier) moment)
      rw [ContainerTracker.meetAll_singleton, recalls.meet_tells]

/-- Over a whole run each hook is seen once at most: when the next moment of its slot comes, and
not before. -/
theorem hooks_are_one_shot (succeeds : engine.Succeeds steps) : engine.OneShot steps := by
  have early {earlier : List (HookStep τ)} (begins : earlier <+: steps) :
      engine.Succeeds earlier := by
    obtain ⟨later, rfl⟩ := begins
    exact (succeeds_append.1 succeeds).1
  have recalls {earlier : List (HookStep τ)} (begins : earlier <+: steps) :
      (engine.undergoAll earlier).1.containers.Recalls (engine.story earlier) :=
    undergoAll_recalls (early begins)
  have fates (earlier : List (HookStep τ)) (begins : earlier <+: steps) (slot : HookSlot) :
      toldOf slot (engine.undergoAll earlier).2 = HookMoment.fates slot (engine.story earlier) := by
    have met := undergoAll_meets (early begins)
    have told := engine.containers.recalls_past.fates_append slot (engine.allMoments earlier)
    rw [ContainerTracker.fates_past, List.nil_append, ← met.told, toldOf_hooksTold] at told
    exact told.symm
  constructor
  case fates => exact fates
  case once =>
    intro earlier begins slot
    rw [fates earlier begins slot]
    exact HookMoment.fates_once slot (engine.story earlier)
  case current =>
    intro earlier step begins
    exact hookRuns_undergo (early begins)
  case opened =>
    exact fun earlier begins container => (recalls begins).opened
  case isOpen =>
    intro earlier begins
    exact Option.isSome_iff_exists.trans (exists_congr fun container => (recalls begins).opened)
  case closed =>
    exact fun earlier begins container => (recalls begins).closed

/-- A callback that runs at an opening registers itself for the next. -/
def greeter : Engine Nat where
  reactions := { containerOpened := fun callback _ => [.opening callback] }

def chest : OpenedContainer := ⟨5, 0, default, -1⟩

/-- A chest is opened twice. Then somebody asks for it to be closed, and somebody else registers a
hook before the close comes. -/
def overtaken : List (HookStep Nat) :=
  [.subscribe (.opening 1), .turn (.received (.containerOpened chest)),
    .turn (.received (.containerOpened chest)), .closeContainer 9, .subscribe (.closing 2),
    .turn (.received (.containerClosed ⟨5, true⟩)), .turn (.received (.containerClosed ⟨5, true⟩))]

theorem overtaken_receipt_is_lost :
    greeter.Succeeds overtaken ∧ greeter.OneShot overtaken ∧
      toldOf .opening (greeter.undergoAll overtaken).2 =
        [.containerOpened 1 chest, .containerOpened 1 chest] ∧
      toldOf .closing (greeter.undergoAll overtaken).2 =
        [.closeLost 9, .containerClosed 2 ⟨5, true⟩] := by
  have succeeds : greeter.Succeeds overtaken := ⟨rfl, rfl, rfl, rfl, rfl, rfl, rfl, trivial⟩
  exact ⟨succeeds, hooks_are_one_shot succeeds, rfl, rfl⟩

end Runs

end Engine

end InventorySync
