import InventorySync.Proofs.IndependentAnswers
import InventorySync.Proofs.SessionSteps
import InventorySync.Proofs.WindowContents

/-!
What becomes of a window once its container was closed. It is forgotten then, and a commit
cannot name it, because only slots of known windows can be used. But a request that named it
before may still wait, and the answer to it writes the slots that it acknowledges: then the
window is known again. So a closed window stays forgotten as long as its content does not
come, whatever else happens, exactly if no waiting request names it at the close.
-/

namespace InventorySync

set_option autoImplicit false

/-- What moves an engine on: a packet from the server, or the commit of a queue. -/
inductive Turn where
  | received (packet : ServerPacket)
  | commit (number : Nat) (queue : List Operation)
  deriving DecidableEq, Repr

namespace Turn

/-- The content of the window comes. -/
def fills (window : WindowId) : Turn → Bool
  | .received (.windowContent content) => content.windowNumber.toNat = window.toNat
  | _ => false

def closes (window : WindowId) : Turn → Bool
  | .received (.containerClosed container) => container.window = window
  | _ => false

end Turn

section Unknown

variable {α β : Type} {window : WindowId} {inventory : Inventory}

theorem Window.ne_of_foreign (foreign : Window.isPlayer window = false) :
    Window.inventory ≠ window ∧ Window.ui ≠ window := by
  constructor
  · rintro rfl
    cases foreign
  · rintro rfl
    cases foreign

namespace Overlay

/-- No slot of the window was taken over. -/
def Avoids (overlay : Overlay) (window : WindowId) : Prop :=
  ∀ location, location.window = window → overlay.slot? location = none

/-- The action leaves the window alone. -/
def KeepsOff (window : WindowId) (action : Action α) : Prop :=
  ∀ overlay answer after, action overlay = (.ok answer, after) →
    overlay.Avoids window → after.Avoids window

theorem Avoids.setSlot {overlay : Overlay} (avoids : overlay.Avoids window) {location : Location}
    (elsewhere : location.window ≠ window) (slot : PredictedSlot) :
    (overlay.setSlot location slot).Avoids window := by
  intro other inside
  have differs : other ≠ location := by
    rintro rfl
    exact elsewhere inside
  rw [slot?_setSlot, if_neg differs]
  exact avoids other inside

theorem KeepsOff.bind {first : Action α} {next : α → Action β} (head : KeepsOff window first)
    (tail : ∀ middle, KeepsOff window (next middle)) : KeepsOff window (first >>= next) := by
  intro overlay answer after ran avoids
  obtain ⟨middle, between, began, ended⟩ := bind_ok.1 ran
  exact tail middle between answer after ended (head overlay middle between began avoids)

variable (unknown : inventory.knows window = false) (foreign : Window.isPlayer window = false)

include unknown foreign

/-- Only slots of known windows can be used, and those of the interface window. -/
theorem Avoids.elsewhere {overlay : Overlay} (avoids : overlay.Avoids window)
    {location : Location} (available : overlay.available inventory location) :
    location.window ≠ window := by
  intro inside
  have notUi : location.window ≠ Window.ui := by
    rw [inside]
    exact (Window.ne_of_foreign foreign).2.symm
  unfold Overlay.available at available
  rw [avoids location inside, inside, unknown, ← inside, decide_eq_false notUi] at available
  cases available

theorem keepsOff_use (location : Location) (change : PredictedSlot → α × PredictedSlot) :
    KeepsOff window (use inventory location change) := by
  intro overlay answer after used avoids
  obtain ⟨available, -, rfl⟩ := use_ok.1 used
  exact avoids.setSlot (avoids.elsewhere unknown foreign available) _

theorem keepsOff_transfer (source target : Location) (count : UInt8) :
    KeepsOff window (transfer inventory source target count) :=
  (keepsOff_use unknown foreign source _).bind fun _ => keepsOff_use unknown foreign target _

theorem keepsOff_swap (first second : Location) :
    KeepsOff window (swap inventory first second) :=
  (keepsOff_use unknown foreign first _).bind fun _ =>
    (keepsOff_use unknown foreign second _).bind fun _ =>
      (keepsOff_use unknown foreign first _).bind fun _ =>
        keepsOff_use unknown foreign second _

end Overlay

namespace RoleWindows

/-- No role stands for the window. -/
def Avoids (windows : RoleWindows) (window : WindowId) : Prop :=
  ∀ role, windows.window? role ≠ some window

theorem Avoids.note {windows : RoleWindows} (avoids : windows.Avoids window)
    (foreign : Window.isPlayer window = false) {noted : WindowId} (elsewhere : noted ≠ window)
    (role : Role) : (windows.note role noted).Avoids window := by
  intro other
  rw [window?_note]
  split
  · exact fun same => (Window.ne_of_foreign foreign).1 (Option.some.inj same)
  · split
    · exact fun same => elsewhere (Option.some.inj same)
    · exact avoids other

end RoleWindows

namespace Compile

variable {context : Context} {requestId : Int32}

/-- Neither a slot nor a role of the draft has to do with the window. -/
structure Draft.Avoids (draft : Draft) (window : WindowId) : Prop where
  slots : draft.overlay.Avoids window
  roles : draft.windows.Avoids window

theorem emit_avoids (action : StackAction) :
    Keeps (fun draft => draft.Avoids window) (emit action) :=
  Keeps.modify fun _ avoids => ⟨avoids.slots, avoids.roles⟩

theorem onOverlay_avoids {action : Overlay.Action α} (keeps : Overlay.KeepsOff window action) :
    Keeps (fun draft => draft.Avoids window) (onOverlay action) := by
  intro draft answer after ran avoids
  obtain ⟨overlay, acted, rfl⟩ := onOverlay_ok.1 ran
  exact ⟨keeps _ _ _ acted avoids.slots, avoids.roles⟩

variable (unknown : context.inventory.knows window = false)
  (foreign : Window.isPlayer window = false)

include foreign in
theorem referOutput_avoids :
    Keeps (fun draft => draft.Avoids window) (referOutput requestId) := by
  intro draft reference after named avoids
  obtain ⟨-, rfl⟩ := referOutput_ok.1 named
  exact ⟨avoids.slots, avoids.roles.note foreign (Window.ne_of_foreign foreign).2 .createdOutput⟩

include unknown foreign

theorem refer_avoids (location : Location) :
    Keeps (fun draft => draft.Avoids window) (refer context requestId location) := by
  intro draft reference after named avoids
  obtain ⟨role, -, available, -, rfl⟩ := refer_ok.1 named
  have elsewhere := avoids.slots.elsewhere unknown foreign available
  exact ⟨avoids.slots.setSlot elsewhere _, avoids.roles.note foreign elsewhere role⟩

theorem stepsKeep_avoids : StepsKeep context requestId fun draft => draft.Avoids window where
  move source target count :=
    (refer_avoids unknown foreign source).bind fun _ =>
      (refer_avoids unknown foreign target).bind fun _ => (emit_avoids _).bind fun _ =>
        onOverlay_avoids (Overlay.keepsOff_transfer unknown foreign source target count)
  swap first second :=
    (refer_avoids unknown foreign first).bind fun _ =>
      (refer_avoids unknown foreign second).bind fun _ => (emit_avoids _).bind fun _ =>
        onOverlay_avoids (Overlay.keepsOff_swap unknown foreign first second)
  drop source count :=
    (refer_avoids unknown foreign source).bind fun _ => (emit_avoids _).bind fun _ =>
      (onOverlay_avoids (Overlay.keepsOff_use unknown foreign source _)).bind fun _ =>
        Keeps.pure ()
  consume location count :=
    (refer_avoids unknown foreign location).bind fun _ => (emit_avoids _).bind fun _ =>
      onOverlay_avoids (Overlay.keepsOff_use unknown foreign location _)
  placeOutput item target count :=
    (referOutput_avoids foreign).bind fun _ => (refer_avoids unknown foreign target).bind fun _ =>
      (emit_avoids _).bind fun _ =>
        onOverlay_avoids (Overlay.keepsOff_use unknown foreign target _)
  itemOf location := by
    intro draft item after found avoids
    obtain ⟨available, -, -, rfl⟩ := itemOf_ok.1 found
    have elsewhere := avoids.slots.elsewhere unknown foreign available
    exact ⟨avoids.slots.setSlot elsewhere _, avoids.roles⟩
  craft action _ := emit_avoids action
  declare _ _ := Keeps.modify fun _ avoids => ⟨avoids.slots, avoids.roles⟩
  rename _ := Keeps.modify fun _ avoids => ⟨avoids.slots, avoids.roles⟩

/-- A window that is not known is named by no request. -/
theorem groups_avoid {overlay : Overlay} {operations : List (List Operation)}
    {compiled : List CompiledRequest} {free : Int32}
    (succeeds : groups context requestId overlay operations = (.ok compiled, free))
    (avoids : overlay.Avoids window) : ∀ entry ∈ compiled, entry.windows.Avoids window := by
  induction operations generalizing requestId overlay compiled with
  | nil =>
      obtain ⟨rfl, -⟩ := groups_nil_ok.1 succeeds
      exact List.forall_mem_nil _
  | cons members later induction =>
      obtain ⟨first, between, others, head, tail, rfl⟩ := groups_cons_ok.1 succeeds
      obtain ⟨draft, performed, rfl, rfl⟩ := group_ok.1 head
      have begun : ({ overlay } : Draft).Avoids window := ⟨avoids, nofun⟩
      have built := forM_keeps (stepsKeep_avoids unknown foreign) members _ _ _ performed begun
      exact List.forall_mem_cons.2 ⟨built.roles, induction tail built.slots⟩

end Compile

end Unknown

namespace RequestTable

variable {κ : Type} {table : RequestTable κ} {window : WindowId}

/-- A waiting request has a role for the window, so that the answer to it can write there. -/
def Reaches (table : RequestTable κ) (window : WindowId) : Prop :=
  ∃ requestId registration role, table.find? requestId = some registration ∧
    registration.windows.window? role = some window

theorem Reaches.of_without {requestIds : List Int32}
    (reaches : (table.without requestIds).Reaches window) : table.Reaches window := by
  obtain ⟨requestId, registration, role, waits, noted⟩ := reaches
  rw [find?_without] at waits
  split at waits
  · cases waits
  · exact ⟨requestId, registration, role, waits, noted⟩

theorem Reaches.of_register {requestId : Int32} {registration : Registration κ}
    (reaches : (table.register requestId registration).Reaches window)
    (avoids : registration.windows.Avoids window) : table.Reaches window := by
  obtain ⟨other, found, role, waits, noted⟩ := reaches
  rw [find?_register] at waits
  split at waits
  · cases waits
    exact absurd noted (avoids role)
  · exact ⟨other, found, role, waits, noted⟩

/-- Answers write through the roles of their requests. -/
theorem reaches_of_target {response : StackResponse} {location : Location}
    (target : location ∈ table.targets response) : table.Reaches location.window := by
  unfold targets at target
  cases waits : table.find? response.requestId with
  | none =>
      rw [waits] at target
      cases target
  | some registration =>
      rw [waits] at target
      simp only at target
      split at target
      · unfold StackResponse.acknowledged RoleWindows.acknowledged? at target
        obtain ⟨group, -, acknowledged⟩ := List.mem_flatMap.1 target
        obtain ⟨ack, -, named⟩ := List.mem_filterMap.1 acknowledged
        obtain ⟨found, noted, rfl⟩ := Option.map_eq_some_iff.1 named
        obtain ⟨role, -, stands⟩ := Option.bind_eq_some_iff.1 noted
        exact ⟨response.requestId, registration, role, waits, stands⟩
      · cases target

/-- The server has only to accept the request and to acknowledge a slot under the role. -/
theorem Reaches.answered (reaches : table.Reaches window) :
    ∃ response ∈ table.dueAnswers [response],
      ∃ location ∈ table.targets response, location.window = window := by
  obtain ⟨requestId, registration, role, waits, noted⟩ := reaches
  let ack : SlotAck := ⟨0, 0, 0, 0, "", 0⟩
  let response : StackResponse := ⟨0, requestId, [⟨role.number, 0, [ack]⟩]⟩
  have pending : table.isPending requestId := Option.isSome_iff_exists.2 ⟨registration, waits⟩
  have due : table.dueAnswers [response] = [response] := by
    simp [dueAnswers, turns, isDue, response, pending]
  have named : registration.windows.acknowledged? role.number 0 = some ⟨window, 0⟩ := by
    unfold RoleWindows.acknowledged?
    rw [Role.ofNumber_number, Option.bind_some, noted]
    rfl
  have written : table.targets response = [⟨window, 0⟩] := by
    unfold targets
    rw [waits]
    simp [StackResponse.isAccepted, StackResponse.acknowledged, response, ack, named]
  refine ⟨response, ?_, ⟨window, 0⟩, ?_, rfl⟩
  · rw [due]
    exact List.mem_singleton_self response
  · rw [written]
    exact List.mem_singleton_self _

theorem knows_foldl_applyAnswer (answers : List StackResponse) (inventory : Inventory) :
    (answers.foldl table.applyAnswer inventory).knows window ↔
      inventory.knows window ∨
        ∃ response ∈ answers, ∃ location ∈ table.targets response, location.window = window := by
  induction answers generalizing inventory with
  | nil => simp
  | cons response later induction =>
      rw [List.foldl_cons, induction, knows_applyAnswer, List.exists_mem_cons_iff, or_assoc]

end RequestTable

namespace Engine

variable {τ : Type} {engine : Engine τ} {window : WindowId}

def turn (engine : Engine τ) : Turn → Engine τ
  | .received packet => (engine.packetReceived packet).2.1
  | .commit number queue => (engine.startCommit number queue).2.1

def after (engine : Engine τ) (turns : List Turn) : Engine τ := turns.foldl turn engine

/-- The answer to a waiting request comes, and writes a slot of the window. -/
def Revives (engine : Engine τ) (window : WindowId) : Turn → Prop
  | .received packet =>
      ∃ response ∈ engine.requests.dueAnswers packet.answers,
        ∃ location ∈ engine.requests.targets response, location.window = window
  | .commit _ _ => False

section Packets

variable (engine)

theorem knows_contentReceived (content : WindowContent) (window : WindowId) :
    (engine.contentReceived content).1.inventory.knows window ↔
      content.windowNumber.toNat = window.toNat ∨ engine.inventory.knows window := by
  by_cases named : window.toNat = content.windowNumber.toNat
  · have known := (engine.takeIn_takesOver window content.items).known
    rw [contentReceived_eq named]
    exact iff_of_true known (Or.inl named.symm)
  · have same : (engine.contentReceived content).1.inventory.window? window =
        engine.inventory.window? window := by
      by_cases large : 255 < content.windowNumber.toNat
      · rw [contentReceived_unnamed large]
      · have own : content.windowNumber.toUInt8.toNat = content.windowNumber.toNat := by
          rw [UInt32.toNat_toUInt8]
          omega
        rw [contentReceived_eq own]
        refine (engine.takeIn_takesOver _ content.items).elsewhere window ?_
        rintro rfl
        exact named own
    unfold Inventory.knows
    rw [same, or_iff_right (Ne.symm named)]

theorem containerOpened_inventory (container : OpenedContainer) :
    (engine.containerOpened container).1.inventory = engine.inventory := by
  unfold containerOpened
  rcases engine.containers.opened container with ⟨containers, none | callback⟩
  · rfl
  · exact (Registers.subscribeAll _).inventory

theorem containerClosed_inventory (container : ClosedContainer) :
    (engine.containerClosed container).1.inventory = engine.inventory := by
  unfold containerClosed
  rcases engine.containers.closed container with ⟨containers, none | ⟨callback | number⟩⟩
  · rfl
  · exact (Registers.subscribeAll _).inventory
  · rfl

theorem knows_responsesReceived (batch : List StackResponse) (window : WindowId) :
    (engine.responsesReceived batch).2.1.inventory.knows window ↔
      engine.inventory.knows window ∨
        ∃ response ∈ engine.requests.dueAnswers batch,
          ∃ location ∈ engine.requests.targets response, location.window = window := by
  rw [← RequestTable.knows_foldl_applyAnswer,
    ← (RequestTable.routes_once engine.requests engine.inventory batch).applied]
  rfl

/-- A commit reaches nothing but the requests. -/
theorem startCommit_engine (number : Nat) (queue : List Operation) :
    (engine.startCommit number queue).2.1 =
      { engine with requests := (engine.startCommit number queue).2.1.requests } := by
  have starts := engine.startCommit_starts number queue
  have kept := engine.compile_engine queue
  generalize engine.startCommit number queue = start at starts ⊢
  cases starts with
  | nothingQueued _ => rfl
  | @uncompiled _ middle fails =>
      rw [fails] at kept
      change middle = _ at kept
      subst kept
      rfl
  | @sent _ middle _ succeeds _ =>
      rw [succeeds] at kept
      change middle = _ at kept
      subst kept
      exact registerAll_engine
  | @unsent _ middle succeeds _ =>
      rw [succeeds] at kept
      change middle = _ at kept
      subst kept
      rw [cancelAll_eq, registerAll_engine]

theorem startCommit_inventory (number : Nat) (queue : List Operation) :
    (engine.startCommit number queue).2.1.inventory = engine.inventory := by
  rw [startCommit_engine]

end Packets

section Requests

/-- To register requests that have nothing to do with a window opens no way to it. -/
theorem reaches_of_registerAll {commit position : Nat} {compiled : List CompiledRequest}
    (avoid : ∀ entry ∈ compiled, entry.windows.Avoids window)
    (reaches : (engine.registerAll commit position compiled).1.requests.Reaches window) :
    engine.requests.Reaches window := by
  induction compiled generalizing engine position with
  | nil => exact reaches
  | cons entry later induction =>
      obtain ⟨own, others⟩ := List.forall_mem_cons.1 avoid
      exact (induction others reaches).of_register own

/-- Operations on a window that is not known cannot be compiled. -/
theorem compile_avoids {middle : Engine τ} {queue : List Operation}
    {compiled : List CompiledRequest} (unknown : engine.inventory.knows window = false)
    (foreign : Window.isPlayer window = false)
    (succeeds : engine.compile queue = (.ok compiled, middle)) :
    ∀ entry ∈ compiled, entry.windows.Avoids window := by
  obtain ⟨free, reached, -⟩ := compile_ok.1 succeeds
  exact Compile.groups_avoid unknown foreign reached fun _ _ => rfl

theorem reaches_compiled {middle : Engine τ} {queue : List Operation}
    {result : Except SyncError (List CompiledRequest)}
    (compiles : engine.compile queue = (result, middle)) :
    middle.requests.Reaches window ↔ engine.requests.Reaches window := by
  have kept := engine.compile_requests queue
  rw [compiles] at kept
  change middle.requests = _ at kept
  rw [kept]
  rfl

theorem reaches_of_startCommit {number : Nat} {queue : List Operation}
    (unknown : engine.inventory.knows window = false)
    (foreign : Window.isPlayer window = false)
    (reaches : (engine.startCommit number queue).2.1.requests.Reaches window) :
    engine.requests.Reaches window := by
  have starts := engine.startCommit_starts number queue
  generalize engine.startCommit number queue = start at starts reaches
  cases starts with
  | nothingQueued _ => exact reaches
  | uncompiled fails => exact (reaches_compiled fails).1 reaches
  | sent _ succeeds _ =>
      have avoid := compile_avoids unknown foreign succeeds
      exact (reaches_compiled succeeds).1 (reaches_of_registerAll avoid reaches)
  | unsent succeeds _ =>
      have avoid := compile_avoids unknown foreign succeeds
      rw [cancelAll_eq] at reaches
      exact (reaches_compiled succeeds).1 (reaches_of_registerAll avoid reaches.of_without)

theorem reaches_of_packetReceived {packet : ServerPacket}
    (reaches : (engine.packetReceived packet).2.1.requests.Reaches window) :
    engine.requests.Reaches window := by
  rcases Quiet.packet_cases engine packet with answered | ⟨-, quiet⟩
  · rw [answered] at reaches
    have left := (RequestTable.routes_once engine.requests engine.inventory packet.answers).left
    change (RequestTable.settle packet.answers engine.requests engine.inventory).table.Reaches
      window at reaches
    rw [left] at reaches
    exact reaches.of_without
  · rw [quiet.requests] at reaches
    exact reaches

theorem Revives.reaches {turn : Turn} (revives : engine.Revives window turn) :
    engine.requests.Reaches window := by
  cases turn with
  | received packet =>
      obtain ⟨response, -, location, target, rfl⟩ := revives
      exact RequestTable.reaches_of_target target
  | commit _ _ => exact revives.elim

end Requests

section Runs

/-- A window is brought back by an answer, and its container is not closed after that. -/
def Revived (engine : Engine τ) (window : WindowId) (turns : List Turn) : Prop :=
  ∃ earlier turn later, turns = earlier ++ turn :: later ∧
    (engine.after earlier).Revives window turn ∧ ∀ other ∈ later, other.closes window = false

theorem revived_cons {turn : Turn} {later : List Turn} :
    engine.Revived window (turn :: later) ↔
      engine.Revives window turn ∧ (∀ other ∈ later, other.closes window = false) ∨
        (engine.turn turn).Revived window later := by
  constructor
  · rintro ⟨earlier, found, rest, split, revives, left⟩
    cases earlier with
    | nil =>
        cases split
        exact Or.inl ⟨revives, left⟩
    | cons first earlier =>
        cases split
        exact Or.inr ⟨earlier, found, rest, rfl, revives, left⟩
  · rintro (⟨revives, left⟩ | ⟨earlier, found, rest, rfl, revives, left⟩)
    · exact ⟨[], turn, later, rfl, revives, left⟩
    · exact ⟨turn :: earlier, found, rest, rfl, revives, left⟩

variable (foreign : Window.isPlayer window = false)

include foreign

theorem knows_forgetClosed (closed : WindowId) :
    (engine.forgetClosed closed).inventory.knows window ↔
      engine.inventory.knows window ∧ closed ≠ window := by
  unfold forgetClosed
  split
  · next player =>
      have differs : closed ≠ window := by
        rintro rfl
        rw [player] at foreign
        cases foreign
      exact (and_iff_left differs).symm
  · by_cases same : closed = window
    · subst same
      simp [Inventory.knows, Inventory.forget, Inventory.setWindow]
    · have other : window ≠ closed := Ne.symm same
      simp [Inventory.knows, Inventory.forget, Inventory.setWindow, same, other]

/-- What makes a window known, and what makes it unknown. -/
theorem knows_turn (turn : Turn) :
    (engine.turn turn).inventory.knows window ↔
      turn.fills window ∨ engine.Revives window turn ∨
        engine.inventory.knows window ∧ turn.closes window = false := by
  have quiet (packet : ServerPacket) (silent : packet.answers = []) :
      ¬engine.Revives window (.received packet) := by
    rintro ⟨response, due, -⟩
    rw [silent] at due
    cases due
  cases turn with
  | commit number queue =>
      change (engine.startCommit number queue).2.1.inventory.knows window ↔ _
      rw [startCommit_inventory]
      simp [Turn.fills, Turn.closes, Revives]
  | received packet =>
      cases packet with
      | windowContent content =>
          refine (engine.knows_contentReceived content window).trans ?_
          rw [or_iff_right (quiet (.windowContent content) rfl)]
          simp [Turn.fills, Turn.closes]
      | containerOpened container =>
          change (engine.containerOpened container).1.inventory.knows window ↔ _
          rw [containerOpened_inventory, or_iff_right (quiet (.containerOpened container) rfl)]
          simp [Turn.fills, Turn.closes]
      | containerClosed container =>
          change ((engine.containerClosed container).1.forgetClosed
            container.window).inventory.knows window ↔ _
          rw [knows_forgetClosed foreign, containerClosed_inventory,
            or_iff_right (quiet (.containerClosed container) rfl)]
          simp [Turn.fills, Turn.closes]
      | stackResponses batch =>
          refine (engine.knows_responsesReceived batch window).trans ?_
          rw [or_comm]
          simp [Turn.fills, Turn.closes, Revives, ServerPacket.answers]

theorem reaches_of_turn (unknown : engine.inventory.knows window = false) (turn : Turn)
    (reaches : (engine.turn turn).requests.Reaches window) : engine.requests.Reaches window := by
  cases turn with
  | received packet => exact reaches_of_packetReceived reaches
  | commit number queue => exact reaches_of_startCommit unknown foreign reaches

theorem knows_after {turns : List Turn} (unfilled : ∀ turn ∈ turns, turn.fills window = false) :
    (engine.after turns).inventory.knows window ↔
      engine.Revived window turns ∨
        engine.inventory.knows window ∧ ∀ turn ∈ turns, turn.closes window = false := by
  induction turns generalizing engine with
  | nil => simp [after, Revived]
  | cons turn later induction =>
      obtain ⟨first, others⟩ := List.forall_mem_cons.1 unfilled
      have now := @knows_turn τ engine window foreign turn
      rw [first, or_iff_right Bool.false_ne_true] at now
      change ((engine.turn turn).after later).inventory.knows window ↔ _
      rw [induction others, now, revived_cons, List.forall_mem_cons, or_and_right, and_assoc,
        or_left_comm, or_assoc]

theorem unknown_after {turns : List Turn} (unfilled : ∀ turn ∈ turns, turn.fills window = false)
    (unknown : engine.inventory.knows window = false)
    (cut : ¬engine.requests.Reaches window) :
    (engine.after turns).inventory.knows window = false := by
  -- The two facts keep each other: what is unknown is not named by a new request, and what no
  -- request names is not written by an answer.
  induction turns generalizing engine with
  | nil => exact unknown
  | cons turn later induction =>
      obtain ⟨first, others⟩ := List.forall_mem_cons.1 unfilled
      refine induction others ?_ fun reaches => cut (reaches_of_turn foreign unknown turn reaches)
      rw [Bool.eq_false_iff]
      intro known
      rcases (knows_turn foreign turn).1 known with filled | revived | ⟨before, -⟩
      · rw [first] at filled
        cases filled
      · exact cut revived.reaches
      · rw [unknown] at before
        cases before

end Runs

section Closing

variable (engine) {container : ClosedContainer}

theorem unknown_of_closed (foreign : Window.isPlayer container.window = false) :
    (engine.turn (.received (.containerClosed container))).inventory.knows container.window =
      false := by
  have known := @knows_forgetClosed τ (engine.containerClosed container).1 container.window
    foreign container.window
  exact Bool.eq_false_iff.2 fun still => (known.1 still).2 rfl

theorem requests_of_closed :
    (engine.turn (.received (.containerClosed container))).requests = engine.requests := by
  have closed : Quiet engine (engine.containerClosed container) := .containerClosed container
  change ((engine.containerClosed container).1.forgetClosed container.window).requests = _
  unfold forgetClosed
  split
  · exact closed.requests
  · exact closed.requests

end Closing

/-- What becomes of a window that was closed, as long as its content does not come. -/
structure ForgottenUntilAnswered (engine : Engine τ) (container : ClosedContainer)
    (closed : Engine τ) : Prop where
  forgotten : closed.inventory.window? container.window = none
  /-- It is known again from an answer on that writes a slot of it, until it is closed again. -/
  back : ∀ turns, (∀ turn ∈ turns, turn.fills container.window = false) →
    ((closed.after turns).inventory.knows container.window ↔
      closed.Revived container.window turns)
  /-- It stays forgotten whatever comes, if no waiting request names it at the close, and only
  then. -/
  stays : (∀ turns, (∀ turn ∈ turns, turn.fills container.window = false) →
      (closed.after turns).inventory.knows container.window = false) ↔
    ¬engine.requests.Reaches container.window

/-- Closed windows come back by answers to requests that were under way, and in no other way
before their content does. -/
theorem closed_windows_return_by_answers (engine : Engine τ) (container : ClosedContainer)
    (foreign : Window.isPlayer container.window = false) :
    engine.ForgottenUntilAnswered container
      (engine.turn (.received (.containerClosed container))) := by
  have unknown := engine.unknown_of_closed foreign
  constructor
  case forgotten => exact Option.isNone_iff_eq_none.1 (Option.isSome_eq_false_iff.1 unknown)
  case back =>
    intro turns unfilled
    rw [knows_after foreign unfilled, unknown]
    simp
  case stays =>
    rw [← engine.requests_of_closed]
    constructor
    · intro always reaches
      obtain ⟨response, revives⟩ := reaches.answered
      have known := (knows_turn foreign (.received (.stackResponses [response]))).2
        (Or.inr (Or.inl ⟨response, revives⟩))
      have stays := always [.received (.stackResponses [response])]
        (List.forall_mem_singleton.2 rfl)
      exact absurd known (Bool.eq_false_iff.1 stays)
    · intro cut turns unfilled
      exact unknown_after foreign unfilled unknown cut

/-- An item is on its way into an open chest. -/
def loadingChest : List Turn :=
  [.received (.windowContent ⟨0, [{ typeId := 5, count := 3, stackId := 7 }]⟩),
    .received (.containerOpened ⟨7, 0, ⟨0, 0, 0⟩, -1⟩),
    .received (.windowContent ⟨7, [.empty]⟩),
    .commit 0 [.move ⟨0, 0⟩ ⟨7, 0⟩ 1]]

/-- The move is accepted. -/
def loadedChest : Turn :=
  .received (.stackResponses [⟨0, -1,
    [⟨Role.hotbar.number, 0, [⟨0, 0, 2, 7, "", 0⟩]⟩,
      ⟨Role.levelEntity.number, 0, [⟨0, 0, 1, 8, "", 0⟩]⟩]⟩])

theorem closed_chest_returns_by_its_answer :
    Window.isPlayer 7 = false ∧
      (({} : Engine Unit).after loadingChest).ForgottenUntilAnswered ⟨7, false⟩
        ((({} : Engine Unit).after loadingChest).turn (.received (.containerClosed ⟨7, false⟩))) ∧
      (({} : Engine Unit).after (loadingChest ++
        [.received (.containerClosed ⟨7, false⟩), loadedChest])).inventory.item? ⟨7, 0⟩ =
          some { typeId := 5, count := 1, stackId := 8 } := by
  have foreign : Window.isPlayer 7 = false := by decide
  exact ⟨foreign, closed_windows_return_by_answers _ ⟨7, false⟩ foreign, by decide +kernel⟩

/-- Not every closed window stays forgotten until its content comes. -/
theorem closed_windows_need_not_stay_forgotten :
    ¬∀ (before after : List Turn) (container : ClosedContainer),
      Window.isPlayer container.window = false →
      (∀ turn ∈ after, turn.fills container.window = false) →
      (({} : Engine Unit).after (before ++ .received (.containerClosed container) ::
        after)).inventory.knows container.window = false := by
  intro forgotten
  have stays := forgotten loadingChest [loadedChest] ⟨7, false⟩ (by decide)
    (List.forall_mem_singleton.2 rfl)
  have returns : (({} : Engine Unit).after (loadingChest ++
      .received (.containerClosed ⟨7, false⟩) :: [loadedChest])).inventory.knows 7 := by
    decide +kernel
  rw [stays] at returns
  cases returns

end Engine

end InventorySync
