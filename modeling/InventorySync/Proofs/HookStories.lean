import InventorySync.Proofs.FailedClose

/-!
Stories of hooks: hooks are registered, and containers are opened and closed. What becomes of a
hook is decided by the next moment of its slot. If that is the event it waits for, it runs, and
otherwise another hook takes its place. All that a container tracker knows of a story are the
hooks that wait and the last event, and what is told at a moment follows from that.
-/

namespace InventorySync

set_option autoImplicit false

/-- There is one place for a hook that waits for an opening and one for a hook that waits for a
close. -/
inductive HookSlot where
  | opening
  | closing
  deriving DecidableEq, Repr

/-- A moment that matters to hooks. -/
inductive HookMoment (τ : Type) where
  | onOpen (callback : τ)
  | onClose (hook : CloseHook τ)
  | opened (container : OpenedContainer)
  | closed (container : ClosedContainer)
  deriving DecidableEq, Repr

variable {τ : Type}

namespace HookMoment

def slot : HookMoment τ → HookSlot
  | .onOpen _ | .opened _ => .opening
  | .onClose _ | .closed _ => .closing

/-- What is to be seen of a hook when the next moment of its slot comes. It runs if that is the
event that it waits for. If another takes its place instead, only a receipt shows that it is
lost. -/
def ends : HookMoment τ → HookMoment τ → List (Event τ)
  | .onOpen callback, .opened container => [.containerOpened callback container]
  | .onClose hook, .closed container => [hook.event container]
  | .onClose (.receipt number), .onClose _ => [.closeLost number]
  | _, _ => []

/-- What becomes of a hook if these moments follow. -/
def fate (moment : HookMoment τ) (later : List (HookMoment τ)) : List (Event τ) :=
  (later.find? fun next => next.slot = moment.slot).elim [] moment.ends

/-- What becomes of the hooks of a slot, in the order in which they are registered. -/
def fates (slot : HookSlot) : List (HookMoment τ) → List (Event τ)
  | [] => []
  | moment :: later =>
      if moment.slot = slot then moment.fate later ++ fates slot later else fates slot later

theorem ends_cases (moment next : HookMoment τ) :
    moment.ends next = [] ∨ ∃ event, moment.ends next = [event] := by
  unfold ends
  split <;> simp

/-- A hook is seen at most once. -/
theorem fate_cases (moment : HookMoment τ) (later : List (HookMoment τ)) :
    moment.fate later = [] ∨
      ∃ next event, moment.ends next = [event] ∧ moment.fate later = [event] := by
  unfold fate
  cases later.find? fun next => next.slot = moment.slot with
  | none => exact Or.inl rfl
  | some next =>
      rcases moment.ends_cases next with unseen | ⟨event, seen⟩
      · exact Or.inl unseen
      · exact Or.inr ⟨next, event, seen, seen⟩

/-- The fates of a slot are those of different hooks, in the order of their registration. -/
theorem fates_once (slot : HookSlot) (story : List (HookMoment τ)) :
    ∃ hooks, hooks.Sublist story ∧
      List.Forall₂ (fun hook event => ∃ next, hook.ends next = [event]) hooks
        (fates slot story) := by
  induction story with
  | nil => exact ⟨[], .slnil, .nil⟩
  | cons moment later induction =>
      obtain ⟨hooks, among, seen⟩ := induction
      unfold fates
      split
      · rcases moment.fate_cases later with unseen | ⟨next, event, ends, own⟩
        · rw [unseen]
          exact ⟨hooks, among.cons moment, seen⟩
        · rw [own]
          exact ⟨moment :: hooks, among.cons_cons moment, .cons ⟨next, ends⟩ seen⟩
      · exact ⟨hooks, among.cons moment, seen⟩

def latest? (slot : HookSlot) (story : List (HookMoment τ)) : Option (HookMoment τ) :=
  (story.filter fun moment => moment.slot = slot).getLast?

/-- What is to be seen of the hook that waits when a moment comes. -/
def ended (story : List (HookMoment τ)) (moment : HookMoment τ) : List (Event τ) :=
  (latest? moment.slot story).elim [] fun waiting => waiting.ends moment

theorem latest?_cons (slot : HookSlot) (moment : HookMoment τ) (later : List (HookMoment τ)) :
    latest? slot (moment :: later) =
      if moment.slot = slot then some ((latest? slot later).getD moment)
      else latest? slot later := by
  unfold latest?
  rw [List.filter_cons]
  by_cases same : moment.slot = slot
  · simp only [same, decide_true, if_true]
    exact List.getLast?_cons
  · simp [same]

theorem ended_cons (moment : HookMoment τ) (later : List (HookMoment τ)) (last : HookMoment τ) :
    ended (moment :: later) last =
      if moment.slot = last.slot then ((latest? last.slot later).getD moment).ends last
      else ended later last := by
  unfold ended
  rw [latest?_cons]
  split
  · rfl
  · rfl

theorem latest?_concat (slot : HookSlot) (story : List (HookMoment τ)) (moment : HookMoment τ) :
    latest? slot (story ++ [moment]) =
      if moment.slot = slot then some moment else latest? slot story := by
  unfold latest?
  rw [List.filter_append]
  by_cases same : moment.slot = slot
  · simp [same]
  · simp [same]

theorem find?_eq_none_iff (slot : HookSlot) (story : List (HookMoment τ)) :
    story.find? (fun moment => moment.slot = slot) = none ↔ latest? slot story = none := by
  unfold latest?
  rw [List.getLast?_eq_none_iff, List.filter_eq_nil_iff, List.find?_eq_none]

theorem fates_of_none {slot : HookSlot} {story : List (HookMoment τ)}
    (none : latest? slot story = none) : fates slot story = [] := by
  induction story with
  | nil => rfl
  | cons moment later induction =>
      rw [latest?_cons] at none
      unfold fates
      split at none
      · cases none
      · next other =>
          rw [if_neg other]
          exact induction none

/-- A fate that is decided stays as it is. -/
theorem fate_concat_of_some {moment next : HookMoment τ} {later : List (HookMoment τ)}
    (decided : latest? moment.slot later = some next) (last : HookMoment τ) :
    moment.fate (later ++ [last]) = moment.fate later := by
  unfold fate
  rw [List.find?_append]
  cases found : later.find? fun next => next.slot = moment.slot with
  | some _ => rfl
  | none =>
      rw [(find?_eq_none_iff moment.slot later).1 found] at decided
      cases decided

theorem fate_concat_of_none {moment : HookMoment τ} {later : List (HookMoment τ)}
    (undecided : latest? moment.slot later = none) (last : HookMoment τ) :
    moment.fate (later ++ [last]) =
      moment.fate later ++ if last.slot = moment.slot then moment.ends last else [] := by
  unfold fate
  rw [List.find?_append, (find?_eq_none_iff moment.slot later).2 undecided]
  by_cases same : last.slot = moment.slot
  · simp [same]
  · simp [same]

/-- A moment decides the fate of the hook that was registered last in its slot, and of no other. -/
theorem fates_concat (slot : HookSlot) (story : List (HookMoment τ)) (last : HookMoment τ) :
    fates slot (story ++ [last]) =
      fates slot story ++ if last.slot = slot then ended story last else [] := by
  induction story with
  | nil =>
      unfold ended latest?
      simp [fates, fate]
  | cons first later induction =>
      rw [List.cons_append, fates, fates, induction]
      by_cases here : first.slot = slot
      · subst here
        rw [if_pos rfl, if_pos rfl, List.append_assoc]
        -- The fate of the first is open until the last moment if no other of its slot is between.
        cases decided : latest? first.slot later with
        | some next =>
            rw [fate_concat_of_some decided]
            split
            · next same => rw [ended_cons, if_pos same.symm, ended, same, decided]; rfl
            · rfl
        | none =>
            rw [fate_concat_of_none decided, fates_of_none decided]
            split
            · next same =>
                rw [ended_cons, if_pos same.symm, ended, same, decided, Option.elim_none,
                  Option.getD_none, List.append_nil, List.append_nil, List.nil_append]
            · simp
      · rw [if_neg here, if_neg here]
        split
        · next same => rw [ended_cons, if_neg (same ▸ here)]
        · rfl

section Tracking

def openHook? : HookMoment τ → Option τ
  | .onOpen callback => some callback
  | _ => none

def closeHook? : HookMoment τ → Option (CloseHook τ)
  | .onClose hook => some hook
  | _ => none

def state? : HookMoment τ → Option ContainerState
  | .opened container => some (.opened container)
  | .closed container => some (.closed container)
  | _ => none

/-- The last time in a story that a container was opened or closed. -/
def lastEvent? (story : List (HookMoment τ)) : Option ContainerState :=
  (story.filterMap state?).getLast?

theorem lastEvent?_concat (story : List (HookMoment τ)) (moment : HookMoment τ) :
    lastEvent? (story ++ [moment]) = moment.state?.or (lastEvent? story) := by
  unfold lastEvent?
  rw [List.filterMap_append]
  cases told : moment.state? with
  | some state => simp [told]
  | none => simp [told]

end Tracking

end HookMoment

/-- The slot of the hook that an event tells of. -/
def Event.hookSlot? : Event τ → Option HookSlot
  | .containerOpened _ _ => some .opening
  | .containerClosed _ _ | .closeConfirmed _ _ | .closeLost _ => some .closing
  | _ => none

/-- What is told of hooks. -/
def hooksTold (events : List (Event τ)) : List (Event τ) :=
  events.filter fun event => event.hookSlot?.isSome

/-- What is told of the hooks of one slot. -/
def toldOf (slot : HookSlot) (events : List (Event τ)) : List (Event τ) :=
  events.filter fun event => event.hookSlot? = some slot

theorem hooksTold_append (first second : List (Event τ)) :
    hooksTold (first ++ second) = hooksTold first ++ hooksTold second :=
  List.filter_append first second

theorem toldOf_append (slot : HookSlot) (first second : List (Event τ)) :
    toldOf slot (first ++ second) = toldOf slot first ++ toldOf slot second :=
  List.filter_append first second

theorem toldOf_hooksTold (slot : HookSlot) (events : List (Event τ)) :
    toldOf slot (hooksTold events) = toldOf slot events := by
  unfold toldOf hooksTold
  rw [List.filter_filter]
  refine List.filter_congr fun event _ => ?_
  cases event.hookSlot? with
  | none => rfl
  | some _ => exact Bool.and_true _

def Event.runsHook : Event τ → Bool
  | .containerOpened _ _ | .containerClosed _ _ | .closeConfirmed _ _ => true
  | _ => false

/-- The runs of hooks. That a receipt is lost is not one. -/
def hookRuns (events : List (Event τ)) : List (Event τ) := events.filter Event.runsHook

theorem hookRuns_append (first second : List (Event τ)) :
    hookRuns (first ++ second) = hookRuns first ++ hookRuns second :=
  List.filter_append first second

theorem hookRuns_hooksTold (events : List (Event τ)) :
    hookRuns (hooksTold events) = hookRuns events := by
  unfold hookRuns hooksTold
  rw [List.filter_filter]
  refine List.filter_congr fun event _ => ?_
  cases event <;> rfl

namespace ContainerTracker

open HookMoment

/-- What a moment makes of a tracker, and what is to be seen of the hook that waited. -/
def meet (tracker : ContainerTracker τ) : HookMoment τ → ContainerTracker τ × List (Event τ)
  | .onOpen callback => ({ tracker with openHook := some callback }, [])
  | .onClose hook =>
      ((tracker.setCloseHook (some hook)).1, Engine.lostReceipt tracker.closeHook)
  | .opened container =>
      ((tracker.opened container).1,
        (tracker.openHook.map fun callback => .containerOpened callback container).toList)
  | .closed container =>
      ((tracker.closed container).1, (tracker.closeHook.map (CloseHook.event container)).toList)

def meetAll (tracker : ContainerTracker τ) :
    List (HookMoment τ) → ContainerTracker τ × List (Event τ)
  | [] => (tracker, [])
  | moment :: later =>
      let (next, events) := tracker.meet moment
      let (final, others) := next.meetAll later
      (final, events ++ others)

theorem meetAll_append (tracker : ContainerTracker τ) (first second : List (HookMoment τ)) :
    tracker.meetAll (first ++ second) =
      (((tracker.meetAll first).1.meetAll second).1,
        (tracker.meetAll first).2 ++ ((tracker.meetAll first).1.meetAll second).2) := by
  induction first generalizing tracker with
  | nil => rfl
  | cons moment later induction =>
      rw [List.cons_append, meetAll, meetAll]
      simp only
      rw [induction, List.append_assoc]

theorem meetAll_singleton (tracker : ContainerTracker τ) (moment : HookMoment τ) :
    tracker.meetAll [moment] = tracker.meet moment := by
  unfold meetAll
  simp [meetAll]

/-- A tracker knows of a story which hooks wait, and the last event. -/
structure Recalls (tracker : ContainerTracker τ) (story : List (HookMoment τ)) : Prop where
  openHook : tracker.openHook = (latest? .opening story).bind openHook?
  closeHook : tracker.closeHook = (latest? .closing story).bind closeHook?
  state : tracker.state = (lastEvent? story).getD .neverOpened

variable {tracker : ContainerTracker τ} {story : List (HookMoment τ)}

theorem Recalls.opened {container : OpenedContainer} (recalls : tracker.Recalls story) :
    tracker.openContainer? = some container ↔ lastEvent? story = some (.opened container) := by
  unfold openContainer?
  rw [recalls.state]
  rcases lastEvent? story with none | ⟨_ | _ | _⟩ <;> simp

theorem Recalls.closed {container : ClosedContainer} (recalls : tracker.Recalls story) :
    tracker.closedContainer? = some container ↔ lastEvent? story = some (.closed container) := by
  unfold closedContainer?
  rw [recalls.state]
  rcases lastEvent? story with none | ⟨_ | _ | _⟩ <;> simp

theorem Recalls.meet (recalls : tracker.Recalls story) (moment : HookMoment τ) :
    (tracker.meet moment).1.Recalls (story ++ [moment]) := by
  constructor
  case openHook =>
    rw [latest?_concat]
    cases moment with
    | onOpen _ => rfl
    | opened _ => rfl
    | onClose _ => exact recalls.openHook
    | closed _ => exact recalls.openHook
  case closeHook =>
    rw [latest?_concat]
    cases moment with
    | onOpen _ => exact recalls.closeHook
    | opened _ => exact recalls.closeHook
    | onClose _ => rfl
    | closed _ => rfl
  case state =>
    rw [lastEvent?_concat]
    cases moment with
    | onOpen _ => exact recalls.state
    | onClose _ => exact recalls.state
    | opened _ => rfl
    | closed _ => rfl

/-- What is told at a moment is how the hook ends that waited for it. -/
theorem Recalls.meet_tells (recalls : tracker.Recalls story) (moment : HookMoment τ) :
    (tracker.meet moment).2 = ended story moment := by
  cases moment with
  | onOpen callback =>
      unfold ended
      change [] = (latest? .opening story).elim [] fun waiting => waiting.ends (.onOpen callback)
      rcases latest? .opening story with none | ⟨_ | ⟨_ | _⟩ | _ | _⟩ <;> rfl
  | opened container =>
      change (tracker.openHook.map fun callback =>
          Event.containerOpened callback container).toList =
        (latest? .opening story).elim [] fun waiting => waiting.ends (.opened container)
      rw [recalls.openHook]
      rcases latest? .opening story with none | ⟨_ | ⟨_ | _⟩ | _ | _⟩ <;> rfl
  | onClose hook =>
      change Engine.lostReceipt tracker.closeHook =
        (latest? .closing story).elim [] fun waiting => waiting.ends (.onClose hook)
      rw [recalls.closeHook]
      rcases latest? .closing story with none | ⟨_ | ⟨_ | _⟩ | _ | _⟩ <;> rfl
  | closed container =>
      change (tracker.closeHook.map (CloseHook.event container)).toList =
        (latest? .closing story).elim [] fun waiting => waiting.ends (.closed container)
      rw [recalls.closeHook]
      rcases latest? .closing story with none | ⟨_ | ⟨_ | _⟩ | _ | _⟩ <;> rfl

theorem Recalls.meetAll (recalls : tracker.Recalls story) (moments : List (HookMoment τ)) :
    (tracker.meetAll moments).1.Recalls (story ++ moments) := by
  induction moments generalizing tracker story with
  | nil => rwa [List.append_nil]
  | cons moment later induction =>
      have onwards := induction (recalls.meet moment)
      rwa [List.append_assoc, List.singleton_append] at onwards

theorem toldOf_meet (tracker : ContainerTracker τ) (moment : HookMoment τ) (slot : HookSlot) :
    toldOf slot (tracker.meet moment).2 =
      if moment.slot = slot then (tracker.meet moment).2 else [] := by
  have ofSlot : ∀ event ∈ (tracker.meet moment).2, event.hookSlot? = some moment.slot := by
    unfold ContainerTracker.meet Engine.lostReceipt
    rcases moment with _ | _ | _ | _
    · exact fun _ told => absurd told List.not_mem_nil
    · rcases tracker.closeHook with none | ⟨_ | _⟩
      · exact fun _ told => absurd told List.not_mem_nil
      · exact fun _ told => absurd told List.not_mem_nil
      · exact List.forall_mem_singleton.2 rfl
    · cases tracker.openHook with
      | none => exact fun _ told => absurd told List.not_mem_nil
      | some _ => exact List.forall_mem_singleton.2 rfl
    · rcases tracker.closeHook with none | ⟨_ | _⟩
      · exact fun _ told => absurd told List.not_mem_nil
      · exact List.forall_mem_singleton.2 rfl
      · exact List.forall_mem_singleton.2 rfl
  unfold toldOf
  split
  · next same => exact List.filter_eq_self.2 fun event told => by simp [ofSlot event told, same]
  · next differs =>
      exact List.filter_eq_nil_iff.2 fun event told => by simp [ofSlot event told, differs]

/-- What is told at some moments are the fates that they decide. -/
theorem Recalls.fates_append (recalls : tracker.Recalls story) (slot : HookSlot)
    (moments : List (HookMoment τ)) :
    fates slot (story ++ moments) =
      fates slot story ++ toldOf slot (tracker.meetAll moments).2 := by
  induction moments generalizing tracker story with
  | nil => rw [List.append_nil]; exact (List.append_nil _).symm
  | cons moment later induction =>
      have onwards := induction (recalls.meet moment)
      rw [List.append_assoc, List.singleton_append, fates_concat, List.append_assoc] at onwards
      rw [onwards, ContainerTracker.meetAll, toldOf_append, toldOf_meet, recalls.meet_tells]

/-- To register hooks runs none. -/
theorem hookRuns_meetAll (tracker : ContainerTracker τ) {moments : List (HookMoment τ)}
    (registering : ∀ moment ∈ moments, moment.state? = none) :
    hookRuns (tracker.meetAll moments).2 = [] := by
  induction moments generalizing tracker with
  | nil => rfl
  | cons moment later induction =>
      obtain ⟨first, others⟩ := List.forall_mem_cons.1 registering
      have rest := induction (tracker.meet moment).1 others
      have own : hookRuns (tracker.meet moment).2 = [] := by
        cases moment with
        | onOpen _ => rfl
        | onClose _ =>
            change hookRuns (Engine.lostReceipt tracker.closeHook) = []
            rcases tracker.closeHook with none | ⟨_ | _⟩ <;> rfl
        | opened _ => cases first
        | closed _ => cases first
      rw [meetAll, hookRuns_append, own, rest, List.append_nil]

/-- The least that can have happened to a tracker. -/
def past (tracker : ContainerTracker τ) : List (HookMoment τ) :=
  (match tracker.state with
    | .neverOpened => []
    | .opened container => [.opened container]
    | .closed container => [.closed container]) ++
    (tracker.openHook.map .onOpen).toList ++ (tracker.closeHook.map .onClose).toList

theorem recalls_past (tracker : ContainerTracker τ) : tracker.Recalls tracker.past := by
  obtain ⟨_ | _ | _, _ | _, _ | _⟩ := tracker <;> exact ⟨rfl, rfl, rfl⟩

theorem fates_past (tracker : ContainerTracker τ) (slot : HookSlot) :
    fates slot tracker.past = [] := by
  cases slot <;> obtain ⟨_ | _ | _, _ | _, _ | _⟩ := tracker <;> rfl

end ContainerTracker

end InventorySync
