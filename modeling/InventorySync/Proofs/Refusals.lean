import InventorySync.Proofs.Batching
import InventorySync.Proofs.Regrouping

/-!
Which queues of moves, swaps and drops can be compiled. A slot is refused if it has no role
while the present container is open, or else if nothing is known of its window. Nothing else is
looked at: not what the slots hold, not how many items are asked for, not what was queued
before, and not which request an operation becomes part of. A queue fails at the first slot
that is refused, for the reason of that slot.
-/

namespace InventorySync

set_option autoImplicit false

/-- There are three reasons why a slot has no role. -/
theorem Role.resolve_error {overrides : RoleOverrides} {opened : Option OpenedContainer}
    {location : Location} {failure : SyncError}
    (unresolved : resolve overrides opened location = .error failure) :
    failure = .noOpenContainer ∨ failure = .windowNotOpen location.window ∨
      failure = .unresolvedRole location := by
  unfold resolve at unresolved
  repeat' split at unresolved
  all_goals cases unresolved <;> simp

namespace Compile

/-- A slot that has a role, and of whose window something is known. Slots of the player's
interface need not be known. -/
def Reachable (context : Context) (location : Location) : Prop :=
  (∃ role, Role.resolve context.overrides context.opened location = .ok role) ∧
    (context.inventory.knows location.window ∨ location.window = Window.ui)

/-- Why a slot is refused, if it is. That it has no role is noticed first. -/
def refusal? (context : Context) (location : Location) : Option SyncError :=
  match Role.resolve context.overrides context.opened location with
  | .error failure => some failure
  | .ok _ =>
      if context.inventory.knows location.window || location.window = Window.ui then none
      else some (.missingSlot location)

/-- The reason of the first slot in a row that is refused. -/
def firstRefusal? (context : Context) (locations : List Location) : Option SyncError :=
  locations.findSome? (refusal? context)

section Slots

variable {context : Context} {location : Location}

theorem refusal?_eq_none : refusal? context location = none ↔ Reachable context location := by
  unfold refusal? Reachable
  cases Role.resolve context.overrides context.opened location with
  | error failure => simp
  | ok role => cases context.inventory.knows location.window <;> simp

theorem firstRefusal?_eq_none {locations : List Location} :
    firstRefusal? context locations = none ↔
      ∀ location ∈ locations, Reachable context location := by
  simp only [firstRefusal?, List.findSome?_eq_none_iff, refusal?_eq_none]

theorem firstRefusal?_eq_some {locations : List Location} {failure : SyncError} :
    firstRefusal? context locations = some failure ↔
      ∃ before location later, locations = before ++ location :: later ∧
        (∀ other ∈ before, Reachable context other) ∧
        refusal? context location = some failure := by
  simp only [firstRefusal?, List.findSome?_eq_some_iff, refusal?_eq_none]
  constructor
  · rintro ⟨before, location, later, split, refused, reachable⟩
    exact ⟨before, location, later, split, reachable, refused⟩
  · rintro ⟨before, location, later, split, reachable, refused⟩
    exact ⟨before, location, later, split, refused, reachable⟩

theorem refusal?_reasons {failure : SyncError}
    (refused : refusal? context location = some failure) :
    Role.resolve context.overrides context.opened location = .error failure ∧
      (failure = .noOpenContainer ∨ failure = .windowNotOpen location.window ∨
        failure = .unresolvedRole location) ∨
    (∃ role, Role.resolve context.overrides context.opened location = .ok role) ∧
      failure = .missingSlot location := by
  unfold refusal? at refused
  cases resolved : Role.resolve context.overrides context.opened location with
  | error cause =>
      rw [resolved] at refused
      cases refused
      exact Or.inl ⟨rfl, Role.resolve_error resolved⟩
  | ok role =>
      rw [resolved] at refused
      dsimp only at refused
      split at refused
      · cases refused
      · cases refused
        exact Or.inr ⟨⟨role, rfl⟩, rfl⟩

theorem firstRefusal?_append (context : Context) (first second : List Location) :
    firstRefusal? context (first ++ second) =
      (firstRefusal? context first).or (firstRefusal? context second) :=
  List.findSome?_append

/-- Slots are taken over from windows that are known, so a slot in the overlay could be used
from the start. -/
def Draft.Grounded (context : Context) (draft : Draft) : Prop :=
  ∀ location, draft.overlay.holds location →
    context.inventory.knows location.window ∨ location.window = Window.ui

theorem grounded_of_empty : ({ overlay := .empty } : Draft).Grounded context := by
  intro location held
  cases held

/-- The slots that may be used are the same at every moment. -/
theorem Draft.Grounded.usable_iff {draft : Draft} (grounded : draft.Grounded context) :
    Usable context draft.overlay location ↔ Reachable context location := by
  have available : draft.overlay.available context.inventory location ↔
      context.inventory.knows location.window ∨ location.window = Window.ui := by
    rw [available_iff]
    exact or_iff_right_of_imp (grounded location)
  unfold Usable Reachable
  rw [available]

theorem Arranges.grounded {named : List Location} {effect : Items → Items}
    {draft after : Draft} (arranges : Arranges context named effect draft after)
    (grounded : draft.Grounded context) : after.Grounded context := by
  intro location held
  rcases (arranges.holds location).1 held with before | member
  · exact grounded location before
  · exact (grounded.usable_iff.1 (arranges.usable location member)).2

end Slots

section Steps

variable {context : Context} {requestId : Int32} {draft : Draft} {failure : SyncError}
  {locations others : List Location} {α β : Type}

theorem refer_refused {location : Location} (grounded : draft.Grounded context)
    (refused : refusal? context location = some failure) :
    refer context requestId location draft = .error failure := by
  have available := @Draft.Grounded.usable_iff context location draft grounded
  unfold Usable Reachable at available
  unfold refusal? at refused
  rw [refer_eq]
  cases resolved : Role.resolve context.overrides context.opened location with
  | error cause =>
      rw [resolved] at refused
      cases refused
      rfl
  | ok role =>
      rw [resolved] at refused available
      simp only [Except.ok.injEq, exists_eq', true_and] at available
      by_cases known : draft.overlay.available context.inventory location
      · simp [available.1 known] at refused
      · have unknown := mt available.2 known
        simp only [Bool.or_eq_true, decide_eq_true_eq, if_neg unknown, Option.some.injEq]
          at refused
        simp only [if_neg known, refused]

/-- An operation names its slots first, one after another. -/
theorem refer_both_refused {first second : Location} {next : SlotRef → SlotRef → Action α}
    (grounded : draft.Grounded context)
    (refused : firstRefusal? context [first, second] = some failure) :
    (refer context requestId first >>= fun one =>
      refer context requestId second >>= fun two => next one two) draft = .error failure := by
  unfold firstRefusal? at refused
  rw [List.findSome?_cons] at refused
  cases early : refusal? context first with
  | some cause =>
      rw [early] at refused
      cases refused
      exact bind_of_error (refer_refused grounded early)
  | none =>
      rw [early] at refused
      have late : refusal? context second = some failure := by
        simpa using refused
      have usable := grounded.usable_iff.2 (refusal?_eq_none.1 early)
      obtain ⟨reference, between, named⟩ := @refer_succeeds context requestId draft first usable
      rw [bind_of_ok named]
      exact bind_of_error (refer_refused ((refer_arranges named).grounded grounded) late)

theorem operation_refused {step : Operation} (plain : step.rearranges)
    (grounded : draft.Grounded context)
    (refused : firstRefusal? context step.slots = some failure) :
    operation context requestId step draft = .error failure := by
  cases step with
  | move source target count => exact refer_both_refused grounded refused
  | swap first second => exact refer_both_refused grounded refused
  | drop source count =>
      apply bind_of_error
      apply refer_refused grounded
      simpa [firstRefusal?, Operation.slots] using refused
  | _ => cases plain

/-- What came of a run that names these slots: it stopped at the first one that is refused, or
none is, and the result is as it should be. -/
inductive Screened (context : Context) (locations : List Location) (good : α → Prop) :
    Except SyncError α → Prop where
  | refused {failure : SyncError} (first : firstRefusal? context locations = some failure) :
      Screened context locations good (.error failure)
  | passed {result : α} (nothing : firstRefusal? context locations = none)
      (kept : good result) : Screened context locations good (.ok result)

theorem Screened.error_iff {good : α → Prop} {result : Except SyncError α}
    (screened : Screened context locations good result) :
    result = .error failure ↔ firstRefusal? context locations = some failure := by
  cases screened with
  | refused first => simp [first]
  | passed nothing kept => simp [nothing]

theorem Screened.isOk_iff {good : α → Prop} {result : Except SyncError α}
    (screened : Screened context locations good result) :
    result.isOk ↔ firstRefusal? context locations = none := by
  cases screened with
  | refused first => simp [first, Except.isOk, Except.toBool]
  | passed nothing kept => simp [nothing, Except.isOk, Except.toBool]

/-- A run that goes on after another one, if that passes. -/
theorem Screened.append {good : α → Prop} {fine : β → Prop} {result : Except SyncError α}
    {next : α → Except SyncError β} (head : Screened context locations good result)
    (tail : ∀ answer, good answer → Screened context others fine (next answer)) :
    Screened context (locations ++ others) fine (result >>= next) := by
  have whole := firstRefusal?_append context locations others
  cases head with
  | refused first =>
      rw [first] at whole
      exact .refused whole
  | @passed answer nothing kept =>
      rw [nothing, Option.none_or] at whole
      have rest := tail answer kept
      change Screened context (locations ++ others) fine (next answer)
      generalize next answer = after at rest ⊢
      cases rest with
      | refused first => exact .refused (whole.trans first)
      | passed clear fits => exact .passed (whole.trans clear) fits

theorem Screened.map {good : α → Prop} {result : Except SyncError α}
    (screened : Screened context locations good result) (change : α → β) :
    Screened context locations (fun _ => True) (result.map change) := by
  cases screened with
  | refused first => exact .refused first
  | passed nothing kept => exact .passed nothing trivial

theorem operation_screened {step : Operation} (plain : step.rearranges)
    (grounded : draft.Grounded context) :
    Screened context step.slots (fun ran => ran.2.Grounded context)
      (operation context requestId step draft) := by
  cases first : firstRefusal? context step.slots with
  | some failure =>
      rw [operation_refused plain grounded first]
      exact .refused first
  | none =>
      have reachable := firstRefusal?_eq_none.1 first
      obtain ⟨after, performed⟩ := @operation_succeeds context requestId draft step plain
        fun location member => grounded.usable_iff.2 (reachable location member)
      rw [performed]
      exact .passed first ((operation_arranges plain performed).grounded grounded)

theorem forM_screened {operations : List Operation}
    (plain : ∀ step ∈ operations, step.rearranges) (grounded : draft.Grounded context) :
    Screened context (Operation.allSlots operations) (fun ran => ran.2.Grounded context)
      (operations.forM (operation context requestId) draft) := by
  induction operations generalizing draft with
  | nil => exact .passed rfl grounded
  | cons step later induction =>
      obtain ⟨simple, others⟩ := List.forall_mem_cons.1 plain
      have head := @operation_screened context requestId draft step simple grounded
      exact head.append fun ran kept => induction others kept

/-- One overlay runs through all groups, so it makes no difference where a group ends. -/
theorem groups_screened {members : List (List Operation)} {overlay : Overlay}
    (plain : ∀ step ∈ members.flatten, step.rearranges) (requestId : Int32)
    (grounded : ({ overlay } : Draft).Grounded context) :
    Screened context (Operation.allSlots members.flatten) (fun _ => True)
      (groups context requestId overlay members).1 := by
  induction members generalizing requestId overlay with
  | nil => exact .passed rfl trivial
  | cons operations later induction =>
      rw [List.flatten_cons, List.forall_mem_append] at plain
      have head := @forM_screened context requestId _ operations plain.1 grounded
      have joined : (groups context requestId overlay (operations :: later)).1 =
          operations.forM (operation context requestId) { overlay } >>= fun ran =>
            (groups context (idAfter requestId) ran.2.overlay later).1.map
              fun others => ran.2.finish requestId :: others := by
        rw [groups_cons]
        cases operations.forM (operation context requestId) { overlay } <;> rfl
      rw [joined, List.flatten_cons, allSlots_append]
      apply head.append
      intro ran kept
      exact (induction plain.2 (idAfter requestId) kept).map _

end Steps

end Compile

namespace Engine

variable {τ : Type}

/-- Whether a queue can be compiled, and why not. -/
structure FailsAtFirstRefusal (engine : Engine τ) (queue : List Operation) : Prop where
  compiles : (engine.compile queue).1.isOk ↔
    ∀ location ∈ Operation.allSlots queue, Compile.Reachable engine.context location
  /-- Slots count in the order of the queue, the source of an operation before its target. -/
  fails : ∀ failure, (engine.compile queue).1 = .error failure ↔
    ∃ before location later, Operation.allSlots queue = before ++ location :: later ∧
      (∀ other ∈ before, Compile.Reachable engine.context other) ∧
      Compile.refusal? engine.context location = some failure
  reasons : ∀ location failure, Compile.refusal? engine.context location = some failure →
    Role.resolve engine.settings.overrides engine.containers.openContainer? location =
        .error failure ∧
      (failure = .noOpenContainer ∨ failure = .windowNotOpen location.window ∨
        failure = .unresolvedRole location) ∨
    (∃ role, Role.resolve engine.settings.overrides engine.containers.openContainer? location =
        .ok role) ∧ failure = .missingSlot location

/-- A queue of moves, swaps and drops compiles just if each of its slots has a role and may be
used, and fails with the reason of the first slot that does not. -/
theorem moves_fail_at_first_refusal (engine : Engine τ) {queue : List Operation}
    (plain : ∀ operation ∈ queue, operation.rearranges) : engine.FailsAtFirstRefusal queue := by
  have whole := engine.settings.policy.flatten_group queue
  have screened := @Compile.groups_screened engine.context
    (engine.settings.policy.group queue) .empty (whole.symm ▸ plain) engine.requests.nextId
    Compile.grounded_of_empty
  rw [whole] at screened
  constructor
  case compiles => exact screened.isOk_iff.trans Compile.firstRefusal?_eq_none
  case fails =>
    intro failure
    exact screened.error_iff.trans Compile.firstRefusal?_eq_some
  case reasons => exact fun location failure => Compile.refusal?_reasons

/-- A chest is open, nothing is known of the offhand slot, and window 9 is not open. -/
def misplacing : Engine Unit where
  inventory := (Inventory.empty.set ⟨0, 9⟩ { typeId := 3, count := 1 }).set ⟨5, 0⟩ .empty
  containers := { state := .opened ⟨5, ContainerType.chest, default, -1⟩ }

def misplacingQueue : List Operation :=
  [.move ⟨0, 9⟩ ⟨0, 9⟩ 0, .swap ⟨5, 0⟩ UiSlot.cursor, .drop ⟨119, 0⟩ 3, .move ⟨9, 1⟩ ⟨0, 9⟩ 1]

theorem misplaced_drop_is_refused :
    (misplacing.compile misplacingQueue).1 = .error (.missingSlot ⟨119, 0⟩) ∧
      misplacing.FailsAtFirstRefusal misplacingQueue := by
  have fails := @moves_fail_at_first_refusal Unit misplacing misplacingQueue (by decide)
  refine ⟨?_, fails⟩
  apply (fails.fails _).2
  refine ⟨[⟨0, 9⟩, ⟨0, 9⟩, ⟨5, 0⟩, UiSlot.cursor], ⟨119, 0⟩, [⟨9, 1⟩, ⟨0, 9⟩], rfl, ?_, rfl⟩
  intro other member
  rw [← Compile.refusal?_eq_none]
  revert other
  decide

end Engine

end InventorySync
