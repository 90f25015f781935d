import InventorySync.Engine
import InventorySync.Proofs.Overlay
import Mathlib

/-!
What follows when a step of the compiler succeeds. A step is a chain of binds in
`Compile.Action`; the lemmas on its links open the chain, and `refer_ok` says all
that naming a slot can do.
-/

namespace InventorySync

set_option autoImplicit false

namespace Compile

section Links

variable {α β : Type} {draft after : Draft}

theorem bind_ok {first : Action α} {next : α → Action β} {answer : β} :
    (first >>= next) draft = .ok (answer, after) ↔
      ∃ middle between, first draft = .ok (middle, between) ∧
        next middle between = .ok (answer, after) := by
  change (first draft >>= fun (middle, between) => next middle between) = _ ↔ _
  rcases first draft with failure | ⟨middle, between⟩
  · simp [bind, Except.bind]
  · constructor
    · intro found
      exact ⟨middle, between, rfl, found⟩
    · intro found
      obtain ⟨other, reached, same, ended⟩ := found
      cases same
      exact ended

theorem bind_of_ok {first : Action α} {next : α → Action β} {middle : α} {between : Draft}
    (began : first draft = .ok (middle, between)) :
    (first >>= next) draft = next middle between := by
  change (first draft >>= fun (middle, between) => next middle between) = _
  rw [began]
  rfl

theorem bind_of_error {first : Action α} {next : α → Action β} {failure : SyncError}
    (failed : first draft = .error failure) : (first >>= next) draft = .error failure := by
  change (first draft >>= fun (middle, between) => next middle between) = _
  rw [failed]
  rfl

theorem pure_ok {answer other : α} :
    (pure answer : Action α) draft = .ok (other, after) ↔ answer = other ∧ draft = after := by
  simp [pure, StateT.pure, Except.pure]

theorem lift_ok {result : Except SyncError α} {answer : α} :
    (liftM result : Action α) draft = .ok (answer, after) ↔
      result = .ok answer ∧ draft = after := by
  cases result <;>
    simp [liftM, monadLift, MonadLift.monadLift, StateT.lift, bind, Except.bind, pure, Except.pure]

theorem throw_ok {failure : SyncError} {answer : α} :
    (throw failure : Action α) draft = .ok (answer, after) ↔ False := by
  simp [throw, throwThe, MonadExceptOf.throw, StateT.lift, bind, Except.bind]

theorem get_ok {current : Draft} :
    (get : Action Draft) draft = .ok (current, after) ↔ draft = current ∧ draft = after := by
  simp [get, getThe, MonadStateOf.get, StateT.get, pure, Except.pure]

theorem modify_ok {change : Draft → Draft} {answer : Unit} :
    (modify change : Action Unit) draft = .ok (answer, after) ↔ change draft = after := by
  simp [modify, modifyGet, MonadStateOf.modifyGet, StateT.modifyGet, pure, Except.pure]

theorem onOverlay_ok {action : Overlay.Action α} {answer : α} :
    onOverlay action draft = .ok (answer, after) ↔
      ∃ overlay, action draft.overlay = (.ok answer, overlay) ∧ { draft with overlay } = after := by
  unfold onOverlay
  rcases action draft.overlay with ⟨failure | result, overlay⟩
  · constructor
    · intro same
      cases same
    · intro found
      obtain ⟨overlay, same, -⟩ := found
      cases same
  · constructor
    · intro same
      cases same
      exact ⟨overlay, rfl, rfl⟩
    · intro found
      obtain ⟨overlay, same, rfl⟩ := found
      cases same
      rfl

theorem emit_ok {action : StackAction} {answer : Unit} :
    emit action draft = .ok (answer, after) ↔
      { draft with actions := draft.actions ++ [action] } = after :=
  modify_ok

end Links

section Steps

variable (context : Context) (requestId : Int32)

/-- The draft once it names a slot under a role. -/
def Draft.naming (draft : Draft) (inventory : Inventory) (requestId : Int32)
    (location : Location) (role : Role) : Draft :=
  { draft with
    overlay := draft.overlay.setStackId inventory location requestId
    windows := draft.windows.note role location.window
    touched := location.insertInto draft.touched }

variable {context requestId} {draft after : Draft}

theorem refer_ok {location : Location} {reference : SlotRef} :
    refer context requestId location draft = .ok (reference, after) ↔
      ∃ role, Role.resolve context.overrides context.opened location = .ok role ∧
        draft.overlay.available context.inventory location ∧
        ⟨role, location.slot, draft.overlay.stackIdAt context.inventory location⟩ = reference ∧
        draft.naming context.inventory requestId location role = after := by
  unfold refer
  simp only [bind_ok, lift_ok, onOverlay_ok, modify_ok, pure_ok, Overlay.reserve, Overlay.use_ok]
  constructor
  · intro named
    obtain ⟨role, _, ⟨resolved, rfl⟩, stackId, _, reserved, _, _, rfl, rfl, rfl⟩ := named
    obtain ⟨_, ⟨known, rfl, rfl⟩, rfl⟩ := reserved
    exact ⟨role, resolved, known, rfl, rfl⟩
  · intro named
    obtain ⟨role, resolved, known, rfl, rfl⟩ := named
    exact ⟨role, draft, ⟨resolved, rfl⟩, _, _, ⟨_, ⟨known, rfl, rfl⟩, rfl⟩, (), _, rfl, rfl, rfl⟩

theorem referOutput_ok {reference : SlotRef} :
    referOutput requestId draft = .ok (reference, after) ↔
      ⟨.createdOutput, UiSlot.createdOutput.slot, requestId⟩ = reference ∧
        { draft with
          windows := draft.windows.note .createdOutput UiSlot.createdOutput.window } = after := by
  unfold referOutput
  simp only [bind_ok, modify_ok, pure_ok]
  constructor
  · intro named
    obtain ⟨_, _, rfl, rfl, rfl⟩ := named
    exact ⟨rfl, rfl⟩
  · intro named
    obtain ⟨rfl, rfl⟩ := named
    exact ⟨(), _, rfl, rfl, rfl⟩

theorem itemOf_ok {location : Location} {item : Item} :
    itemOf context location draft = .ok (item, after) ↔
      draft.overlay.available context.inventory location ∧
        draft.overlay.itemAt context.inventory location = item ∧ item.isEmpty = false ∧
        { draft with
          overlay := draft.overlay.setSlot location
            (draft.overlay.slotAt context.inventory location) } = after := by
  unfold itemOf
  simp only [bind_ok, onOverlay_ok, Overlay.item, Overlay.use_ok]
  constructor
  · intro read
    obtain ⟨found, _, ⟨_, ⟨known, rfl, rfl⟩, rfl⟩, ended⟩ := read
    split at ended
    · simp only [bind_ok, throw_ok, false_and, exists_false] at ended
    · next filled =>
        obtain ⟨rfl, rfl⟩ := pure_ok.1 ended
        exact ⟨known, rfl, Bool.eq_false_iff.2 filled, rfl⟩
  · intro read
    obtain ⟨known, rfl, filled, rfl⟩ := read
    refine ⟨_, _, ⟨_, ⟨known, rfl, rfl⟩, rfl⟩, ?_⟩
    unfold Overlay.itemAt at filled ⊢
    rw [if_neg (Bool.eq_false_iff.1 filled)]
    exact pure_ok.2 ⟨rfl, rfl⟩

end Steps

section Runs

variable {context : Context} {requestId : Int32} {overlay after : Overlay}

theorem forM_cons_ok {step : Operation → Action Unit} {operation : Operation}
    {later : List Operation} {draft final : Draft} {answer : Unit} :
    (operation :: later).forM step draft = .ok (answer, final) ↔
      ∃ between, step operation draft = .ok ((), between) ∧
        later.forM step between = .ok (answer, final) := by
  change (step operation >>= fun _ => later.forM step) draft = _ ↔ _
  rw [bind_ok]
  constructor
  · intro ran
    obtain ⟨_, between, head, tail⟩ := ran
    exact ⟨between, head, tail⟩
  · intro ran
    obtain ⟨between, head, tail⟩ := ran
    exact ⟨(), between, head, tail⟩

theorem group_ok {operations : List Operation} {compiled : CompiledRequest} :
    group context requestId overlay operations = .ok (compiled, after) ↔
      ∃ draft, operations.forM (operation context requestId) { overlay } = .ok ((), draft) ∧
        draft.finish requestId = compiled ∧ draft.overlay = after := by
  unfold group
  change (operations.forM (operation context requestId) { overlay } >>= _) = _ ↔ _
  rcases operations.forM (operation context requestId) { overlay } with failure | ⟨_, draft⟩
  · simp [bind, Except.bind]
  · simp [bind, Except.bind, pure, Except.pure]

theorem groups_nil_ok {compiled : List CompiledRequest} {free : Int32} :
    groups context requestId overlay [] = (.ok compiled, free) ↔
      [] = compiled ∧ requestId = free := by
  simp [groups]

theorem groups_cons_ok {operations : List Operation} {later : List (List Operation)}
    {compiled : List CompiledRequest} {free : Int32} :
    groups context requestId overlay (operations :: later) = (.ok compiled, free) ↔
      ∃ first between others, group context requestId overlay operations = .ok (first, between) ∧
        groups context (idAfter requestId) between later = (.ok others, free) ∧
        first :: others = compiled := by
  rw [groups]
  rcases group context requestId overlay operations with failure | ⟨first, between⟩
  · simp
  · rcases rest : groups context (idAfter requestId) between later with ⟨failure | others, last⟩
    · simp only [rest, Except.map, Prod.mk.injEq, reduceCtorEq, false_and, Except.ok.injEq,
        false_iff]
      intro ran
      obtain ⟨_, _, others, ⟨rfl, rfl⟩, found, -⟩ := ran
      rw [rest] at found
      cases found
    · simp only [rest, Except.map, Prod.mk.injEq, Except.ok.injEq]
      constructor
      · intro ran
        obtain ⟨rfl, rfl⟩ := ran
        exact ⟨first, between, others, ⟨rfl, rfl⟩, rest, rfl⟩
      · intro ran
        obtain ⟨_, _, _, ⟨rfl, rfl⟩, found, rfl⟩ := ran
        rw [rest] at found
        cases found
        exact ⟨rfl, rfl⟩

/-- Each request is compiled from the group of operations in its place. -/
theorem groups_members {grouped : List (List Operation)} {compiled : List CompiledRequest}
    {free : Int32} (succeeds : groups context requestId overlay grouped = (.ok compiled, free)) :
    List.Forall₂ (fun members entry => ∃ id before after,
      group context id before members = .ok (entry, after)) grouped compiled := by
  induction grouped generalizing requestId overlay compiled with
  | nil =>
      obtain ⟨rfl, -⟩ := groups_nil_ok.1 succeeds
      exact .nil
  | cons members later induction =>
      obtain ⟨first, between, others, head, tail, rfl⟩ := groups_cons_ok.1 succeeds
      exact .cons ⟨_, _, _, head⟩ (induction tail)

/-- The id of a request by its place in the packet. -/
def idAt (first : Int32) (position : Nat) : Int32 := first - 2 * Int32.ofNat position

theorem idAt_zero (first : Int32) : idAt first 0 = first := by
  unfold idAt
  simp

theorem idAt_succ (first : Int32) (position : Nat) :
    idAt first (position + 1) = idAt (idAfter first) position := by
  unfold idAt idAfter
  rw [Int32.ofNat_add]
  grind

/-- As long as no id comes round again, different places in a packet have different ids. -/
theorem idAt_injective {first : Int32} {position other : Nat} (bound : position < 2 ^ 31)
    (otherBound : other < 2 ^ 31) (same : idAt first position = idAt first other) :
    position = other := by
  unfold idAt at same
  have doubled : 2 * Int32.ofNat position = 2 * Int32.ofNat other := by grind
  have bits := congrArg BitVec.toNat (congrArg Int32.toBitVec doubled)
  simp [BitVec.toNat_mul] at bits
  omega

theorem idAfter_idAt (first : Int32) (position : Nat) :
    idAfter (idAt first position) = idAt first (position + 1) := by
  unfold idAt idAfter
  rw [Int32.ofNat_add]
  grind

theorem idAt_idAt (first : Int32) (earlier position : Nat) :
    idAt (idAt first earlier) position = idAt first (earlier + position) := by
  unfold idAt
  rw [Int32.ofNat_add]
  grind

theorem toInt_idAfter {id : Int32} (room : -2 ^ 31 ≤ id.toInt - 2) :
    (idAfter id).toInt = id.toInt - 2 := by
  unfold idAfter
  have upper := id.toInt_lt
  rw [Int32.toInt_sub]
  exact Int.bmod_eq_of_le (by simpa using room) (by change id.toInt - 2 < _; omega)

theorem toInt_idAt {first : Int32} {position : Nat}
    (room : -2 ^ 31 ≤ first.toInt - 2 * position) :
    (idAt first position).toInt = first.toInt - 2 * position := by
  induction position with
  | zero => simp [idAt_zero]
  | succ position induction =>
      have before := induction (by omega)
      rw [← idAfter_idAt, toInt_idAfter (by omega), before]
      omega

theorem group_request_id {operations : List Operation} {compiled : CompiledRequest}
    (succeeds : group context requestId overlay operations = .ok (compiled, after)) :
    compiled.request.id = requestId := by
  obtain ⟨draft, -, rfl, -⟩ := group_ok.1 succeeds
  rfl

theorem groups_request_ids {operations : List (List Operation)} {compiled : List CompiledRequest}
    {free : Int32} (succeeds : groups context requestId overlay operations = (.ok compiled, free)) :
    compiled.length = operations.length ∧ free = idAt requestId operations.length ∧
      ∀ position entry, compiled[position]? = some entry →
        entry.request.id = idAt requestId position := by
  induction operations generalizing requestId overlay compiled with
  | nil =>
      obtain ⟨rfl, rfl⟩ := groups_nil_ok.1 succeeds
      exact ⟨rfl, (idAt_zero requestId).symm, fun _ _ found => absurd found (by simp)⟩
  | cons members later induction =>
      obtain ⟨first, between, others, head, tail, rfl⟩ := groups_cons_ok.1 succeeds
      obtain ⟨count, last, ids⟩ := induction tail
      refine ⟨congrArg Nat.succ count, last.trans (idAt_succ requestId later.length).symm, ?_⟩
      intro position entry found
      cases position with
      | zero =>
          cases found
          rw [group_request_id head, idAt_zero]
      | succ position => rw [ids position entry found, idAt_succ]

/-- How many groups are begun. Each takes an id, and none is begun after one that fails. -/
def begun (context : Context) : Int32 → Overlay → List (List Operation) → Nat
  | _, _, [] => 0
  | requestId, overlay, operations :: later =>
      match group context requestId overlay operations with
      | .error _ => 1
      | .ok (_, after) => begun context (idAfter requestId) after later + 1

theorem groups_free (operations : List (List Operation)) (requestId : Int32) (overlay : Overlay) :
    (groups context requestId overlay operations).2 =
      idAt requestId (begun context requestId overlay operations) := by
  induction operations generalizing requestId overlay with
  | nil => exact (idAt_zero requestId).symm
  | cons members later induction =>
      unfold groups begun
      rcases group context requestId overlay members with failure | ⟨compiled, after⟩
      · change idAfter requestId = idAt requestId 1
        rw [← idAfter_idAt, idAt_zero]
      · change (groups context (idAfter requestId) after later).2 = idAt requestId (_ + 1)
        rw [induction, idAt_succ]

theorem begun_of_ok {operations : List (List Operation)} {compiled : List CompiledRequest}
    {free : Int32} (succeeds : groups context requestId overlay operations = (.ok compiled, free)) :
    begun context requestId overlay operations = operations.length := by
  induction operations generalizing requestId overlay compiled with
  | nil => rfl
  | cons members later induction =>
      obtain ⟨first, between, others, head, tail, -⟩ := groups_cons_ok.1 succeeds
      unfold begun
      rw [head, List.length_cons, ← induction tail]

end Runs

end Compile

/-- The table once so many more ids were given out. -/
def RequestTable.idsUsed {κ : Type} (table : RequestTable κ) (taken : Nat) : RequestTable κ :=
  { table with nextId := Compile.idAt table.nextId taken }

namespace Engine

variable {τ : Type}

theorem compile_ok {engine after : Engine τ} {queue : List Operation}
    {compiled : List CompiledRequest} :
    engine.compile queue = (.ok compiled, after) ↔
      ∃ free, Compile.groups engine.context engine.requests.nextId .empty
          (engine.settings.policy.group queue) = (.ok compiled, free) ∧
        { engine with requests := { engine.requests with nextId := free } } = after := by
  unfold compile
  rcases Compile.groups engine.context engine.requests.nextId .empty
    (engine.settings.policy.group queue) with ⟨result, free⟩
  simp [and_assoc]

theorem compile_members {engine after : Engine τ} {queue : List Operation}
    {compiled : List CompiledRequest} (succeeds : engine.compile queue = (.ok compiled, after))
    {position : Nat} {members : List Operation} {entry : CompiledRequest}
    (grouped : (engine.settings.policy.group queue)[position]? = some members)
    (found : compiled[position]? = some entry) :
    ∃ id before final, Compile.group engine.context id before members = .ok (entry, final) := by
  obtain ⟨free, reached, -⟩ := compile_ok.1 succeeds
  obtain ⟨inside, rfl⟩ := List.getElem?_eq_some_iff.1 grouped
  obtain ⟨within, rfl⟩ := List.getElem?_eq_some_iff.1 found
  exact (Compile.groups_members reached).get inside within

def idsFor (engine : Engine τ) (queue : List Operation) : Nat :=
  Compile.begun engine.context engine.requests.nextId .empty (engine.settings.policy.group queue)

/-- Nothing but the next free id changes, whether the queue can be compiled or not. -/
theorem compile_engine (engine : Engine τ) (queue : List Operation) :
    (engine.compile queue).2 =
      { engine with
        requests := { engine.requests with
          nextId := Compile.idAt engine.requests.nextId (engine.idsFor queue) } } := by
  unfold idsFor
  rw [← Compile.groups_free]
  rfl

theorem compile_requests (engine : Engine τ) (queue : List Operation) :
    (engine.compile queue).2.requests = engine.requests.idsUsed (engine.idsFor queue) :=
  congrArg Engine.requests (engine.compile_engine queue)

theorem compile_ids {engine after : Engine τ} {queue : List Operation}
    {compiled : List CompiledRequest} (succeeds : engine.compile queue = (.ok compiled, after)) :
    compiled.length = engine.idsFor queue ∧
      ∀ position entry, compiled[position]? = some entry →
        entry.request.id = Compile.idAt engine.requests.nextId position := by
  obtain ⟨free, reached, -⟩ := compile_ok.1 succeeds
  obtain ⟨count, -, ids⟩ := Compile.groups_request_ids reached
  exact ⟨count.trans (Compile.begun_of_ok reached).symm, ids⟩

/-- The requests for a queue, none if it cannot be compiled. -/
def requestsFor (engine : Engine τ) (queue : List Operation) : List CompiledRequest :=
  match (engine.compile queue).1 with
  | .ok compiled => compiled
  | .error _ => []

theorem compile_requestsFor {engine : Engine τ} {queue : List Operation}
    (succeeds : (engine.compile queue).1.isOk) :
    engine.compile queue = (.ok (engine.requestsFor queue), (engine.compile queue).2) := by
  unfold requestsFor
  rcases found : engine.compile queue with ⟨failure | compiled, after⟩
  · rw [found] at succeeds
    exact absurd succeeds Bool.false_ne_true
  · rfl

end Engine

end InventorySync
