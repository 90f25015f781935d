import InventorySync.Proofs.FailedTransfer
import InventorySync.Proofs.SessionReports

/-!
An overlay as a snapshot. The inventory is looked at for a slot only until the overlay holds the
slot, and from then on it may change in any way. So the answers of an overlay are those that it
would give over inventories which have nothing but the slots that are taken over at the time.
What an operation takes over is said here for any action that uses slots one after the other.
-/

namespace InventorySync

set_option autoImplicit false

namespace Inventory

/-- What an overlay that does not hold a slot finds there, if it may use the slot. -/
def offer? (inventory : Inventory) (location : Location) : Option Item :=
  if inventory.knows location.window || location.window = Window.ui then
    some (inventory.itemOrEmpty location)
  else none

/-- What an overlay takes over on its way through some slots: those that it does not hold yet, up
to the first that it may not use. -/
def takenOver (inventory : Inventory) (held : Location → Bool) : List Location → List SlotChange
  | [] => []
  | location :: later =>
      if held location then inventory.takenOver held later
      else
        match inventory.offer? location with
        | none => []
        | some item =>
            ⟨location, item⟩ ::
              inventory.takenOver (fun other => other = location || held other) later

/-- An inventory in which there is nothing but these slots. -/
def ofSlots : List SlotChange → Inventory
  | [] => .empty
  | ⟨location, item⟩ :: others => (ofSlots others).set location item

variable {inventory other : Inventory} {held : Location → Bool} {location : Location}
  {slots : List Location} {taken : List SlotChange}

theorem or_held (holds : held location) :
    (fun other => decide (other = location) || held other) = held := by
  funext other
  by_cases same : other = location
  · rw [same, holds, Bool.or_true]
  · rw [decide_eq_false same, Bool.false_or]

theorem takenOver_held (holds : held location) :
    inventory.takenOver held (location :: slots) = inventory.takenOver held slots :=
  if_pos holds

theorem takenOver_none (free : ¬held location) (missing : inventory.offer? location = none) :
    inventory.takenOver held (location :: slots) = [] := by
  rw [takenOver, if_neg free, missing]

theorem takenOver_some {item : Item} (free : ¬held location)
    (offered : inventory.offer? location = some item) :
    inventory.takenOver held (location :: slots) =
      ⟨location, item⟩ ::
        inventory.takenOver (fun other => other = location || held other) slots := by
  rw [takenOver, if_neg free, offered]

/-- To come back to slots that are held by then takes over nothing. -/
theorem takenOver_again {again : List Location}
    (back : ∀ location ∈ again, held location ∨ location ∈ slots) :
    inventory.takenOver held (slots ++ again) = inventory.takenOver held slots := by
  fun_induction takenOver inventory held slots with
  | case1 held =>
      induction again with
      | nil => rfl
      | cons location later induction =>
          obtain ⟨first, others⟩ := List.forall_mem_cons.1 back
          have holds := first.resolve_right List.not_mem_nil
          exact (takenOver_held holds).trans (induction others)
  | case2 held location later holds induction =>
      rw [List.cons_append, takenOver_held holds]
      apply induction
      intro other member
      rcases back other member with already | here
      · exact .inl already
      · exact (List.mem_cons.1 here).imp_left fun same => by rw [same, holds]
  | case3 held location later free missing =>
      exact takenOver_none free missing
  | case4 held location later free item offered induction =>
      rw [List.cons_append, takenOver_some free offered, induction]
      intro other member
      rw [Bool.or_eq_true, decide_eq_true_eq]
      rcases back other member with already | here
      · exact .inl (.inr already)
      · exact (List.mem_cons.1 here).imp_left .inl

theorem offer?_of_mem_takenOver {slot : SlotChange}
    (member : slot ∈ inventory.takenOver held slots) :
    slot.location ∈ slots ∧ inventory.offer? slot.location = some slot.item := by
  fun_induction takenOver inventory held slots with
  | case1 held => cases member
  | case2 held location later holds induction =>
      exact (induction member).imp_left (List.mem_cons_of_mem _)
  | case3 held location later free missing => cases member
  | case4 held location later free item offered induction =>
      rcases List.mem_cons.1 member with rfl | rest
      · exact ⟨List.mem_cons_self, offered⟩
      · exact (induction rest).imp_left (List.mem_cons_of_mem _)

/-- Only slots that are not held are taken over, and none of them twice. -/
theorem takenOver_fresh (inventory : Inventory) (held : Location → Bool) (slots : List Location) :
    ((inventory.takenOver held slots).map SlotChange.location).Nodup ∧
      ∀ slot ∈ inventory.takenOver held slots, held slot.location = false := by
  fun_induction takenOver inventory held slots with
  | case1 held => exact ⟨List.nodup_nil, fun _ member => absurd member List.not_mem_nil⟩
  | case2 held location later holds induction => exact induction
  | case3 held location later free missing =>
      exact ⟨List.nodup_nil, fun _ member => absurd member List.not_mem_nil⟩
  | case4 held location later free item offered induction =>
      obtain ⟨once, apart⟩ := induction
      simp only [Bool.or_eq_false_iff, decide_eq_false_iff_not] at apart
      constructor
      · rw [List.map_cons, List.nodup_cons]
        refine ⟨?_, once⟩
        intro member
        obtain ⟨slot, present, same⟩ := List.mem_map.1 member
        exact (apart slot present).1 same
      · rw [List.forall_mem_cons]
        exact ⟨Bool.eq_false_iff.2 free, fun slot present => (apart slot present).2⟩

section Replay

theorem item?_ofSlots (offered : ∀ slot ∈ taken, inventory.offer? slot.location = some slot.item)
    {slot : SlotChange} (member : slot ∈ taken) :
    (ofSlots taken).item? slot.location = some slot.item := by
  induction taken with
  | nil => cases member
  | cons first others induction =>
      obtain ⟨head, tail⟩ := List.forall_mem_cons.1 offered
      rw [ofSlots, item?_set]
      split
      · next same => rw [← offered slot member, same, head]
      · next differs =>
          rcases List.mem_cons.1 member with rfl | later
          · exact absurd rfl differs
          · exact induction tail later

theorem knows_ofSlots (taken : List SlotChange) (window : WindowId) :
    (ofSlots taken).knows window ↔ ∃ slot ∈ taken, slot.location.window = window := by
  induction taken with
  | nil => simp [ofSlots, knows, empty]
  | cons first others induction =>
      rw [ofSlots, knows_set, Bool.or_eq_true, induction]
      simp [eq_comm]

/-- An inventory that has just the slots that were taken over offers these, and refuses what was
refused. -/
theorem offer?_ofSlots (offered : ∀ slot ∈ taken, inventory.offer? slot.location = some slot.item)
    (decided : location ∈ taken.map SlotChange.location ∨ inventory.offer? location = none) :
    (ofSlots taken).offer? location = inventory.offer? location := by
  rcases decided with member | missing
  · obtain ⟨slot, present, rfl⟩ := List.mem_map.1 member
    have known := (knows_ofSlots taken slot.location.window).2 ⟨slot, present, rfl⟩
    unfold offer? itemOrEmpty
    rw [known, item?_ofSlots offered present]
    exact (offered slot present).symm
  · have unknown : ¬((inventory.knows location.window || location.window = Window.ui) = true) := by
      intro usable
      rw [offer?, if_pos usable] at missing
      cases missing
    rw [missing]
    refine if_neg fun usable => ?_
    rcases Bool.or_eq_true_iff.1 usable with known | ui
    · -- A slot of the same window was taken over, so that the window was known to begin with.
      obtain ⟨slot, present, same⟩ := (knows_ofSlots taken location.window).1 known
      have seen := offered slot present
      unfold offer? at seen
      rw [same, if_neg unknown] at seen
      cases seen
    · exact unknown (by rw [ui, Bool.or_true])

theorem takenOver_congr
    (agree : ∀ location, location ∈ (inventory.takenOver held slots).map SlotChange.location ∨
      inventory.offer? location = none → other.offer? location = inventory.offer? location) :
    other.takenOver held slots = inventory.takenOver held slots := by
  fun_induction takenOver inventory held slots with
  | case1 held => rfl
  | case2 held location later holds induction =>
      rw [takenOver_held holds]
      exact induction agree
  | case3 held location later free missing =>
      have same := (agree location (.inr missing)).trans missing
      exact takenOver_none free same
  | case4 held location later free item offered induction =>
      have same := (agree location (.inl List.mem_cons_self)).trans offered
      rw [takenOver_some free same, induction]
      exact fun third decided => agree third (decided.imp_left (List.mem_cons_of_mem _))

/-- All that matters of an inventory to an overlay is what is taken over from it. -/
theorem takenOver_ofSlots (inventory : Inventory) (held : Location → Bool)
    (slots : List Location) :
    (ofSlots (inventory.takenOver held slots)).takenOver held slots =
      inventory.takenOver held slots :=
  takenOver_congr fun _ decided =>
    offer?_ofSlots (fun _ member => (offer?_of_mem_takenOver member).2) decided

end Replay

/-- Inventories from which the same is taken over agree on the first slot, and on the later ones
if the first may be used. -/
theorem of_takenOver_cons
    (same : inventory.takenOver held (location :: slots) =
      other.takenOver held (location :: slots)) :
    (held location ∨ inventory.offer? location = other.offer? location) ∧
      (held location ∨ (inventory.offer? location).isSome →
        inventory.takenOver (fun third => third = location || held third) slots =
          other.takenOver (fun third => third = location || held third) slots) := by
  by_cases holds : held location
  · rw [takenOver_held holds, takenOver_held holds] at same
    rw [or_held holds]
    exact ⟨.inl holds, fun _ => same⟩
  · cases mine : inventory.offer? location with
    | none =>
        cases theirs : other.offer? location with
        | none => exact ⟨.inr rfl, fun usable => by simp [holds] at usable⟩
        | some item =>
            rw [takenOver_none holds mine, takenOver_some holds theirs] at same
            cases same
    | some item =>
        cases theirs : other.offer? location with
        | none =>
            rw [takenOver_some holds mine, takenOver_none holds theirs] at same
            cases same
        | some otherItem =>
            rw [takenOver_some holds mine, takenOver_some holds theirs] at same
            obtain ⟨first, rest⟩ := List.cons.inj same
            cases first
            exact ⟨.inr rfl, fun _ => rest⟩

end Inventory

namespace Overlay

/-- Which slots are held once these were taken over. -/
def holding (held : Location → Bool) (taken : List SlotChange) : Location → Bool := fun location =>
  held location || location ∈ taken.map SlotChange.location

theorem holding_nil (held : Location → Bool) : holding held [] = held := by
  funext location
  simp [holding]

theorem holding_cons (held : Location → Bool) (location : Location) (item : Item)
    (others : List SlotChange) :
    holding held (⟨location, item⟩ :: others) =
      holding (fun other => other = location || held other) others := by
  funext other
  simp only [holding, List.map_cons, List.mem_cons, Bool.decide_or]
  rw [Bool.or_left_comm, ← Bool.or_assoc]

theorem holding_takenOver {inventory : Inventory} {held : Location → Bool} {location : Location}
    {later : List Location} (usable : held location ∨ (inventory.offer? location).isSome) :
    holding held (inventory.takenOver held (location :: later)) =
      holding (fun other => decide (other = location) || held other)
        (inventory.takenOver (fun other => decide (other = location) || held other) later) := by
  by_cases holds : held location
  · rw [Inventory.takenOver_held holds, Inventory.or_held holds]
  · obtain ⟨item, offered⟩ := Option.isSome_iff_exists.1 (usable.resolve_left holds)
    rw [Inventory.takenOver_some holds offered, holding_cons]

theorem find_offer (overlay : Overlay) (inventory : Inventory) (location : Location) :
    overlay.find inventory location =
      match overlay.slot? location, inventory.offer? location with
      | some slot, _ => .ok slot
      | none, some item => .ok ⟨item, item.stackId⟩
      | none, none => .error (.missingSlot location) := by
  unfold find Inventory.offer?
  cases overlay.slot? location with
  | some slot => rfl
  | none =>
      simp only
      split <;> rfl

section Uses

variable {α β : Type} {inventory other : Inventory} {overlay : Overlay} {location : Location}

/-- What is done to a slot that is held does not depend on the inventory, and to another slot only
on what the inventory offers there. -/
theorem use_congr (change : PredictedSlot → α × PredictedSlot)
    (same : overlay.holds location ∨ inventory.offer? location = other.offer? location) :
    use inventory location change overlay = use other location change overlay := by
  unfold use
  rw [find_offer, find_offer]
  rcases same with held | offered
  · obtain ⟨slot, found⟩ := Option.isSome_iff_exists.1 held
    rw [found]
  · rw [offered]

/-- What comes of the use of a slot. -/
inductive Uses (inventory : Inventory) (overlay : Overlay) (location : Location) :
    Except SyncError α × Overlay → Prop where
  | used (answer : α) (slot : PredictedSlot)
      (usable : overlay.holds location ∨ (inventory.offer? location).isSome) :
      Uses inventory overlay location (.ok answer, overlay.setSlot location slot)
  | missing (failure : SyncError) (free : ¬overlay.holds location)
      (missing : inventory.offer? location = none) :
      Uses inventory overlay location (.error failure, overlay)

theorem use_uses (inventory : Inventory) (overlay : Overlay) (location : Location)
    (change : PredictedSlot → α × PredictedSlot) :
    Uses inventory overlay location (use inventory location change overlay) := by
  unfold use
  rw [find_offer]
  cases found : overlay.slot? location with
  | some slot => exact .used _ _ (.inl (Option.isSome_iff_exists.2 ⟨slot, found⟩))
  | none =>
      cases offered : inventory.offer? location with
      | some item => exact .used _ _ (.inr (Option.isSome_iff_exists.2 ⟨item, offered⟩))
      | none =>
          refine .missing _ ?_ offered
          unfold holds
          rw [found]
          exact Bool.false_ne_true

theorem holds_used (slot : PredictedSlot) :
    (overlay.setSlot location slot).holds =
      fun other => decide (other = location) || overlay.holds other := by
  funext other
  exact holds_setSlot overlay location other slot

/-- An action that uses these slots one after the other, up to the first that it may not use. -/
structure Walks (slots : List Location) (action : Inventory → Action α) : Prop where
  /-- It depends on no more of the inventory than what it takes over. -/
  congr : ∀ inventory other overlay,
    inventory.takenOver overlay.holds slots = other.takenOver overlay.holds slots →
      action inventory overlay = action other overlay
  holds : ∀ inventory overlay,
    (action inventory overlay).2.holds =
      holding overlay.holds (inventory.takenOver overlay.holds slots)

theorem walks_pure (answer : α) : Walks [] fun _ => (pure answer : Action α) :=
  ⟨fun _ _ _ _ => rfl, fun _ overlay => (holding_nil overlay.holds).symm⟩

/-- A walk goes on after the use of a slot. -/
theorem Walks.cons {later : List Location} {next : Inventory → α → Action β}
    (change : PredictedSlot → α × PredictedSlot)
    (rest : ∀ answer, Walks later fun inventory => next inventory answer) :
    Walks (location :: later) fun inventory =>
      use inventory location change >>= next inventory := by
  constructor
  case congr =>
    intro inventory other overlay same
    obtain ⟨first, others⟩ := Inventory.of_takenOver_cons same
    rw [bind_eq, bind_eq, ← use_congr change first]
    have uses := use_uses inventory overlay location change
    generalize use inventory location change overlay = result at uses
    cases uses with
    | used answer slot usable =>
        refine (rest answer).congr inventory other _ ?_
        rw [holds_used]
        exact others usable
    | missing _ _ _ => rfl
  case holds =>
    intro inventory overlay
    rw [bind_eq]
    have uses := use_uses inventory overlay location change
    generalize use inventory location change overlay = result at uses
    cases uses with
    | used answer slot usable =>
        rw [holding_takenOver usable, ← holds_used slot]
        exact (rest answer).holds inventory _
    | missing _ free missing =>
        rw [Inventory.takenOver_none free missing, holding_nil]

/-- Slots that are held by the time when a walk comes back to them do not count. -/
theorem Walks.of_slots {slots others : List Location} {action : Inventory → Action α}
    (walks : Walks others action)
    (same : ∀ (inventory : Inventory) held,
      inventory.takenOver held others = inventory.takenOver held slots) :
    Walks slots action := by
  constructor
  case congr =>
    intro inventory other overlay agree
    refine walks.congr inventory other overlay ?_
    rw [same, same, agree]
  case holds =>
    intro inventory overlay
    rw [walks.holds, same]

end Uses

end Overlay

namespace OverlayOperation

/-- Every operation walks along its slots. -/
theorem walks (operation : OverlayOperation) :
    Overlay.Walks operation.slots fun inventory => operation.act inventory := by
  cases operation with
  | load _ | reserve _ _ | item _ | take _ _ | place _ _ =>
      exact .cons _ fun _ => Overlay.walks_pure _
  | transfer source target count =>
      simp only [act, Overlay.transfer, bind_assoc]
      exact .cons _ fun _ => .cons _ fun _ => Overlay.walks_pure _
  | swap first second =>
      simp only [act, Overlay.swap, bind_assoc]
      refine Overlay.Walks.of_slots (.cons _ fun _ => .cons _ fun _ => .cons _ fun _ =>
        .cons _ fun _ => Overlay.walks_pure _) fun _ _ =>
          @Inventory.takenOver_again _ _ _ [first, second] fun _ member => .inr member

/-- An operation does the same over an inventory that has just what it takes over. -/
theorem act_ofSlots (operation : OverlayOperation) (inventory : Inventory) (overlay : Overlay) :
    operation.act inventory overlay =
      operation.act (.ofSlots (inventory.takenOver overlay.holds operation.slots)) overlay :=
  operation.walks.congr _ _ _ (inventory.takenOver_ofSlots overlay.holds operation.slots).symm

/-- The reply that an operation comes to. -/
def replyOf : Except SyncError SessionReply → SessionReply
  | .ok reply => reply
  | .error failure => .failed failure

/-- The replies to operations on one overlay, each over the inventory of its time. -/
def replies (overlay : Overlay) : List (OverlayOperation × Inventory) → List SessionReply
  | [] => []
  | (operation, inventory) :: later =>
      let result := operation.act inventory overlay
      replyOf result.1 :: replies result.2 later

/-- What each operation takes over, if these slots are held before the first. -/
def captures (held : Location → Bool) :
    List (OverlayOperation × Inventory) → List (OverlayOperation × List SlotChange)
  | [] => []
  | (operation, inventory) :: later =>
      let taken := inventory.takenOver held operation.slots
      (operation, taken) :: captures (Overlay.holding held taken) later

/-- Operations over inventories that have just what is taken over at the time. -/
def confined (captured : List (OverlayOperation × List SlotChange)) :
    List (OverlayOperation × Inventory) :=
  captured.map fun entry => (entry.1, .ofSlots entry.2)

section Runs

variable {run : List (OverlayOperation × Inventory)}

/-- The inventory matters to a run only where a slot is taken over. -/
theorem replies_confined (overlay : Overlay) (run : List (OverlayOperation × Inventory)) :
    replies overlay run = replies overlay (confined (captures overlay.holds run)) := by
  induction run generalizing overlay with
  | nil => rfl
  | cons entry later induction =>
      obtain ⟨operation, inventory⟩ := entry
      let taken := inventory.takenOver overlay.holds operation.slots
      let rest := confined (captures (Overlay.holding overlay.holds taken) later)
      -- What is held after the operation is what the captures say.
      have onwards : replies (operation.act inventory overlay).2 later =
          replies (operation.act inventory overlay).2 rest := by
        rw [induction, operation.walks.holds]
      calc replies overlay ((operation, inventory) :: later)
        _ = replyOf (operation.act inventory overlay).1 ::
              replies (operation.act inventory overlay).2 later := rfl
        _ = replyOf (operation.act inventory overlay).1 ::
              replies (operation.act inventory overlay).2 rest := by rw [onwards]
        _ = replyOf (operation.act (.ofSlots taken) overlay).1 ::
              replies (operation.act (.ofSlots taken) overlay).2 rest := by rw [← act_ofSlots]

/-- What is captured is what the inventory of the time offers at a slot that is needed. -/
theorem captures_offered (held : Location → Bool) (run : List (OverlayOperation × Inventory)) :
    List.Forall₂ (fun captured entry => captured.1 = entry.1 ∧ ∀ slot ∈ captured.2,
        slot.location ∈ entry.1.slots ∧ entry.2.offer? slot.location = some slot.item)
      (captures held run) run := by
  induction run generalizing held with
  | nil => exact .nil
  | cons entry later induction =>
      exact .cons ⟨rfl, fun _ member => Inventory.offer?_of_mem_takenOver member⟩ (induction _)

def capturedSlots (captured : List (OverlayOperation × List SlotChange)) : List Location :=
  captured.flatMap fun entry => entry.2.map SlotChange.location

/-- No slot is captured twice, and none that was held before. -/
theorem captures_once (held : Location → Bool) (run : List (OverlayOperation × Inventory)) :
    (capturedSlots (captures held run)).Nodup ∧
      ∀ location ∈ capturedSlots (captures held run), held location = false := by
  induction run generalizing held with
  | nil => exact ⟨List.nodup_nil, fun _ member => absurd member List.not_mem_nil⟩
  | cons entry later induction =>
      obtain ⟨operation, inventory⟩ := entry
      obtain ⟨fresh, free⟩ := inventory.takenOver_fresh held operation.slots
      obtain ⟨once, apart⟩ := induction
        (Overlay.holding held (inventory.takenOver held operation.slots))
      simp only [Overlay.holding, Bool.or_eq_false_iff, decide_eq_false_iff_not] at apart
      unfold capturedSlots captures
      rw [List.flatMap_cons]
      constructor
      · refine List.nodup_append.2 ⟨fresh, once, ?_⟩
        rintro location early _ late rfl
        exact (apart location late).2 early
      · intro location member
        rcases List.mem_append.1 member with early | late
        · obtain ⟨slot, present, rfl⟩ := List.mem_map.1 early
          exact free slot present
        · exact (apart location late).1

end Runs

end OverlayOperation

/-- What a step of a session does to its overlay. -/
def SessionStep.overlayOperation? {α : Type} : SessionStep α → Option OverlayOperation
  | .overlayLoad location => some (.load location)
  | .overlayReserve location requestId => some (.reserve location requestId)
  | .overlayItem location => some (.item location)
  | .overlayTake location count => some (.take location count)
  | .overlayPlace location added => some (.place location added)
  | .overlaySwap first second => some (.swap first second)
  | .overlayTransfer source target count => some (.transfer source target count)
  | _ => none

namespace Session

variable {α : Type} {session : Session α} {action : SessionStep α}
  {steps : List (SessionStep α)}

/-- What is done to the overlay in some steps, each time with the inventory of the time. -/
def encounters (session : Session α) :
    List (SessionStep α) → List (OverlayOperation × Inventory)
  | [] => []
  | action :: later =>
      let others := (session.step action).1.encounters later
      match action.overlayOperation? with
      | some operation => (operation, session.engine.inventory) :: others
      | none => others

/-- The replies to what is done to the overlay. -/
def overlayReplies (session : Session α) (steps : List (SessionStep α)) : List SessionReply :=
  (steps.zip (session.run steps)).filterMap fun entry =>
    entry.1.overlayOperation?.map fun _ => entry.2.reply

/-- What is taken over from the inventory in some steps, operation by operation. -/
def captures (session : Session α) (steps : List (SessionStep α)) :
    List (OverlayOperation × List SlotChange) :=
  OverlayOperation.captures session.overlay.holds (session.encounters steps)

theorem onOverlay_eq {β : Type} (session : Session α) (action : Overlay.Action β)
    (reply : β → SessionReply) :
    session.onOverlay action reply =
      .answer { session with overlay := ((do return reply (← action)) session.overlay).2 }
        (OverlayOperation.replyOf ((do return reply (← action)) session.overlay).1) := by
  unfold onOverlay
  rw [Overlay.bind_eq]
  rcases action session.overlay with ⟨failure | result, overlay⟩
  · rfl
  · rfl

theorem perform_overlay {operation : OverlayOperation}
    (acts : action.overlayOperation? = some operation) :
    session.perform action =
      .answer
        { session with
          overlay := (operation.act session.engine.inventory session.overlay).2 }
        (OverlayOperation.replyOf
          (operation.act session.engine.inventory session.overlay).1) := by
  cases action with
  | overlayLoad _ | overlayReserve _ _ | overlayItem _ | overlayTake _ _ | overlayPlace _ _
  | overlaySwap _ _ | overlayTransfer _ _ _ =>
      cases acts
      exact onOverlay_eq session _ _
  | _ => cases acts

/-- No other step reaches the overlay, except to begin a new one. -/
theorem perform_elsewhere (elsewhere : action.overlayOperation? = none)
    (kept : action ≠ .newOverlay) :
    (session.perform action).session.overlay = session.overlay := by
  cases action with
  | overlayLoad _ | overlayReserve _ _ | overlayItem _ | overlayTake _ _ | overlayPlace _ _
  | overlaySwap _ _ | overlayTransfer _ _ _ => cases elsewhere
  | newOverlay => exact absurd rfl kept
  | enqueue _ _ | discard _ | showQueue _ | compile _ | commit _ =>
      exact onTransaction_cases (P := fun progress => progress.session.overlay = session.overlay)
        rfl fun _ => rfl
  | _ => rfl

theorem step_overlay (session : Session α) (action : SessionStep α) :
    (session.step action).1.overlay = (session.perform action).session.overlay := by
  unfold step report
  rw [foldl_absorb]

/-- The replies of a session's overlay are those of an overlay that meets the inventories. -/
theorem overlayReplies_eq (kept : .newOverlay ∉ steps) :
    session.overlayReplies steps =
      OverlayOperation.replies session.overlay (session.encounters steps) := by
  induction steps generalizing session with
  | nil => rfl
  | cons action later induction =>
      obtain ⟨first, others⟩ := not_or.1 (mt List.mem_cons.2 kept)
      have rest := @induction (session.step action).1 others
      rw [step_overlay] at rest
      unfold overlayReplies run encounters
      cases acts : action.overlayOperation? with
      | some operation =>
          rw [List.zip_cons_cons, List.filterMap_cons_some (by rw [acts]; rfl)]
          rw [perform_overlay acts] at rest
          exact congrArg₂ List.cons (congrArg Progress.reply (perform_overlay acts)) rest
      | none =>
          rw [List.zip_cons_cons, List.filterMap_cons_none (by rw [acts]; rfl)]
          rw [perform_elsewhere acts (Ne.symm first)] at rest
          exact rest

/-- The overlay of a session as a snapshot of the inventory, which is taken slot by slot. -/
structure Snapshot (session : Session α) (steps : List (SessionStep α)) : Prop where
  /-- Nothing that is done to the overlay reaches the inventory. -/
  apart : ∀ earlier action later, steps = earlier ++ action :: later →
    action.overlayOperation?.isSome →
      (session.after (earlier ++ [action])).engine = (session.after earlier).engine
  /-- What is captured is what the inventory of the time has for a slot that is needed. -/
  captured : List.Forall₂ (fun captured entry => captured.1 = entry.1 ∧ ∀ slot ∈ captured.2,
      slot.location ∈ entry.1.slots ∧ entry.2.offer? slot.location = some slot.item)
    (session.captures steps) (session.encounters steps)
  once : (OverlayOperation.capturedSlots (session.captures steps)).Nodup ∧
    ∀ location ∈ OverlayOperation.capturedSlots (session.captures steps),
      session.overlay.holds location = false
  /-- Nothing else of the inventory shows in the replies. -/
  replies : session.overlayReplies steps =
    OverlayOperation.replies session.overlay
      (OverlayOperation.confined (session.captures steps))
  /-- Sessions that capture the same get the same replies, whatever else happens in them. -/
  alike : ∀ {β : Type} (other : Session β) (otherSteps : List (SessionStep β)),
    .newOverlay ∉ otherSteps → other.overlay = session.overlay →
      other.captures otherSteps = session.captures steps →
        other.overlayReplies otherSteps = session.overlayReplies steps

/-- An overlay does not show what becomes of the inventory after it took a slot over. -/
theorem overlay_is_a_snapshot (kept : .newOverlay ∉ steps) : session.Snapshot steps := by
  have confines {β : Type} {other : Session β} {others : List (SessionStep β)}
      (kept : .newOverlay ∉ others) :
      other.overlayReplies others = OverlayOperation.replies other.overlay
        (OverlayOperation.confined (other.captures others)) :=
    (overlayReplies_eq kept).trans (OverlayOperation.replies_confined _ _)
  constructor
  case apart =>
    rintro earlier action later - acts
    obtain ⟨operation, acts⟩ := Option.isSome_iff_exists.1 acts
    unfold after
    rw [List.foldl_append, List.foldl_cons, List.foldl_nil, step_engine, perform_overlay acts]
    rfl
  case captured => exact OverlayOperation.captures_offered _ _
  case once => exact OverlayOperation.captures_once _ _
  case replies => exact confines kept
  case alike =>
    intro β other otherSteps otherKept sameOverlay sameCaptures
    rw [confines kept, confines otherKept, sameOverlay, sameCaptures]

/-- Nothing is known yet. -/
def blank : Session Nat := { engine := {} }

/-- Ten items go from a chest into the first slot, in an overlay only. -/
def swappedOut : List (SessionStep Nat) :=
  [.setSlot ⟨7, 0⟩ (some { typeId := 5, count := 10, stackId := 11 }), .setSlot ⟨0, 0⟩ none,
    .overlaySwap ⟨7, 0⟩ ⟨0, 0⟩]

/-- Then the chest is closed, and something else is put into the slot. -/
def disturbed : List (SessionStep Nat) :=
  swappedOut ++ [.forgetWindow 7, .setSlot ⟨0, 0⟩ (some { typeId := 6, count := 1 }),
    .overlayItem ⟨0, 0⟩, .overlayLoad ⟨7, 0⟩]

def undisturbed : List (SessionStep Nat) :=
  swappedOut ++ [.overlayItem ⟨0, 0⟩, .overlayLoad ⟨7, 0⟩]

theorem swapped_items_outlast_their_chest :
    .newOverlay ∉ disturbed ∧ blank.Snapshot disturbed ∧
      blank.overlayReplies undisturbed = blank.overlayReplies disturbed ∧
      blank.overlayReplies disturbed =
        [.done, .item { typeId := 5, count := 10, stackId := 11 }, .requestId 11] := by
  have kept : .newOverlay ∉ disturbed := by
    simp [disturbed, swappedOut]
  have keptToo : .newOverlay ∉ undisturbed := by
    simp [undisturbed, swappedOut]
  have snapshot : blank.Snapshot disturbed := overlay_is_a_snapshot kept
  exact ⟨kept, snapshot, snapshot.alike blank undisturbed keptToo rfl rfl, rfl⟩

end Session

end InventorySync
