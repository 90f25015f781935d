import InventorySync.Proofs.Invariants
import InventorySync.Proofs.StackIds
import InventorySync.Transaction.Requests

/-!
From a slot to the role under which a request names it, and from the role in the answer
back to the slot. The way there asks the open container and the overrides; the way back
asks the windows that were noted while the request was put together. Every window that is
noted for a role is the one window that the role can stand for, so no later note takes a
role away from a slot that was named before.
-/

namespace InventorySync

set_option autoImplicit false

/-- The slot that is meant. -/
def Naming.location : Naming → Location
  | .slot location => location
  | .output => UiSlot.createdOutput

/-- The only window that a role can stand for: that of the player, or that of the open container. -/
def Role.windowWhile? (opened : Option OpenedContainer) (role : Role) : Option WindowId :=
  role.playerWindow? <|> opened.map OpenedContainer.window

theorem Role.isPlayer_of_playerWindow? {role : Role} {window : WindowId}
    (found : role.playerWindow? = some window) : Window.isPlayer window := by
  unfold playerWindow? at found
  split at found <;> first | (cases found; rfl) | cases found

theorem Role.windowWhile?_of_resolve {overrides : RoleOverrides} {opened : Option OpenedContainer}
    {location : Location} {role : Role} (spare : overrides.SparePlayer)
    (resolved : resolve overrides opened location = .ok role) :
    role.windowWhile? opened = some location.window := by
  unfold windowWhile?
  obtain ⟨-, player | ⟨foreign, container, opens, window⟩⟩ := resolve_window spare resolved
  · rw [player]
    rfl
  · rw [foreign, opens, ← window]
    rfl

namespace Mention

/-- The reference names the slot that is meant, under a role that can stand for its window. -/
def Names (context : Compile.Context) (mention : Mention) : Prop :=
  (Window.isPlayer mention.naming.location.window ∨
    ∃ container, context.opened = some container ∧
      container.window = mention.naming.location.window) ∧
  mention.reference.slot = mention.naming.location.slot ∧
  mention.reference.role.windowWhile? context.opened = some mention.naming.location.window

variable {context : Compile.Context}

theorem Fits.names {present : Location → Int32} {mention : Mention}
    (spare : context.overrides.SparePlayer) (fits : mention.Fits context present) :
    mention.Names context := by
  obtain ⟨requestId, naming, reference⟩ := mention
  cases naming with
  | slot location =>
      obtain ⟨resolved, sameSlot, -⟩ := fits
      refine ⟨?_, sameSlot, Role.windowWhile?_of_resolve spare resolved⟩
      obtain ⟨-, player | ⟨-, opened⟩⟩ := Role.resolve_window spare resolved
      · exact Or.inl (Role.isPlayer_of_playerWindow? player)
      · exact Or.inr opened
  | output =>
      change reference = _ at fits
      rw [fits]
      exact ⟨Or.inl rfl, rfl, rfl⟩

theorem names_of_chained {present : Location → Int32} {trace : List Mention} {mention : Mention}
    (spare : context.overrides.SparePlayer) (chained : Chained context present trace)
    (member : mention ∈ trace) : mention.Names context := by
  obtain ⟨before, after, rfl⟩ := List.append_of_mem member
  exact (fits_of_chained chained).names spare

theorem reference_mem {requestId : Int32} {namings : List Naming} {references : List SlotRef}
    {mention : Mention} (member : mention ∈ mentions requestId namings references) :
    mention.reference ∈ references := by
  unfold mentions at member
  rw [← List.map_uncurry_zip_eq_zipWith] at member
  obtain ⟨⟨naming, reference⟩, paired, rfl⟩ := List.mem_map.1 member
  exact (List.of_mem_zip paired).2

end Mention

theorem RoleOverrides.sparePlayer_of_forall {overrides : RoleOverrides}
    (spare : ∀ entry ∈ overrides, entry.2.playerWindow? = none) : overrides.SparePlayer :=
  fun _ _ found => spare _ (List.mem_reverse.1 (Keyed.mem_of_lookup found))

namespace Compile

variable {context : Context} {requestId : Int32}

/-- The windows that a draft notes are those of its roles, and each role that it uses has one. -/
structure Draft.NotesWindows (context : Context) (draft : Draft) : Prop where
  sound : ∀ role window, draft.windows.window? role = some window →
    role.windowWhile? context.opened = some window
  used : ∀ action ∈ draft.actions, ∀ reference ∈ action.references,
    (draft.windows.window? reference.role).isSome
  /-- The common role of hotbar and main inventory is there if one of the two is. -/
  combined : draft.windows.window? .combinedHotbarAndInventory =
    if (draft.windows.window? .hotbar).isSome ∨ (draft.windows.window? .inventory).isSome then
      some Window.inventory
    else none

namespace Draft.NotesWindows

variable {draft : Draft}

theorem isSome_note {windows : RoleWindows} {role other : Role} {window : WindowId}
    (noted : (windows.window? other).isSome ∨ other = role) :
    ((windows.note role window).window? other).isSome := by
  rw [RoleWindows.window?_note]
  split
  · rfl
  · split
    · rfl
    · next differs => exact noted.resolve_right differs

/-- A role is noted together with the window that it stands for. -/
theorem note {role : Role} {window : WindowId} (plain : role ≠ .combinedHotbarAndInventory)
    (stands : role.windowWhile? context.opened = some window)
    (notes : draft.NotesWindows context) (touched : List Location) (overlay : Overlay) :
    ({ draft with windows := draft.windows.note role window, touched, overlay } :
      Draft).NotesWindows context := by
  refine ⟨?_, ?_, ?_⟩
  · intro other found noted
    change (draft.windows.note role window).window? other = some found at noted
    rw [RoleWindows.window?_note] at noted
    split at noted
    · next shared =>
        rw [shared.1, ← noted]
        rfl
    · split at noted
      · next same => rw [same, stands, noted]
      · exact notes.sound other found noted
  · intro action member reference named
    exact isSome_note (Or.inl (notes.used action member reference named))
  · change (draft.windows.note role window).window? .combinedHotbarAndInventory =
      if ((draft.windows.note role window).window? .hotbar).isSome ∨
        ((draft.windows.note role window).window? .inventory).isSome then _ else _
    simp only [RoleWindows.window?_note, reduceCtorEq, false_and, if_false, true_and]
    -- Noting one of the two roles notes the common one as well; no other role touches it.
    by_cases shared : role = .hotbar ∨ role = .inventory
    · rw [if_pos shared]
      rcases shared with same | same
      · rw [same, if_pos rfl]
        rfl
      · rw [same, if_pos rfl]
        exact (if_pos (Or.inr rfl)).symm
    · obtain ⟨notHotbar, notInventory⟩ := not_or.1 shared
      rw [if_neg shared, if_neg plain.symm, if_neg (Ne.symm notHotbar),
        if_neg (Ne.symm notInventory)]
      exact notes.combined

theorem emit (action : StackAction) (notes : draft.NotesWindows context)
    (noted : ∀ reference ∈ action.references, (draft.windows.window? reference.role).isSome)
    (overlay : Overlay) :
    ({ draft with actions := draft.actions ++ [action], overlay } : Draft).NotesWindows
      context := by
  refine { notes with used := ?_ }
  intro other member reference named
  rcases List.mem_append.1 member with before | now
  · exact notes.used other before reference named
  · rw [List.mem_singleton.1 now] at named
    exact noted reference named

end Draft.NotesWindows

section Steps

variable {draft after : Draft} {location : Location} {reference : SlotRef}
  (spare : context.overrides.SparePlayer)

include spare in
theorem refer_notes (named : refer context requestId location draft = .ok (reference, after))
    (notes : draft.NotesWindows context) :
    after.NotesWindows context ∧ (after.windows.window? reference.role).isSome ∧
      ∀ role, (draft.windows.window? role).isSome → (after.windows.window? role).isSome := by
  obtain ⟨role, resolved, -, rfl, rfl⟩ := refer_ok.1 named
  have plain := (Role.resolve_window spare resolved).1
  have stands := Role.windowWhile?_of_resolve spare resolved
  refine ⟨notes.note plain stands _ _, ?_, ?_⟩
  · exact Draft.NotesWindows.isSome_note (Or.inr rfl)
  · intro other noted
    exact Draft.NotesWindows.isSome_note (Or.inl noted)

include spare in
/-- Two slots are named for one action. -/
theorem refer_both_notes {second : Location} {between : Draft} {other : SlotRef}
    (one : refer context requestId location draft = .ok (reference, between))
    (two : refer context requestId second between = .ok (other, after))
    (notes : draft.NotesWindows context) :
    after.NotesWindows context ∧
      ∀ named ∈ [reference, other], (after.windows.window? named.role).isSome := by
  obtain ⟨notesOne, notedOne, -⟩ := refer_notes spare one notes
  obtain ⟨notesTwo, notedTwo, kept⟩ := refer_notes spare two notesOne
  refine ⟨notesTwo, ?_⟩
  rw [List.forall_mem_cons, List.forall_mem_singleton]
  exact ⟨kept _ notedOne, notedTwo⟩

include spare in
theorem stepsKeep_notesWindows :
    StepsKeep context requestId fun draft => draft.NotesWindows context where
  move source target count := by
    intro draft answer after moved notes
    unfold move at moved
    simp only [bind_ok, emit_ok, onOverlay_ok] at moved
    obtain ⟨_, _, first, _, _, second, _, _, rfl, _, -, rfl⟩ := moved
    obtain ⟨noted, each⟩ := refer_both_notes spare first second notes
    exact noted.emit (.place count _ _) each _
  swap first second := by
    intro draft answer after swapped notes
    unfold swap at swapped
    simp only [bind_ok, emit_ok, onOverlay_ok] at swapped
    obtain ⟨_, _, left, _, _, right, _, _, rfl, _, -, rfl⟩ := swapped
    obtain ⟨noted, each⟩ := refer_both_notes spare left right notes
    exact noted.emit (.swap _ _) each _
  drop source count := by
    intro draft answer after dropped notes
    unfold drop at dropped
    simp only [bind_ok, emit_ok, onOverlay_ok, pure_ok] at dropped
    obtain ⟨_, _, named, _, _, rfl, _, _, ⟨_, -, rfl⟩, -, rfl⟩ := dropped
    obtain ⟨noted, own, -⟩ := refer_notes spare named notes
    exact noted.emit (.drop count _ _) (List.forall_mem_singleton.2 own) _
  consume location count := by
    intro draft item after consumed notes
    unfold consume at consumed
    simp only [bind_ok, emit_ok, onOverlay_ok] at consumed
    obtain ⟨_, _, named, _, _, rfl, _, -, rfl⟩ := consumed
    obtain ⟨noted, own, -⟩ := refer_notes spare named notes
    exact noted.emit (.consume count _) (List.forall_mem_singleton.2 own) _
  placeOutput item target count := by
    intro draft answer after placed notes
    unfold placeOutput at placed
    simp only [bind_ok, emit_ok, onOverlay_ok, referOutput_ok] at placed
    obtain ⟨_, _, ⟨rfl, rfl⟩, _, _, named, _, _, rfl, _, -, rfl⟩ := placed
    have output := notes.note (by decide : Role.createdOutput ≠ .combinedHotbarAndInventory)
      (rfl : Role.createdOutput.windowWhile? context.opened =
        some UiSlot.createdOutput.window) draft.touched draft.overlay
    obtain ⟨noted, own, kept⟩ := refer_notes spare named output
    have there : ((draft.windows.note .createdOutput UiSlot.createdOutput.window).window?
        .createdOutput).isSome := Draft.NotesWindows.isSome_note (Or.inr rfl)
    exact noted.emit (.place count _ _)
      (List.forall_mem_cons.2 ⟨kept _ there, List.forall_mem_singleton.2 own⟩) _
  itemOf location := by
    intro draft item after found notes
    obtain ⟨-, -, -, rfl⟩ := itemOf_ok.1 found
    exact { notes with }
  craft action plain := by
    intro draft answer after emitted notes
    rw [emit_ok] at emitted
    subst emitted
    refine notes.emit action ?_ _
    rw [plain]
    exact List.forall_mem_nil _
  declare location expectation := Keeps.modify fun _ notes => { notes with }
  rename name := Keeps.modify fun _ notes => { notes with }

end Steps

theorem group_notesWindows (spare : context.overrides.SparePlayer) {overlay final : Overlay}
    {operations : List Operation} {compiled : CompiledRequest}
    (succeeds : group context requestId overlay operations = .ok (compiled, final)) :
    ∃ draft : Draft, draft.NotesWindows context ∧ compiled.windows = draft.windows ∧
      compiled.request.actions = draft.actions := by
  obtain ⟨draft, performed, rfl, -⟩ := group_ok.1 succeeds
  have nothing : ({ overlay } : Draft).NotesWindows context := by
    refine ⟨?_, ?_, rfl⟩
    · intro role window noted
      cases noted
    · intro action member
      cases member
  exact ⟨draft, forM_keeps (stepsKeep_notesWindows spare) operations _ _ _ performed nothing,
    rfl, rfl⟩

end Compile

/-- The slot that an acknowledgement is about, if the request used its role. -/
def RoleWindows.acknowledged? (windows : RoleWindows) (roleNumber slot : UInt8) :
    Option Location :=
  ((Role.ofNumber? roleNumber).bind windows.window?).map fun window => ⟨window, slot⟩

/-- The slots that an answer acknowledges, in its order. -/
def StackResponse.acknowledged (response : StackResponse) (windows : RoleWindows) :
    List Location :=
  response.groups.flatMap fun group =>
    group.acks.filterMap fun ack => windows.acknowledged? group.roleNumber ack.slot

/-- These slots are written one after another, and nothing else is changed. -/
inductive Writes : List Location → Inventory → Inventory → Prop where
  | nil (inventory : Inventory) : Writes [] inventory inventory
  | cons {location : Location} {later : List Location} {before after : Inventory} (item : Item)
      (rest : Writes later (before.set location item) after) :
      Writes (location :: later) before after

namespace Writes

theorem append {first second : List Location} {before between after : Inventory}
    (one : Writes first before between) (two : Writes second between after) :
    Writes (first ++ second) before after := by
  induction one with
  | nil => exact two
  | cons item rest induction => exact .cons item (induction two)

variable {κ : Type} (registration : Registration κ)

theorem foldl_applyAck (window : WindowId) (inventory : Inventory) (acks : List SlotAck) :
    Writes (acks.map fun ack => ⟨window, ack.slot⟩) inventory
      (acks.foldl (registration.applyAck window) inventory) := by
  induction acks generalizing inventory with
  | nil => exact .nil inventory
  | cons ack later induction =>
      exact .cons _ (induction (registration.applyAck window inventory ack))

theorem applyGroup (inventory : Inventory) (group : RoleAcks) :
    Writes (group.acks.filterMap fun ack =>
        registration.windows.acknowledged? group.roleNumber ack.slot)
      inventory (registration.applyGroup inventory group) := by
  unfold Registration.applyGroup RoleWindows.acknowledged?
  cases (Role.ofNumber? group.roleNumber).bind registration.windows.window? with
  | none =>
      simp only [Option.map_none, List.filterMap_none]
      exact .nil inventory
  | some window =>
      simp only [Option.map_some, List.filterMap_eq_map']
      exact foldl_applyAck registration window inventory group.acks

theorem apply (inventory : Inventory) {response : StackResponse}
    (accepted : response.isAccepted) :
    Writes (response.acknowledged registration.windows) inventory
      (registration.apply inventory response) := by
  unfold Registration.apply StackResponse.acknowledged
  rw [if_pos accepted]
  generalize response.groups = groups
  induction groups generalizing inventory with
  | nil => exact .nil inventory
  | cons group later induction =>
      rw [List.flatMap_cons, List.foldl_cons]
      exact (applyGroup registration inventory group).append
        (induction (registration.applyGroup inventory group))

end Writes

namespace Compile

/-- How a request addresses the slots that its operations mean. -/
structure AddressesSlots (context : Context) (operations : List Operation)
    (compiled : CompiledRequest) : Prop where
  /-- Each reference is meant by an operation of the request, and the other way round. -/
  aligned : (operations.flatMap Operation.namings).length =
    (compiled.request.actions.flatMap StackAction.references).length
  reachable : ∀ mention ∈ requestMentions operations compiled,
    Window.isPlayer mention.naming.location.window ∨
      ∃ container, context.opened = some container ∧
        container.window = mention.naming.location.window
  addressed : ∀ mention ∈ requestMentions operations compiled,
    mention.reference.slot = mention.naming.location.slot ∧
      compiled.windows.window? mention.reference.role = some mention.naming.location.window
  /-- No two windows share a role. -/
  distinct : ∀ first ∈ requestMentions operations compiled,
    ∀ second ∈ requestMentions operations compiled,
      first.reference.role = second.reference.role →
        first.naming.location.window = second.naming.location.window
  combined : ∀ window, compiled.windows.window? .combinedHotbarAndInventory = some window ↔
    window = Window.inventory ∧ ((compiled.windows.window? .hotbar).isSome ∨
      (compiled.windows.window? .inventory).isSome)
  /-- The role and the slot of a reference lead back to the slot that is meant. -/
  acknowledged : ∀ mention ∈ requestMentions operations compiled,
    compiled.windows.acknowledged? mention.reference.role.number mention.reference.slot =
      some mention.naming.location
  /-- An accepted answer writes the slots that it acknowledges, and no others. -/
  answered : ∀ {κ : Type} (completion : κ) (table : RequestTable κ) (inventory : Inventory)
    (response : StackResponse),
    table.find? compiled.request.id =
        some ⟨compiled.windows, compiled.predictions, completion⟩ →
    response.requestId = compiled.request.id → response.isAccepted →
    Writes (response.acknowledged compiled.windows) inventory
      (RequestTable.settle [response] table inventory).inventory

variable {context : Context} {requestId : Int32} {overlay final : Overlay}
  {operations : List Operation} {compiled : CompiledRequest}

/-- Each role that a group uses has its window noted. -/
theorem group_noted (spare : context.overrides.SparePlayer)
    (succeeds : group context requestId overlay operations = .ok (compiled, final))
    {mention : Mention} (member : mention ∈ requestMentions operations compiled) :
    mention.Names context ∧ compiled.windows.window? mention.reference.role =
      some mention.naming.location.window := by
  obtain ⟨draft, notes, windows, actions⟩ := group_notesWindows spare succeeds
  have names : mention.Names context := by
    have chained := (group_traced succeeds).chained
    rw [← group_request_id succeeds] at chained
    exact Mention.names_of_chained spare chained member
  refine ⟨names, ?_⟩
  obtain ⟨action, emitted, uses⟩ := List.mem_flatMap.1 (Mention.reference_mem member)
  rw [actions] at emitted
  -- Some window is noted for the role, and the role can stand for one window only.
  obtain ⟨window, noted⟩ := Option.isSome_iff_exists.1 (notes.used action emitted _ uses)
  have stands := notes.sound _ _ noted
  rw [names.2.2] at stands
  rw [windows, noted, stands]

theorem settle_single {κ : Type} {table : RequestTable κ} {response : StackResponse}
    {registration : Registration κ} (pending : table.find? response.requestId = some registration)
    (inventory : Inventory) :
    (RequestTable.settle [response] table inventory).inventory =
      registration.apply inventory response := by
  unfold RequestTable.settle
  rw [pending]
  rfl

theorem group_addresses (spare : context.overrides.SparePlayer)
    (succeeds : group context requestId overlay operations = .ok (compiled, final)) :
    AddressesSlots context operations compiled where
  aligned := (group_traced succeeds).aligned
  reachable mention member := (group_noted spare succeeds member).1.1
  addressed mention member :=
    ⟨(group_noted spare succeeds member).1.2.1, (group_noted spare succeeds member).2⟩
  distinct first here second there shared := by
    have one := (group_noted spare succeeds here).2
    have two := (group_noted spare succeeds there).2
    rw [shared, two] at one
    exact (Option.some.inj one).symm
  combined window := by
    obtain ⟨draft, notes, windows, -⟩ := group_notesWindows spare succeeds
    rw [windows, notes.combined]
    split
    · next used =>
        rw [Option.some.injEq, and_iff_left used, eq_comm]
    · next unused =>
        refine ⟨fun none => ?_, fun both => absurd both.2 unused⟩
        cases none
  acknowledged mention member := by
    obtain ⟨names, noted⟩ := group_noted spare succeeds member
    unfold RoleWindows.acknowledged?
    rw [Role.ofNumber_number, Option.bind_some, noted, Option.map_some, names.2.1]
  answered completion table inventory response pending answers accepted := by
    rw [← answers] at pending
    rw [settle_single pending]
    exact Writes.apply ⟨compiled.windows, compiled.predictions, completion⟩ inventory accepted

theorem groups_address (spare : context.overrides.SparePlayer) {grouped : List (List Operation)}
    {requests : List CompiledRequest} {free : Int32}
    (succeeds : groups context requestId overlay grouped = (.ok requests, free)) :
    List.Forall₂ (AddressesSlots context) grouped requests := by
  refine (groups_members succeeds).imp fun members entry compiled => ?_
  obtain ⟨_, _, _, built⟩ := compiled
  exact group_addresses spare built

end Compile

namespace Engine

variable {τ : Type}

/-- As long as no container type is given a role of the player, every request that is compiled
finds the slots of its operations, and the answer to it finds them again. -/
theorem requests_address_their_slots {engine after : Engine τ} {queue : List Operation}
    {compiled : List CompiledRequest} (spare : engine.settings.overrides.SparePlayer)
    (succeeds : engine.compile queue = (.ok compiled, after)) :
    List.Forall₂ (Compile.AddressesSlots engine.context) (engine.settings.policy.group queue)
      compiled := by
  obtain ⟨free, grouped, -⟩ := compile_ok.1 succeeds
  exact Compile.groups_address spare grouped

/-- An open chest, whose slots are named as those of a barrel. -/
def unpacking : Engine Unit where
  settings := { overrides := [(0, .barrel)] }
  inventory := (Inventory.empty.set ⟨5, 3⟩ { typeId := 3, count := 2, stackId := 7 }).set ⟨0, 2⟩
    { typeId := 4, count := 1, stackId := 8 }
  containers := { state := .opened ⟨5, 0, default, -1⟩ }

def unpackingQueue : List Operation := [.move ⟨5, 3⟩ ⟨0, 20⟩ 1, .swap ⟨5, 3⟩ ⟨0, 2⟩]

theorem unpacking_addresses_its_slots :
    unpacking.settings.overrides.SparePlayer ∧
      unpacking.compile unpackingQueue =
        (.ok (unpacking.requestsFor unpackingQueue), (unpacking.compile unpackingQueue).2) ∧
      ((unpacking.requestsFor unpackingQueue).map fun entry => entry.windows.toList) =
        [[(.combinedHotbarAndInventory, 0), (.hotbar, 0), (.inventory, 0), (.barrel, 5)]] ∧
      List.Forall₂ (Compile.AddressesSlots unpacking.context)
        (unpacking.settings.policy.group unpackingQueue)
        (unpacking.requestsFor unpackingQueue) := by
  have spare : unpacking.settings.overrides.SparePlayer :=
    RoleOverrides.sparePlayer_of_forall (by decide)
  have compiles : unpacking.compile unpackingQueue =
      (.ok (unpacking.requestsFor unpackingQueue), (unpacking.compile unpackingQueue).2) :=
    compile_requestsFor (by decide +kernel)
  exact ⟨spare, compiles, by decide +kernel, requests_address_their_slots spare compiles⟩

end Engine

end InventorySync
