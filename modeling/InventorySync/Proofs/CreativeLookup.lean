import InventorySync.Proofs.ForgottenWindows
import InventorySync.Proofs.SessionReports

/-!
Looking up the creative list in both directions. The list is as good as two tables that are filled
in one pass over it, in one of which the last entry counts and in the other the first. As long as
no number stands twice in it, the two fit together: the entry that is found for an item type gives
this type. A list stays what it is until another is installed, and then nothing is left of it.
-/

namespace InventorySync

set_option autoImplicit false

namespace CreativeIndex

variable {index : CreativeIndex} {number : UInt32} {kind : Int32}

theorem itemType?_cons (entry : CreativeEntry) (later : CreativeIndex) (number : UInt32) :
    itemType? (entry :: later) number =
      (itemType? later number).or
        (if entry.networkId = number then some entry.itemType else none) := by
  unfold itemType?
  rw [List.reverse_cons, List.find?_append, Option.map_or]
  by_cases own : entry.networkId = number <;> simp [own]

theorem networkId?_cons (entry : CreativeEntry) (later : CreativeIndex) (kind : Int32) :
    networkId? (entry :: later) kind =
      if entry.itemType = kind then some entry.networkId else networkId? later kind := by
  unfold networkId?
  by_cases own : entry.itemType = kind <;> simp [own]

theorem itemType?_eq_none_iff :
    index.itemType? number = none ↔ ∀ entry ∈ index, entry.networkId ≠ number := by
  simp [itemType?]

theorem networkId?_eq_none_iff :
    index.networkId? kind = none ↔ ∀ entry ∈ index, entry.itemType ≠ kind := by
  simp [networkId?]

/-- If no number stands twice in the list, each entry is found by its number. -/
theorem itemType?_eq_some_iff (distinct : (index.map CreativeEntry.networkId).Nodup) :
    index.itemType? number = some kind ↔ ⟨number, kind⟩ ∈ index := by
  induction index with
  | nil => simp [itemType?]
  | cons entry later induction =>
      obtain ⟨own, type⟩ := entry
      rw [List.map_cons, List.nodup_cons] at distinct
      obtain ⟨alone, others⟩ := distinct
      have absent : itemType? later own = none := by
        apply itemType?_eq_none_iff.2
        rintro entry member rfl
        exact alone (List.mem_map.2 ⟨entry, member, rfl⟩)
      rw [itemType?_cons, Option.or_eq_some_iff, induction others]
      by_cases same : own = number
      · subst same
        simp [absent, eq_comm, or_comm]
      · simp [same, Ne.symm same]

/-- The first entry of a type is the one that is found. -/
theorem networkId?_eq_some_iff :
    index.networkId? kind = some number ↔
      ∃ before later, index = before ++ ⟨number, kind⟩ :: later ∧
        ∀ entry ∈ before, entry.itemType ≠ kind := by
  unfold networkId?
  rw [Option.map_eq_some_iff]
  simp only [List.find?_eq_some_iff_append]
  constructor
  · rintro ⟨⟨own, type⟩, ⟨same, before, later, split, others⟩, rfl⟩
    refine ⟨before, later, ?_, ?_⟩
    · simpa [split] using same
    · simpa using others
  · rintro ⟨before, later, split, others⟩
    refine ⟨⟨number, kind⟩, ⟨?_, before, later, split, ?_⟩, rfl⟩
    · simp
    · simpa using others

/-- What is found for a type is an entry that gives it. -/
theorem itemType?_of_networkId? (distinct : (index.map CreativeEntry.networkId).Nodup)
    (found : index.networkId? kind = some number) : index.itemType? number = some kind := by
  obtain ⟨before, later, split, -⟩ := networkId?_eq_some_iff.1 found
  apply (itemType?_eq_some_iff distinct).2
  simp [split]

end CreativeIndex

/-- The creative list as two tables. -/
structure CreativeTables where
  byNumber : Std.HashMap UInt32 Int32
  byType : Std.HashMap Int32 UInt32

namespace CreativeTables

/-- A number stands for its last entry, an item type for its first. -/
def record (tables : CreativeTables) (entry : CreativeEntry) : CreativeTables where
  byNumber := tables.byNumber.insert entry.networkId entry.itemType
  byType := tables.byType.insertIfNew entry.itemType entry.networkId

def clear (tables : CreativeTables) : CreativeTables where
  byNumber := tables.byNumber.filter fun _ _ => false
  byType := tables.byType.filter fun _ _ => false

/-- Fills the tables with a list, in place of whatever was in them. -/
def install (tables : CreativeTables) (index : CreativeIndex) : CreativeTables :=
  index.foldl record tables.clear

theorem byNumber_record (tables : CreativeTables) (entry : CreativeEntry) (number : UInt32) :
    (tables.record entry).byNumber[number]? =
      (if entry.networkId = number then some entry.itemType else none).or
        tables.byNumber[number]? := by
  by_cases own : entry.networkId = number <;> simp [record, Std.HashMap.getElem?_insert, own]

theorem byType_record (tables : CreativeTables) (entry : CreativeEntry) (kind : Int32) :
    (tables.record entry).byType[kind]? =
      tables.byType[kind]?.or
        (if entry.itemType = kind then some entry.networkId else none) := by
  unfold record
  rw [Std.HashMap.getElem?_insertIfNew]
  by_cases own : entry.itemType = kind
  · subst own
    by_cases present : entry.itemType ∈ tables.byType <;> simp [present]
  · simp [own]

/-- What is found by number after a pass is what the list says, else what was there before. -/
theorem byNumber_foldl (tables : CreativeTables) (index : CreativeIndex) (number : UInt32) :
    (index.foldl record tables).byNumber[number]? =
      (index.itemType? number).or tables.byNumber[number]? := by
  induction index generalizing tables with
  | nil => simp [CreativeIndex.itemType?]
  | cons entry later induction =>
      rw [List.foldl_cons, induction, byNumber_record, CreativeIndex.itemType?_cons,
        Option.or_assoc]

/-- What is found by type is what was there before, else what the list says. -/
theorem byType_foldl (tables : CreativeTables) (index : CreativeIndex) (kind : Int32) :
    (index.foldl record tables).byType[kind]? =
      tables.byType[kind]?.or (index.networkId? kind) := by
  induction index generalizing tables with
  | nil => simp [CreativeIndex.networkId?]
  | cons entry later induction =>
      rw [List.foldl_cons, induction, byType_record, CreativeIndex.networkId?_cons,
        Option.or_assoc]
      by_cases own : entry.itemType = kind <;> simp [own]

/-- Nothing is left of what was in the tables. -/
theorem byNumber_install (tables : CreativeTables) (index : CreativeIndex) (number : UInt32) :
    (tables.install index).byNumber[number]? = index.itemType? number := by
  unfold install
  rw [byNumber_foldl]
  simp [clear]

theorem byType_install (tables : CreativeTables) (index : CreativeIndex) (kind : Int32) :
    (tables.install index).byType[kind]? = index.networkId? kind := by
  unfold install
  rw [byType_foldl]
  simp [clear]

end CreativeTables

namespace Engine

variable {τ : Type} (engine : Engine τ)

theorem subscribeAll_creative (subscriptions : List (Subscription τ)) :
    (engine.subscribeAll subscriptions).1.creative = engine.creative := by
  induction subscriptions generalizing engine with
  | nil => rfl
  | cons subscription later induction =>
      have first : (engine.subscribe subscription).1.creative = engine.creative := by
        cases subscription <;> rfl
      exact (induction (engine.subscribe subscription).1).trans first

theorem runObservers_creative (due : List (τ × SlotChange)) :
    (engine.runObservers due).1.creative = engine.creative := by
  induction due generalizing engine with
  | nil => rfl
  | cons entry later induction =>
      obtain ⟨callback, change⟩ := entry
      have ran := engine.subscribeAll_creative (engine.reactions.slotChanged callback change)
      exact (induction _).trans ran

theorem contentReceived_creative (content : WindowContent) :
    (engine.contentReceived content).1.creative = engine.creative :=
  runObservers_creative _ _

theorem containerOpened_creative (container : OpenedContainer) :
    (engine.containerOpened container).1.creative = engine.creative := by
  unfold containerOpened
  rcases engine.containers.opened container with ⟨containers, none | callback⟩
  · rfl
  · exact subscribeAll_creative _ _

theorem containerClosed_creative (container : ClosedContainer) :
    (engine.containerClosed container).1.creative = engine.creative := by
  unfold containerClosed
  rcases engine.containers.closed container with ⟨containers, none | ⟨callback | number⟩⟩
  · rfl
  · exact subscribeAll_creative _ _
  · rfl

theorem packetReceived_creative (packet : ServerPacket) :
    (engine.packetReceived packet).2.1.creative = engine.creative := by
  cases packet with
  | windowContent content => exact engine.contentReceived_creative content
  | containerOpened container => exact engine.containerOpened_creative container
  | stackResponses responses => rfl
  | containerClosed container =>
      have closed := engine.containerClosed_creative container
      change (forgetClosed _ _).creative = _
      unfold forgetClosed
      split
      · exact closed
      · exact closed

theorem bytesReceived_creative (bytes : Bytes) :
    (engine.bytesReceived bytes).2.1.creative = engine.creative := by
  unfold bytesReceived
  cases ServerPacket.read bytes with
  | ok answer => exact engine.packetReceived_creative answer.1
  | error cause => cases cause <;> rfl

theorem closeContainer_creative (receipt : Nat) :
    (engine.closeContainer receipt).2.1.creative = engine.creative := by
  unfold closeContainer
  cases engine.containers.openContainer? with
  | none => rfl
  | some container =>
      simp only
      split
      · rfl
      · rfl

theorem startCommit_creative (number : Nat) (queue : List Operation) :
    (engine.startCommit number queue).2.1.creative = engine.creative := by
  rw [startCommit_engine]

end Engine

/-- The list that a step installs. -/
def SessionStep.creativeIndex? {α : Type} : SessionStep α → Option CreativeIndex
  | .setCreative index => some index
  | _ => none

namespace Session

variable {α : Type} {session : Session α} {index : CreativeIndex}

/-- The list is as it was. -/
def KeepsCreative (session : Session α) (progress : Progress α) : Prop :=
  progress.session.engine.creative = session.engine.creative

theorem perform_creative (session : Session α) (action : SessionStep α) :
    (session.perform action).session.engine.creative =
      action.creativeIndex?.getD session.engine.creative := by
  cases action with
  | content content => exact session.engine.contentReceived_creative content
  | containerOpened container => exact session.engine.containerOpened_creative container
  | containerClosed container => exact session.engine.containerClosed_creative container
  | packet packet => exact session.engine.packetReceived_creative packet
  | bytes bytes => exact session.engine.bytesReceived_creative bytes
  | closeContainer tag => exact session.engine.closeContainer_creative session.nextReceipt
  | commit name =>
      exact onTransaction_cases (P := session.KeepsCreative) rfl fun _ =>
        session.engine.startCommit_creative _ _
  | enqueue _ _ | showQueue _ | discard _ | compile _ =>
      exact onTransaction_cases (P := session.KeepsCreative) rfl fun _ => rfl
  | overlayLoad _ | overlayReserve _ _ | overlayItem _ | overlayTake _ _ | overlayPlace _ _
  | overlaySwap _ _ | overlayTransfer _ _ _ =>
      exact onOverlay_cases (P := session.KeepsCreative) fun _ _ => rfl
  | _ => rfl

/-- A list stays until another is installed. -/
theorem after_creative {steps : List (SessionStep α)}
    (kept : ∀ action ∈ steps, action.creativeIndex? = none) :
    (session.after steps).engine.creative = session.engine.creative := by
  induction steps generalizing session with
  | nil => rfl
  | cons action later induction =>
      rw [List.forall_mem_cons] at kept
      have first : (session.step action).1.engine.creative = session.engine.creative := by
        rw [step_engine, perform_creative, kept.1, Option.getD_none]
      exact (induction kept.2).trans first

/-- What is said about the creative list in a session, in either direction. -/
structure KnowsCreative (session : Session α) (index : CreativeIndex) : Prop where
  item : ∀ number kind, (session.step (.creativeItem number)).2.reply = .itemType (some kind) ↔
    ⟨number, kind⟩ ∈ index
  noItem : ∀ number, (session.step (.creativeItem number)).2.reply = .itemType none ↔
    ∀ entry ∈ index, entry.networkId ≠ number
  /-- Of the entries that give a type the first is answered. -/
  number : ∀ kind number,
    (session.step (.creativeNetworkId kind)).2.reply = .networkId (some number) ↔
      ∃ before later, index = before ++ ⟨number, kind⟩ :: later ∧
        ∀ entry ∈ before, entry.itemType ≠ kind
  noNumber : ∀ kind, (session.step (.creativeNetworkId kind)).2.reply = .networkId none ↔
    ∀ entry ∈ index, entry.itemType ≠ kind
  /-- The number that is answered for a type is answered with this type. -/
  back : ∀ kind number,
    (session.step (.creativeNetworkId kind)).2.reply = .networkId (some number) →
      (session.step (.creativeItem number)).2.reply = .itemType (some kind)
  /-- The answers are those of tables that are filled in one pass, whatever they held before. -/
  tables : ∀ previous : CreativeTables,
    (∀ number, (session.step (.creativeItem number)).2.reply =
      .itemType (previous.install index).byNumber[number]?) ∧
    ∀ kind, (session.step (.creativeNetworkId kind)).2.reply =
      .networkId (previous.install index).byType[kind]?
  /-- What is fetched by its type is of this type, and could be fetched by its number. -/
  fetch : ∀ kind number own,
    Compile.creativeEntry session.engine.context (.itemType kind) none = .ok (number, own) →
      own = kind ∧
        Compile.creativeEntry session.engine.context (.networkId number) none = .ok (number, kind)

theorem creativeItem_reply (session : Session α) (number : UInt32) :
    (session.step (.creativeItem number)).2.reply =
      .itemType (session.engine.creative.itemType? number) := rfl

theorem creativeNetworkId_reply (session : Session α) (kind : Int32) :
    (session.step (.creativeNetworkId kind)).2.reply =
      .networkId (session.engine.creative.networkId? kind) := rfl

/-- The two directions of a list without repeated numbers fit together, from when it is installed
until another one is, whatever was installed before. -/
theorem creative_lookups_fit_together (session : Session α)
    (distinct : (index.map CreativeEntry.networkId).Nodup) {later : List (SessionStep α)}
    (kept : ∀ action ∈ later, action.creativeIndex? = none) :
    (session.after (.setCreative index :: later)).KnowsCreative index := by
  have installed : (session.after (.setCreative index :: later)).engine.creative = index := by
    have first : (session.step (.setCreative index)).1.engine.creative = index := by
      rw [step_engine, perform_creative]
      rfl
    exact (after_creative kept).trans first
  generalize session.after (.setCreative index :: later) = final at installed ⊢
  constructor
  case item =>
    intro number kind
    rw [creativeItem_reply, installed, ← CreativeIndex.itemType?_eq_some_iff distinct]
    simp
  case noItem =>
    intro number
    rw [creativeItem_reply, installed, ← CreativeIndex.itemType?_eq_none_iff]
    simp
  case number =>
    intro kind number
    rw [creativeNetworkId_reply, installed, ← CreativeIndex.networkId?_eq_some_iff]
    simp
  case noNumber =>
    intro kind
    rw [creativeNetworkId_reply, installed, ← CreativeIndex.networkId?_eq_none_iff]
    simp
  case back =>
    intro kind number answered
    rw [creativeNetworkId_reply, installed] at answered
    rw [creativeItem_reply, installed]
    injection answered with found
    rw [CreativeIndex.itemType?_of_networkId? distinct found]
  case tables =>
    intro previous
    constructor
    · intro number
      rw [creativeItem_reply, installed, CreativeTables.byNumber_install]
    · intro kind
      rw [creativeNetworkId_reply, installed, CreativeTables.byType_install]
  case fetch =>
    intro kind number own found
    have known : final.engine.context.creative = index := installed
    unfold Compile.creativeEntry at found ⊢
    simp only [known] at found ⊢
    split at found
    · next entry listed =>
        cases found
        simp [CreativeIndex.itemType?_of_networkId? distinct listed]
    · cases found

/-- There is an older list, in which the number two gives another type. -/
def furnished : Session Nat := { engine := { creative := [⟨2, 300⟩, ⟨9, 305⟩] } }

def newStock : CreativeIndex := [⟨1, 300⟩, ⟨2, 301⟩, ⟨3, 300⟩]

def otherBusiness : List (SessionStep Nat) :=
  [.setSlot ⟨0, 9⟩ none, .newRequestId, .onOpen ⟨7, true⟩]

def refurnished : Session Nat := furnished.after (.setCreative newStock :: otherBusiness)

theorem new_stock_replaces_the_old :
    (newStock.map CreativeEntry.networkId).Nodup ∧
      (∀ action ∈ otherBusiness, action.creativeIndex? = none) ∧
      refurnished.KnowsCreative newStock ∧
      (refurnished.step (.creativeItem 2)).2.reply = .itemType (some 301) ∧
      (refurnished.step (.creativeItem 9)).2.reply = .itemType none ∧
      (refurnished.step (.creativeNetworkId 300)).2.reply = .networkId (some 1) ∧
      (refurnished.step (.creativeNetworkId 305)).2.reply = .networkId none := by
  have distinct : (newStock.map CreativeEntry.networkId).Nodup := by decide
  have kept : ∀ action ∈ otherBusiness, action.creativeIndex? = none := by
    simp [otherBusiness, SessionStep.creativeIndex?]
  have knows : refurnished.KnowsCreative newStock :=
    creative_lookups_fit_together furnished distinct kept
  refine ⟨distinct, kept, knows, ?_, ?_, ?_, ?_⟩
  · exact (knows.item 2 301).2 (by decide)
  · exact (knows.noItem 9).2 (by decide)
  · exact (knows.number 300 1).2 ⟨[], [⟨2, 301⟩, ⟨3, 300⟩], rfl, List.forall_mem_nil _⟩
  · exact (knows.noNumber 305).2 (by decide)

end Session

end InventorySync
