import InventorySync.Engine
import Mathlib.Data.List.Nodup

/-!
The content of a window takes the place of whatever was known of it. The observers that
run are those of the slots that changed: covered ones that hold another item than before,
and uncovered ones that held something. Each of them was registered when the content
arrived, runs once and is removed. What they register themselves stays registered, and
waits for the next content even where the slot has changed.
-/

namespace InventorySync

set_option autoImplicit false

/-- What the content of a window shows to the observer of a slot. -/
inductive Shows (before : Option Item) (items : List Item) (slot : UInt8) : Item → Prop where
  /-- The slot was absent, or it held another item. -/
  | covered {item : Item} (new : items[slot.toNat]? = some item)
      (differs : ∀ old, before = some old → old.sameValue item = false) :
      Shows before items slot item
  /-- The content does not reach the slot, which held something. -/
  | uncovered {old : Item} (beyond : items.length ≤ slot.toNat) (held : before = some old)
      (filled : old.isEmpty = false) : Shows before items slot .empty

namespace Inventory

variable {inventory : Inventory} {window : WindowId} {items : List Item}

theorem change?_eq_some {before : Slots} {slot : UInt8} {item : Item} :
    change? before (slotsOf items) slot = some item ↔ Shows (before slot) items slot item := by
  unfold change? slotsOf
  constructor
  · intro changed
    split at changed
    · next new covers =>
        split at changed
        · cases changed
        · next differs =>
            cases changed
            rw [Option.any_eq_true] at differs
            push Not at differs
            exact .covered covers fun old held => Bool.eq_false_iff.2 (differs old held)
    · next gone =>
        split at changed
        · next held =>
            cases changed
            obtain ⟨old, present, filled⟩ := (Option.any_eq_true _ _).1 held
            rw [Bool.not_eq_true'] at filled
            exact .uncovered (List.getElem?_eq_none_iff.1 gone) present filled
        · cases changed
  · intro shows
    cases shows with
    | covered new differs =>
        rw [new]
        refine if_neg fun same => ?_
        obtain ⟨old, held, equal⟩ := (Option.any_eq_true _ _).1 same
        rw [differs old held] at equal
        cases equal
    | uncovered beyond held filled =>
        rw [List.getElem?_eq_none_iff.2 beyond, held]
        exact if_pos (by rw [Option.any_some, filled]; rfl)

theorem mem_slotNumbers (slot : UInt8) : slot ∈ slotNumbers :=
  List.mem_map.2 ⟨slot.toNat, List.mem_range.2 slot.toNat_lt, UInt8.ofNat_toNat⟩

theorem nodup_slotNumbers : slotNumbers.Nodup := by
  unfold slotNumbers
  rw [List.nodup_map_iff_inj_on List.nodup_range]
  intro first inside second within same
  have numbers := congrArg UInt8.toNat same
  rw [UInt8.toNat_ofNat', UInt8.toNat_ofNat'] at numbers
  have smaller := List.mem_range.1 inside
  have small := List.mem_range.1 within
  omega

theorem item?_eq (location : Location) :
    ((inventory.window? location.window).getD fun _ => none) location.slot =
      inventory.item? location := by
  unfold item?
  cases inventory.window? location.window <;> rfl

theorem item?_replace (slot : UInt8) :
    (inventory.replace window items).1.item? ⟨window, slot⟩ = items[slot.toNat]? := by
  simp [replace, item?, setWindow, slotsOf]

theorem knows_replace : (inventory.replace window items).1.knows window := by
  simp [replace, knows, setWindow]

theorem mem_replace {change : SlotChange} :
    change ∈ (inventory.replace window items).2 ↔ change.location.window = window ∧
      Shows (inventory.item? change.location) items change.location.slot change.item := by
  unfold replace
  simp only [List.mem_filterMap, Option.map_eq_some_iff, change?_eq_some]
  constructor
  · rintro ⟨slot, -, item, shows, rfl⟩
    rw [item?_eq ⟨window, slot⟩] at shows
    exact ⟨rfl, shows⟩
  · obtain ⟨⟨other, slot⟩, item⟩ := change
    rintro ⟨rfl, shows⟩
    rw [← item?_eq] at shows
    exact ⟨slot, mem_slotNumbers slot, item, shows, rfl⟩

/-- Each slot changes once. -/
theorem distinct_replace :
    (inventory.replace window items).2.Pairwise fun first second =>
      first.location ≠ second.location := by
  unfold replace
  refine List.Pairwise.filterMap _ ?_ nodup_slotNumbers
  intro first second differs change one other two same
  obtain ⟨item, -, rfl⟩ := Option.map_eq_some_iff.1 one
  obtain ⟨item, -, rfl⟩ := Option.map_eq_some_iff.1 two
  exact differs (congrArg Location.slot same)

end Inventory

namespace Observers

variable {τ : Type} {observers : Observers τ} {changes : List SlotChange}

theorem mem_take {callback : τ} {change : SlotChange} :
    (callback, change) ∈ (observers.take changes).1 ↔
      change ∈ changes ∧ observers.find? change.location = some callback := by
  unfold take
  simp only [List.mem_filterMap, Option.map_eq_some_iff, Prod.mk.injEq]
  constructor
  · rintro ⟨other, member, _, found, rfl, rfl⟩
    exact ⟨member, found⟩
  · rintro ⟨member, found⟩
    exact ⟨change, member, callback, found, rfl, rfl⟩

theorem distinct_take
    (distinct : changes.Pairwise fun first second => first.location ≠ second.location) :
    (observers.take changes).1.Pairwise fun first second =>
      first.2.location ≠ second.2.location := by
  refine List.Pairwise.filterMap _ ?_ distinct
  intro first second differs one due other two
  obtain ⟨callback, -, rfl⟩ := Option.map_eq_some_iff.1 due
  obtain ⟨callback, -, rfl⟩ := Option.map_eq_some_iff.1 two
  exact differs

theorem find?_take (location : Location) :
    (observers.take changes).2.find? location =
      if location ∈ (observers.take changes).1.map fun due => due.2.location then none
      else observers.find? location := by
  have kept := Keyed.lookup_filter
    (fun name => !changes.any fun change => change.location = name) observers location
  have unchanged : (!changes.any fun change => change.location = location) = true ↔
      ∀ change ∈ changes, change.location ≠ location := by simp
  refine kept.trans ?_
  by_cases due : location ∈ (observers.take changes).1.map fun due => due.2.location
  · obtain ⟨⟨callback, change⟩, member, rfl⟩ := List.mem_map.1 due
    rw [if_pos due, if_neg fun all => unchanged.1 all change (mem_take.1 member).1 rfl]
  · rw [if_neg due]
    split
    · rfl
    · next changed =>
        rw [unchanged] at changed
        push Not at changed
        obtain ⟨change, member, rfl⟩ := changed
        -- An observer of a changed slot would have been due.
        refine Eq.symm (Option.eq_none_iff_forall_ne_some.2 fun callback found => due ?_)
        exact List.mem_map.2 ⟨(callback, change), mem_take.2 ⟨member, found⟩, rfl⟩

end Observers

/-- The slot and the callback of a subscription to a slot. -/
def Subscription.slot? {τ : Type} : Subscription τ → Option (Location × τ)
  | .slot location callback => some (location, callback)
  | _ => none

def Event.slotChange? {τ : Type} : Event τ → Option (τ × SlotChange)
  | .slotChanged callback change => some (callback, change)
  | _ => none

/-- The observers that ran, each with what it was shown. -/
def firings {τ : Type} (events : List (Event τ)) : List (τ × SlotChange) :=
  events.filterMap Event.slotChange?

namespace Engine

variable {τ : Type} {engine : Engine τ}

/-- The observers that these ones register when they run, in their order. -/
def registeredBy (engine : Engine τ) (due : List (τ × SlotChange)) : List (Location × τ) :=
  due.flatMap fun entry =>
    (engine.reactions.slotChanged entry.1 entry.2).filterMap Subscription.slot?

/-- The observers afterwards are those that were registered since and those that were there
before. Nothing but hooks is different apart from that. -/
structure Registers (engine : Engine τ) (registrations : List (Location × τ))
    (after : Engine τ) : Prop where
  observers : ∀ location, after.observers.find? location =
    (registrations.reverse.lookup location).or (engine.observers.find? location)
  reactions : after.reactions = engine.reactions
  inventory : after.inventory = engine.inventory

namespace Registers

variable {first second : List (Location × τ)} {between after : Engine τ}

theorem nil (engine : Engine τ) : Registers engine [] engine := ⟨fun _ => rfl, rfl, rfl⟩

/-- Of two registrations for one slot the later one counts. -/
theorem append (head : Registers engine first between) (tail : Registers between second after) :
    Registers engine (first ++ second) after where
  observers location := by
    rw [tail.observers, head.observers, List.reverse_append, List.lookup_append, Option.or_assoc]
  reactions := tail.reactions.trans head.reactions
  inventory := tail.inventory.trans head.inventory

theorem subscribe (subscription : Subscription τ) :
    Registers engine subscription.slot?.toList (engine.subscribe subscription).1 := by
  cases subscription with
  | slot location callback =>
      refine ⟨fun other => ?_, rfl, rfl⟩
      refine (Observers.find?_set _ location other callback).trans ?_
      change _ = (List.lookup other [(location, callback)]).or _
      rw [Keyed.lookup_cons]
      split <;> rfl
  | opening callback => exact ⟨fun _ => rfl, rfl, rfl⟩
  | closing callback => exact ⟨fun _ => rfl, rfl, rfl⟩

theorem subscribeAll (subscriptions : List (Subscription τ)) :
    Registers engine (subscriptions.filterMap Subscription.slot?)
      (engine.subscribeAll subscriptions).1 := by
  induction subscriptions generalizing engine with
  | nil => exact nil engine
  | cons subscription later induction =>
      have both := (subscribe subscription).append (@induction (engine.subscribe subscription).1)
      have listed : (subscription :: later).filterMap Subscription.slot? =
          subscription.slot?.toList ++ later.filterMap Subscription.slot? := by
        rw [List.filterMap_cons]
        cases subscription.slot? <;> rfl
      rw [listed]
      exact both

theorem runObservers (due : List (τ × SlotChange)) :
    Registers engine (engine.registeredBy due) (engine.runObservers due).1 := by
  induction due generalizing engine with
  | nil => exact nil engine
  | cons entry later induction =>
      have ran := @subscribeAll τ engine (engine.reactions.slotChanged entry.1 entry.2)
      have rest := @induction
        (engine.subscribeAll (engine.reactions.slotChanged entry.1 entry.2)).1
      unfold registeredBy at rest
      rw [ran.reactions] at rest
      exact ran.append rest

end Registers

section Firings

theorem firings_setCloseHook (hook : Option (CloseHook τ)) :
    firings (engine.setCloseHook hook).2 = [] := by
  change firings (lostReceipt engine.containers.closeHook) = []
  rcases engine.containers.closeHook with none | ⟨callback | number⟩ <;> rfl

/-- To register a callback is not to run one. -/
theorem firings_subscribeAll (subscriptions : List (Subscription τ)) :
    firings (engine.subscribeAll subscriptions).2 = [] := by
  induction subscriptions generalizing engine with
  | nil => rfl
  | cons subscription later induction =>
      change firings ((engine.subscribe subscription).2 ++ _) = []
      unfold firings
      rw [List.filterMap_append, List.append_eq_nil_iff]
      refine ⟨?_, induction⟩
      cases subscription with
      | slot location callback => rfl
      | opening callback => rfl
      | closing callback => exact firings_setCloseHook _

/-- Those observers run that were taken out, and nobody else. -/
theorem firings_runObservers (due : List (τ × SlotChange)) :
    firings (engine.runObservers due).2 = due := by
  induction due generalizing engine with
  | nil => rfl
  | cons entry later induction =>
      change entry :: firings ((engine.subscribeAll _).2 ++ _) = entry :: later
      unfold firings
      rw [List.filterMap_append]
      exact congrArg (entry :: ·) (congrArg₂ (· ++ ·) (firings_subscribeAll _) induction)

end Firings

/-- The engine with the content of a window taken in, and the observers that have to run. -/
def takeIn (engine : Engine τ) (window : WindowId) (items : List Item) :
    Engine τ × List (τ × SlotChange) :=
  let (inventory, changes) := engine.inventory.replace window items
  let (due, observers) := engine.observers.take changes
  ({ engine with inventory, observers }, due)

section Contents

variable {content : WindowContent} {window : WindowId}

theorem contentReceived_eq (named : window.toNat = content.windowNumber.toNat) :
    engine.contentReceived content =
      (engine.takeIn window content.items).1.runObservers
        (engine.takeIn window content.items).2 := by
  have small : content.windowNumber.toNat < 256 := named ▸ window.toNat_lt
  have same : content.windowNumber.toUInt8 = window := by
    apply UInt8.toNat_inj.1
    rw [UInt32.toNat_toUInt8, named, Nat.mod_eq_of_lt small]
  have applied : engine.inventory.apply content =
      engine.inventory.replace window content.items := by
    unfold Inventory.apply
    rw [if_pos small, same]
  unfold contentReceived
  rw [applied]
  rfl

/-- There is no window with a number above 255. -/
theorem contentReceived_unnamed (large : 255 < content.windowNumber.toNat) :
    engine.contentReceived content = (engine, []) := by
  have ignored : engine.inventory.apply content = (engine.inventory, []) := by
    unfold Inventory.apply
    exact if_neg (by omega)
  have kept : (engine.observers.filter fun entry =>
      !([] : List SlotChange).any fun change => change.location = entry.1) = engine.observers :=
    List.filter_eq_self.2 fun _ _ => rfl
  unfold contentReceived Observers.take
  rw [ignored]
  simp only [kept, List.filterMap_nil]
  rfl

end Contents

/-- What an engine makes of the content of a window. -/
structure TakesOver (engine : Engine τ) (window : WindowId) (items : List Item)
    (step : Step τ) : Prop where
  /-- The window holds these items as far as there are slots, and no others. -/
  held : ∀ slot, step.1.inventory.item? ⟨window, slot⟩ = items[slot.toNat]?
  known : step.1.inventory.knows window
  elsewhere : ∀ other, other ≠ window →
    step.1.inventory.window? other = engine.inventory.window? other
  /-- Those observers run that were registered before, at slots that change. -/
  fired : ∀ callback change, (callback, change) ∈ firings step.2 ↔
    engine.observers.find? change.location = some callback ∧ change.location.window = window ∧
      Shows (engine.inventory.item? change.location) items change.location.slot change.item
  once : (firings step.2).Pairwise fun first second => first.2.location ≠ second.2.location
  /-- What an observer registers is there afterwards, unless another was registered for the slot
  after it. -/
  registered : ∀ earlier location callback later,
    engine.registeredBy (firings step.2) = earlier ++ (location, callback) :: later →
    location ∉ later.map Prod.fst → step.1.observers.find? location = some callback
  /-- Where nobody registers anything, the observers that ran are gone and the others stay. -/
  left : ∀ location, location ∉ (engine.registeredBy (firings step.2)).map Prod.fst →
    step.1.observers.find? location =
      if location ∈ (firings step.2).map (fun firing => firing.2.location) then none
      else engine.observers.find? location

theorem lookup_absent {registrations : List (Location × τ)} {location : Location}
    (absent : location ∉ registrations.map Prod.fst) :
    registrations.reverse.lookup location = none := by
  rw [List.lookup_eq_none_iff]
  intro entry member
  rw [bne_iff_ne]
  intro same
  exact absent (List.mem_map.2 ⟨entry, List.mem_reverse.1 member, same.symm⟩)

theorem lookup_last {earlier later : List (Location × τ)} {location : Location} {callback : τ}
    (last : location ∉ later.map Prod.fst) :
    (earlier ++ (location, callback) :: later).reverse.lookup location = some callback := by
  rw [List.reverse_append, List.reverse_cons, List.lookup_append, List.lookup_append,
    lookup_absent last, Keyed.lookup_cons, if_pos rfl]
  rfl

theorem takeIn_takesOver (window : WindowId) (items : List Item) :
    engine.TakesOver window items
      ((engine.takeIn window items).1.runObservers (engine.takeIn window items).2) := by
  have ran := @Registers.runObservers τ (engine.takeIn window items).1
    (engine.takeIn window items).2
  have due := @firings_runObservers τ (engine.takeIn window items).1
    (engine.takeIn window items).2
  constructor
  case held =>
    intro slot
    rw [ran.inventory]
    exact Inventory.item?_replace slot
  case known =>
    rw [ran.inventory]
    exact Inventory.knows_replace
  case elsewhere =>
    intro other differs
    rw [ran.inventory]
    exact if_neg differs
  case fired =>
    intro callback change
    rw [due, and_comm]
    exact Observers.mem_take.trans (and_congr_left' Inventory.mem_replace)
  case once =>
    rw [due]
    exact Observers.distinct_take Inventory.distinct_replace
  case registered =>
    intro earlier location callback later split last
    rw [due] at split
    change (engine.takeIn window items).1.registeredBy _ = _ at split
    rw [ran.observers, split, lookup_last last]
    rfl
  case left =>
    intro location absent
    rw [due] at absent ⊢
    change location ∉ ((engine.takeIn window items).1.registeredBy _).map Prod.fst at absent
    rw [ran.observers, lookup_absent absent, Option.none_or]
    exact Observers.find?_take location

/-- The content of a window replaces the window, and runs the observers of what changed in it. -/
theorem content_replaces_window (engine : Engine τ) (content : WindowContent) :
    (255 < content.windowNumber.toNat → engine.contentReceived content = (engine, [])) ∧
      ∀ window : WindowId, window.toNat = content.windowNumber.toNat →
        engine.TakesOver window content.items (engine.contentReceived content) := by
  refine ⟨contentReceived_unnamed, fun window named => ?_⟩
  rw [contentReceived_eq named]
  exact takeIn_takesOver window content.items

/-- A chest with three items, and observers of two of them and of a slot elsewhere. The first one
goes on to the second slot when it runs. -/
def watching : Engine Nat where
  inventory := (((Inventory.empty.set ⟨3, 0⟩ { typeId := 1, count := 1 }).set ⟨3, 1⟩
    { typeId := 2, count := 1 }).set ⟨3, 2⟩ { typeId := 3, count := 1 }).set ⟨4, 0⟩ .empty
  observers := [(⟨3, 0⟩, 10), (⟨3, 2⟩, 12), (⟨4, 0⟩, 40)]
  reactions := { slotChanged := fun callback _ => if callback = 10 then [.slot ⟨3, 1⟩ 11] else [] }

/-- Two other items, and nothing where the third one was. -/
def shorterContent : WindowContent := ⟨3, [{ typeId := 5, count := 1 }, .empty]⟩

theorem shorter_content_is_watched :
    (3 : WindowId).toNat = shorterContent.windowNumber.toNat ∧
      watching.TakesOver 3 shorterContent.items (watching.contentReceived shorterContent) ∧
      firings (watching.contentReceived shorterContent).2 =
        [(10, ⟨⟨3, 0⟩, { typeId := 5, count := 1 }⟩), (12, ⟨⟨3, 2⟩, .empty⟩)] ∧
      (watching.contentReceived shorterContent).1.observers = [(⟨3, 1⟩, 11), (⟨4, 0⟩, 40)] ∧
      255 < (⟨300, [.empty]⟩ : WindowContent).windowNumber.toNat ∧
      watching.contentReceived ⟨300, [.empty]⟩ = (watching, []) := by
  have named : (3 : WindowId).toNat = shorterContent.windowNumber.toNat := by decide
  have large : 255 < (⟨300, [.empty]⟩ : WindowContent).windowNumber.toNat := by decide
  exact ⟨named, (content_replaces_window watching shorterContent).2 3 named, by decide +kernel,
    by decide +kernel, large, (content_replaces_window watching ⟨300, [.empty]⟩).1 large⟩

end Engine

end InventorySync
