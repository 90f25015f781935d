import InventorySync.Proofs.Batching
import InventorySync.Proofs.Conservation

/-!
What a caller declares about an item that it has renamed. The server does not repeat it, so it is
kept with the slot and applied when the answer arrives. The predicted item knows nothing of it:
a later operation of the same transaction that moves the item on takes it along without what was
declared, which stays behind with the slot. Committed for itself, the later operation finds the
item as it was declared.
-/

namespace InventorySync

set_option autoImplicit false

section Items

namespace Item

/-- The item under another name. -/
def renamed (item : Item) (name : String) : Item :=
  { item with userData := DisplayName.patch item.userData name }

theorem amount_le_count (item : Item) : item.amount ≤ item.count.toNat := by
  unfold amount
  split
  · exact Nat.zero_le _
  · exact Nat.le_refl _

/-- A stack that one action can count is small enough to be acknowledged. -/
theorem amount_le_of_counted {item : Item} {count : UInt8}
    (whole : item.count.toNat ≤ count.toNat) : item.amount ≤ 255 := by
  have room := count.toNat_lt
  have bound := item.amount_le_count
  omega

theorem toNat_carried {item : Item} (few : item.count.toNat ≤ 255) :
    (UInt8.ofNat (min item.count.toNat 255)).toNat = item.count.toNat := by
  rw [Nat.min_eq_left few, UInt8.toNat_ofNat']
  exact Nat.mod_eq_of_lt (by omega)

/-- A stack that is taken as a whole leaves nothing behind. -/
theorem split_whole {item : Item} {wanted : UInt8} (filled : item.isEmpty = false)
    (whole : item.count.toNat ≤ wanted.toNat) : item.split wanted = (item, .empty) := by
  have taken : min wanted.toUInt16 item.count = item.count := by
    apply UInt16.toNat_inj.1
    rw [toNat_min, UInt8.toNat_toUInt16]
    exact Nat.min_eq_right whole
  unfold split
  rw [if_neg (Bool.eq_false_iff.1 filled), taken]
  simp

/-- A stack arrives in an empty slot as it is. -/
theorem empty_stackOnto {item : Item} (filled : item.isEmpty = false) :
    empty.stackOnto item = item := by
  unfold stackOnto
  rw [filled, if_neg Bool.false_ne_true]
  rfl

end Item

namespace Operation

variable {items : Items} {source target : Location} {count : UInt8}

theorem effect_move_source (differs : source ≠ target) :
    effect (.move source target count) items source = ((items source).split count).2 := by
  change Items.place _ target _ source = _
  unfold Items.place Items.take
  rw [Items.put_of_ne differs]
  exact if_pos rfl

theorem effect_move_target (differs : source ≠ target) :
    effect (.move source target count) items target =
      (items target).stackOnto ((items source).split count).1 := by
  change (if target = target then
    (items.take source count target).stackOnto (items.taken source count) else _) = _
  rw [if_pos rfl]
  unfold Items.take Items.taken
  rw [Items.put_of_ne differs.symm]

/-- A whole stack arrives in an empty slot as it was. -/
theorem effect_move_whole (filled : (items source).isEmpty = false) (free : (items target).isEmpty)
    (whole : (items source).count.toNat ≤ count.toNat) :
    effect (.move source target count) items =
      (items.put source .empty).put target (items source) := by
  have differs := Items.ne_of_isEmpty filled free
  have split := Item.split_whole filled whole
  have arrives : (items target).stackOnto (items source) = items source := by
    unfold Item.stackOnto
    rw [filled, if_neg Bool.false_ne_true, if_pos free]
  change (items.take source count).place target (items.taken source count) = _
  unfold Items.place Items.take Items.taken
  rw [split, Items.put_of_ne differs.symm, arrives]

/-- A whole stack goes to a slot and is taken out there, and something replaces it where it was.
The two slots may be one and the same. -/
theorem effect_exchange {item : Item} (filled : (items source).isEmpty = false)
    (free : (items target).isEmpty ∨ source = target)
    (whole : (items source).count.toNat ≤ count.toNat) (some : item.isEmpty = false) :
    (effect (.move source target count) items).taken target count = items source ∧
      ((effect (.move source target count) items).take target count).place source item =
        (items.put target .empty).put source item := by
  have split := Item.split_whole filled whole
  rcases free with free | rfl
  · have differs := Items.ne_of_isEmpty filled free
    have there : (items.put source .empty).put target (items source) target = items source :=
      if_pos rfl
    have here : ((items.put source .empty).put target (items source)).put target .empty source =
        .empty := by
      rw [Items.put_of_ne differs, Items.put_of_ne differs]
      exact if_pos rfl
    rw [effect_move_whole filled free whole]
    unfold Items.place Items.take Items.taken
    rw [there, split]
    refine ⟨rfl, ?_⟩
    rw [here, Item.empty_stackOnto some]
    funext location
    unfold Items.put
    split
    · rfl
    · split <;> rfl
  · -- The stack goes onto the empty slot that it has just left.
    have back : effect (.move source source count) items = items := by
      change (items.take source count).place source (items.taken source count) = items
      unfold Items.place Items.take Items.taken
      rw [split]
      funext location
      unfold Items.put
      by_cases here : location = source
      · rw [if_pos here, here, if_pos rfl, Item.empty_stackOnto filled]
      · rw [if_neg here, if_neg here]
    have emptied : items.put source .empty source = .empty := if_pos rfl
    rw [back]
    unfold Items.place Items.take Items.taken
    rw [split]
    refine ⟨rfl, ?_⟩
    rw [emptied, Item.empty_stackOnto some]

/-- An empty slot receives what a whole stack comes to, be it nothing. -/
theorem acknowledged_move (differs : source ≠ target) (free : (items target).isEmpty)
    (whole : (items source).count.toNat ≤ count.toNat) :
    (effect (.move source target count) items target).acknowledged =
      (items source).acknowledged := by
  cases filled : (items source).isEmpty with
  | true =>
      have nothing : ((items source).split count).1 = .empty := by
        unfold Item.split
        rw [if_pos filled]
      have same : (items target).stackOnto .empty = items target := rfl
      rw [effect_move_target differs, nothing, same, Item.acknowledged_of_empty free,
        Item.acknowledged_of_empty filled]
  | false =>
      rw [effect_move_whole filled free whole]
      exact congrArg Item.acknowledged (if_pos rfl)

/-- What is moved into an empty slot was counted by the action. -/
theorem amount_move_le {location : Location} (differs : source ≠ target)
    (free : (items target).isEmpty) (small : (items source).amount ≤ 255)
    (named : location ∈ [source, target]) :
    (effect (.move source target count) items location).amount ≤ 255 := by
  obtain ⟨taken, left⟩ := (items source).amount_split count
  rcases List.mem_pair.1 named with rfl | rfl
  · rw [effect_move_source differs]
    omega
  · rw [effect_move_target differs, Item.amount_stackOnto, taken, Item.amount_of_empty free]
    omega

end Operation

end Items

namespace Compile

section Drafts

variable {context : Context} {requestId : Int32} {named others : List Location}
  {effect otherEffect : Items → Items} {draft after : Draft}

/-- It matters which slots were named and what the items are now, not how they became so. -/
theorem Arranges.congr (arranges : Arranges context named effect draft after)
    (same : ∀ location, location ∈ named ↔ location ∈ others)
    (reached : effect (draft.items context.inventory) =
      otherEffect (draft.items context.inventory)) :
    Arranges context others otherEffect draft after := by
  refine ⟨⟨arranges.items.trans reached, ?_, ?_⟩, ?_, arranges.addressed, arranges.expectation⟩
  · intro location
    rw [arranges.holds, same]
  · intro location
    rw [arranges.touched, same]
  · intro location member
    exact arranges.usable location ((same location).2 member)

/-- The request as it stands could be answered for each slot that it names. -/
structure Draft.Answerable (context : Context) (draft : Draft) : Prop where
  addressed : draft.Addressed context
  held : ∀ location ∈ draft.touched, draft.overlay.holds location
  small : ∀ location ∈ draft.touched, (draft.items context.inventory location).amount ≤ 255

theorem Draft.answerable_of_overlay (overlay : Overlay) :
    ({ overlay } : Draft).Answerable context := by
  constructor
  · intro location touched
    cases touched
  · intro location touched
    cases touched
  · intro location touched
    cases touched

theorem Arranges.answerable (arranges : Arranges context named effect draft after)
    (spare : context.overrides.SparePlayer) (answerable : draft.Answerable context)
    (small : ∀ location ∈ after.touched, (after.items context.inventory location).amount ≤ 255) :
    after.Answerable context := by
  refine ⟨arranges.addressed spare answerable.addressed, ?_, small⟩
  intro location touched
  rw [arranges.holds]
  exact ((arranges.touched location).1 touched).imp_left (answerable.held location)

/-- What a faithful answer to a request leaves in the slots that the request names. -/
theorem Draft.Answerable.absorbs {response : StackResponse} (answerable : draft.Answerable context)
    (answered : AnswersFaithfully context.overrides context.opened (draft.finish requestId)
      response) (current : Inventory) :
    Wrote (fun location => ((draft.expectation? location).getD {}).applied
        (draft.items context.inventory location)) draft.touched current
      ((draft.finish requestId).absorb current response) := by
  have predictions := draft.find?_finish answerable.held requestId context.inventory
  have small : (draft.finish requestId).Small := by
    intro location prediction found
    rw [predictions] at found
    split at found
    · next touched =>
        cases found
        exact ⟨_, rfl, answerable.small location touched⟩
    · cases found
  have addressed : (draft.finish requestId).Addressed context.overrides context.opened :=
    CompiledRequest.addressed_of_named predictions answerable.addressed
  have listed := CompiledRequest.mem_iff_predicted predictions
  have wrote := CompiledRequest.absorb_writes small addressed answered listed current
  refine (Wrote.refl current).overwrite wrote ?_ fun _ _ => rfl
  intro location touched
  unfold CompiledRequest.outcome
  rw [predictions, if_pos touched]
  rfl

end Drafts

section Renaming

variable {context : Context} {requestId : Int32} {draft after : Draft} {source : Location}
  {name : String} {expectation : Expectation}

/-- To look at a slot before it is named makes no difference. -/
theorem Arranges.of_itemOf {named : List Location} {effect : Items → Items} {between : Draft}
    {location : Location} {item : Item} (arranges : Arranges context named effect between after)
    (read : itemOf context location draft = .ok (item, between)) (member : location ∈ named) :
    Arranges context named effect draft after := by
  obtain ⟨available, -, -, rfl⟩ := itemOf_ok.1 read
  have items := draft.overlay.itemAt_setSlot_slotAt context.inventory location
  refine ⟨⟨arranges.items.trans (congrArg effect items), ?_, arranges.touched⟩, ?_,
    arranges.addressed, arranges.expectation⟩
  · intro other
    have held := arranges.holds other
    rw [Overlay.holds_setSlot, Bool.or_eq_true, decide_eq_true_iff] at held
    rw [held]
    constructor
    · rintro ((same | before) | named)
      · exact Or.inr (same ▸ member)
      · exact Or.inl before
      · exact Or.inr named
    · rintro (before | named)
      · exact Or.inl (Or.inr before)
      · exact Or.inr named
  · intro other named
    obtain ⟨resolved, usable⟩ := arranges.usable other named
    refine ⟨resolved, ?_⟩
    by_cases same : other = location
    · rw [same]
      exact available
    · rw [available_iff, Overlay.holds_setSlot] at usable
      simpa [available_iff, same] using usable

/-- The stack goes through the anvil and comes back under its new name. What is declared about
it is noted for its slot and does not show in the predicted item. -/
theorem anvilRename_arranges {answer : Unit}
    (performed : anvilRename context requestId source name (some expectation) draft =
      .ok (answer, after))
    (few : (draft.items context.inventory source).count.toNat ≤ 255)
    (bare : (draft.items context.inventory UiSlot.anvilInput).isEmpty) :
    (draft.items context.inventory source).isEmpty = false ∧ ∃ named,
      Arranges context [source, UiSlot.anvilInput]
        (fun items => (items.put UiSlot.anvilInput .empty).put source
          ((items source).renamed name)) draft named ∧
      after = { named with expectation? := fun location =>
        if location = source then some expectation else named.expectation? location } := by
  unfold anvilRename at performed
  simp only [bind_ok, lift_ok, get_ok, emit_ok, modify_ok] at performed
  obtain ⟨_, _, ⟨-, rfl⟩, item, _, read, _, loaded, moved, performed⟩ := performed
  obtain ⟨_, _, ⟨-, rfl⟩, _, _, rfl, _, _, rfl, input, used, consumed, performed⟩ := performed
  obtain ⟨_, named, placed, declared⟩ := performed
  obtain ⟨-, rfl, filled, -⟩ := itemOf_ok.1 read
  have counted := Item.toNat_carried few
  generalize UInt8.ofNat (min (draft.items context.inventory source).count.toNat 255) = count
    at counted moved consumed placed
  have present : ((draft.items context.inventory source).renamed name).isEmpty = false := filled
  obtain ⟨carried, exchanged⟩ := Operation.effect_exchange filled (Or.inl bare) counted.ge present
  have inserted := (move_arranges moved).of_itemOf read (by simp)
  obtain ⟨taken, taking⟩ := consume_arranges consumed
  have same : input = draft.items context.inventory source := by
    have there : loaded.items context.inventory = _ := inserted.items
    rw [← taken, there]
    exact carried
  have emptied : Arranges context [UiSlot.anvilInput]
      (fun items => items.take UiSlot.anvilInput count) loaded used :=
    ⟨⟨taking.items, taking.holds, taking.touched⟩, taking.usable, taking.addressed,
      taking.expectation⟩
  have through := (inserted.append emptied).append (placeOutput_arranges placed)
  subst same
  refine ⟨filled, named, through.congr ?_ ?_, (modify_ok.1 declared).symm⟩
  · intro location
    simp only [List.mem_append, List.mem_cons, List.not_mem_nil, or_false]
    tauto
  · exact exchanged

/-- A request in which a stack was renamed, and nothing else was done so far. -/
structure Draft.Renames (context : Context) (source : Location) (name : String)
    (expectation : Expectation) (draft : Draft) : Prop where
  filled : (context.inventory.itemOrEmpty source).isEmpty = false
  answerable : draft.Answerable context
  items : draft.items context.inventory =
    (Items.put context.inventory.itemOrEmpty UiSlot.anvilInput .empty).put source
      ((context.inventory.itemOrEmpty source).renamed name)
  holds : ∀ location, draft.overlay.holds location ↔ location ∈ [source, UiSlot.anvilInput]
  touched : ∀ location, location ∈ draft.touched ↔ location ∈ [source, UiSlot.anvilInput]
  usable : ∀ location ∈ [source, UiSlot.anvilInput], Usable context .empty location
  expectation : ∀ location,
    draft.expectation? location = if location = source then some expectation else none

theorem anvilRename_renames {answer : Unit} (spare : context.overrides.SparePlayer)
    (performed : anvilRename context requestId source name (some expectation)
      { overlay := .empty } = .ok (answer, after))
    (few : (context.inventory.itemOrEmpty source).count.toNat ≤ 255)
    (bare : (context.inventory.itemOrEmpty UiSlot.anvilInput).isEmpty) :
    after.Renames context source name expectation := by
  obtain ⟨filled, named, arranges, rfl⟩ := anvilRename_arranges performed few bare
  have items : named.items context.inventory =
      (Items.put context.inventory.itemOrEmpty UiSlot.anvilInput .empty).put source
        ((context.inventory.itemOrEmpty source).renamed name) := arranges.items
  have touched : ∀ location, location ∈ named.touched ↔ location ∈ [source, UiSlot.anvilInput] := by
    intro location
    rw [arranges.touched]
    exact or_iff_right List.not_mem_nil
  have small : ∀ location ∈ named.touched,
      (named.items context.inventory location).amount ≤ 255 := by
    intro location member
    rw [items]
    unfold Items.put
    split
    · exact (Item.amount_le_count _).trans few
    · next elsewhere =>
        rcases List.mem_pair.1 ((touched location).1 member) with same | same
        · exact absurd same elsewhere
        · rw [if_pos same]
          decide
  have answerable := arranges.answerable spare (Draft.answerable_of_overlay .empty) small
  refine ⟨filled, ⟨answerable.addressed, answerable.held, answerable.small⟩, items, ?_, touched,
    arranges.usable, ?_⟩
  · intro location
    have held := arranges.holds location
    exact held.trans (or_iff_right Bool.false_ne_true)
  · intro location
    change (if location = source then _ else named.expectation? location) = _
    rw [arranges.expectation]

namespace Draft.Renames

variable (renames : draft.Renames context source name expectation)

include renames in
theorem item_source : draft.items context.inventory source =
    (context.inventory.itemOrEmpty source).renamed name := by
  rw [renames.items]
  exact if_pos rfl

include renames in
theorem isEmpty_of_ne {location : Location} (differs : location ≠ source)
    (free : (context.inventory.itemOrEmpty location).isEmpty) :
    (draft.items context.inventory location).isEmpty := by
  rw [renames.items, Items.put_of_ne differs]
  unfold Items.put
  split
  · rfl
  · exact free

end Draft.Renames

end Renaming

section Chaining

variable {context : Context} {requestId : Int32} {draft after : Draft} {source target : Location}
  {count : UInt8}

/-- A whole stack that is moved into an empty slot arrives there as it was predicted, if nothing
was declared about that slot. -/
theorem move_absorbs {response : StackResponse} (spare : context.overrides.SparePlayer)
    (moved : move context requestId source target count draft = .ok ((), after))
    (answerable : draft.Answerable context) (differs : source ≠ target)
    (free : (draft.items context.inventory target).isEmpty)
    (whole : (draft.items context.inventory source).count.toNat ≤ count.toNat)
    (undeclared : draft.expectation? target = none)
    (answered : AnswersFaithfully context.overrides context.opened (after.finish requestId)
      response) (current : Inventory) :
    (((after.finish requestId).absorb current response).item? target).map Item.unstacked =
      some (draft.items context.inventory source).acknowledged := by
  have arranges := move_arranges moved
  have items : after.items context.inventory =
      Operation.effect (.move source target count) (draft.items context.inventory) :=
    arranges.items
  have few := Item.amount_le_of_counted whole
  have small : ∀ location ∈ after.touched,
      (after.items context.inventory location).amount ≤ 255 := by
    intro location touched
    rw [items]
    by_cases named : location ∈ [source, target]
    · exact Operation.amount_move_le differs free few named
    · rw [Operation.effect_elsewhere _ named]
      exact answerable.small location (((arranges.touched location).1 touched).resolve_right named)
  have wrote := (arranges.answerable spare answerable small).absorbs answered current
  have touched : target ∈ after.touched := (arranges.touched target).2 (Or.inr (by simp))
  rw [wrote.items, if_pos touched, arranges.expectation, undeclared, Option.getD_none,
    Expectation.applied_default, items, Operation.acknowledged_move differs free whole]

/-- A renamed stack is moved on in the same request, or in the next one of the same packet. -/
theorem Draft.Renames.move_absorbs {name : String} {expectation : Expectation} {start : Draft}
    {response : StackResponse} (renames : draft.Renames context source name expectation)
    (spare : context.overrides.SparePlayer)
    (begins : start = draft ∨ start = { overlay := draft.overlay })
    (moved : move context requestId source target count start = .ok ((), after))
    (differs : target ≠ source) (free : (context.inventory.itemOrEmpty target).isEmpty)
    (whole : (context.inventory.itemOrEmpty source).count.toNat ≤ count.toNat)
    (answered : AnswersFaithfully context.overrides context.opened (after.finish requestId)
      response) (current : Inventory) :
    Usable context draft.overlay target ∧
      (((after.finish requestId).absorb current response).item? target).map Item.unstacked =
        some ((context.inventory.itemOrEmpty source).renamed name).acknowledged := by
  have undeclared : draft.expectation? target = none := by
    rw [renames.expectation, if_neg differs]
  have next : start.Answerable context ∧ start.overlay = draft.overlay ∧
      start.expectation? target = none := by
    rcases begins with rfl | rfl
    · exact ⟨renames.answerable, rfl, undeclared⟩
    · exact ⟨answerable_of_overlay draft.overlay, rfl, rfl⟩
  obtain ⟨answerable, overlay, nothing⟩ := next
  have items : start.items context.inventory = draft.items context.inventory :=
    congrArg (fun overlay => overlay.itemAt context.inventory) overlay
  have bare : (start.items context.inventory target).isEmpty := by
    rw [items]
    exact renames.isEmpty_of_ne differs free
  have carried : start.items context.inventory source =
      (context.inventory.itemOrEmpty source).renamed name := by
    rw [items]
    exact renames.item_source
  have counted : (start.items context.inventory source).count.toNat ≤ count.toNat := by
    rw [carried]
    exact whole
  have arrives := Compile.move_absorbs spare moved answerable differs.symm bare counted nothing
    answered current
  constructor
  · rw [← overlay]
    exact (move_arranges moved).usable target (by simp)
  · rw [arrives, carried]

/-- Two operations share a request, or each has its own. Either way the second one goes on from
the items that the first one left. -/
theorem groups_pair {policy : GroupingPolicy} {overlay : Overlay} {first second : Operation}
    {compiled : List CompiledRequest} {free : Int32}
    (succeeds : groups context requestId overlay (policy.group [first, second]) =
      (.ok compiled, free)) :
    ∃ one start lastId two earlier,
      operation context requestId first { overlay } = .ok ((), one) ∧
      (start = one ∨ start = { overlay := one.overlay }) ∧
      operation context lastId second start = .ok ((), two) ∧
      compiled = earlier ++ [two.finish lastId] ∧ earlier.length ≤ 1 := by
  have divided : policy.group [first, second] =
      if policy.isDedicated first.kind || policy.isDedicated second.kind then [[first], [second]]
      else [[first, second]] := rfl
  rw [divided] at succeeds
  split at succeeds
  · obtain ⟨head, between, _, began, rest, rfl⟩ := groups_cons_ok.1 succeeds
    obtain ⟨tail, _, _, ended, nothing, rfl⟩ := groups_cons_ok.1 rest
    obtain ⟨rfl, -⟩ := groups_nil_ok.1 nothing
    obtain ⟨one, ran, rfl, rfl⟩ := group_ok.1 began
    obtain ⟨two, also, rfl, -⟩ := group_ok.1 ended
    obtain ⟨_, performed, stopped⟩ := forM_cons_ok.1 ran
    obtain ⟨_, followed, finished⟩ := forM_cons_ok.1 also
    cases forM_nil_ok.1 stopped
    cases forM_nil_ok.1 finished
    exact ⟨one, _, idAfter requestId, two, [one.finish requestId], performed, Or.inr rfl, followed,
      rfl, Nat.le_refl 1⟩
  · obtain ⟨last, _, _, began, nothing, rfl⟩ := groups_cons_ok.1 succeeds
    obtain ⟨rfl, -⟩ := groups_nil_ok.1 nothing
    obtain ⟨two, ran, rfl, -⟩ := group_ok.1 began
    obtain ⟨one, performed, rest⟩ := forM_cons_ok.1 ran
    obtain ⟨_, followed, finished⟩ := forM_cons_ok.1 rest
    cases forM_nil_ok.1 finished
    exact ⟨one, one, requestId, two, [], performed, Or.inl rfl, followed, rfl, Nat.zero_le 1⟩

end Chaining

end Compile

namespace Engine

variable {τ : Type} {engine : Engine τ} {server : Server} {source target : Location}
  {name : String} {expectation : Expectation} {count : UInt8}

/-- Committed for itself, a renaming leaves what was declared in its slot. -/
theorem exchange_renamed {draft : Compile.Draft} (turn number : Nat)
    (connected : engine.connected)
    (faithful : server.IsFaithful engine.settings.overrides engine.containers.openContainer?)
    (performed : Compile.anvilRename engine.context engine.requests.nextId source name
      (some expectation) { overlay := .empty } = .ok ((), draft))
    (renames : draft.Renames engine.context source name expectation) :
    ∃ requests inventory,
      engine.exchange server turn number [.anvilRename source name (some expectation)] =
        .ok { engine with requests, inventory } ∧
      Wrote (fun location => ((draft.expectation? location).getD {}).applied
        (draft.items engine.inventory location)) draft.touched engine.inventory inventory := by
  have grouped : Compile.group engine.context engine.requests.nextId .empty
      [.anvilRename source name (some expectation)] =
        .ok (draft.finish engine.requests.nextId, draft.overlay) :=
    Compile.group_ok.2
      ⟨draft, Compile.forM_cons_ok.2 ⟨draft, performed, Compile.forM_nil_ok.2 rfl⟩, rfl, rfl⟩
  obtain ⟨middle, succeeds⟩ := compile_alone grouped
  obtain ⟨requests, exchanged⟩ := exchange_absorbs turn number connected
    (fun turn entry => (faithful turn entry).own) succeeds (List.nodup_singleton _)
  exact ⟨requests, _, exchanged, renames.answerable.absorbs
    (faithful turn (draft.finish engine.requests.nextId)) engine.inventory⟩

/-- Committed for itself, a move takes a whole stack as it is now to an empty slot. -/
theorem exchange_moved (turn number : Nat) (spare : engine.settings.overrides.SparePlayer)
    (connected : engine.connected)
    (faithful : server.IsFaithful engine.settings.overrides engine.containers.openContainer?)
    (usable : ∀ location ∈ [source, target], Compile.Usable engine.context .empty location)
    (differs : source ≠ target) (free : (engine.inventory.itemOrEmpty target).isEmpty)
    (whole : (engine.inventory.itemOrEmpty source).count.toNat ≤ count.toNat) :
    ∃ single, engine.exchange server turn number [.move source target count] = .ok single ∧
      (single.inventory.item? target).map Item.unstacked =
        some (engine.inventory.itemOrEmpty source).acknowledged := by
  have few := Item.amount_le_of_counted whole
  have fits : Compile.CountsFit engine.inventory.itemOrEmpty [.move source target count] := by
    intro first beginning location named
    rcases List.prefix_cons_iff.1 beginning with rfl | ⟨rest, rfl, nothing⟩
    · cases named
    · rw [List.prefix_nil.1 nothing] at named ⊢
      exact Operation.amount_move_le differs free few named
  obtain ⟨compiled, middle, succeeds⟩ :=
    @compile_single τ engine (.move source target count) rfl usable
  obtain ⟨requests, inventory, exchanged, settled⟩ := exchange_settled turn number spare connected
    faithful (List.forall_mem_singleton.2 rfl) succeeds (List.nodup_singleton _) fits
  have named : target ∈ Operation.allSlots [.move source target count] := by
    simp [Operation.allSlots, Operation.slots]
  refine ⟨_, exchanged, ?_⟩
  rw [settled.items, if_pos named]
  exact congrArg some (Operation.acknowledged_move differs free whole)

/-- Committed for itself, the move finds the renamed item as it was declared. -/
theorem exchangeEach_renamed_and_moved {draft : Compile.Draft} (turn number : Nat)
    (spare : engine.settings.overrides.SparePlayer) (connected : engine.connected)
    (faithful : server.IsFaithful engine.settings.overrides engine.containers.openContainer?)
    (performed : Compile.anvilRename engine.context engine.requests.nextId source name
      (some expectation) { overlay := .empty } = .ok ((), draft))
    (renames : draft.Renames engine.context source name expectation)
    (usable : Compile.Usable engine.context draft.overlay target)
    (differs : target ≠ source) (free : (engine.inventory.itemOrEmpty target).isEmpty)
    (whole : (engine.inventory.itemOrEmpty source).count.toNat ≤ count.toNat) :
    ∃ single,
      exchangeEach server turn number engine
        [.anvilRename source name (some expectation), .move source target count] = .ok single ∧
      (single.inventory.item? target).map Item.unstacked =
        some (expectation.applied
          ((engine.inventory.itemOrEmpty source).renamed name)).acknowledged := by
  obtain ⟨requests, inventory, first, wrote⟩ :=
    exchange_renamed turn number connected faithful performed renames
  have touched : source ∈ draft.touched := (renames.touched source).2 (by simp)
  have declared : (inventory.itemOrEmpty source).unstacked =
      expectation.applied ((engine.inventory.itemOrEmpty source).renamed name) := by
    rw [wrote.itemOrEmpty, if_pos touched, renames.expectation, if_pos rfl]
    exact congrArg expectation.applied renames.item_source
  have bare : (inventory.itemOrEmpty target).isEmpty := by
    have now := wrote.itemOrEmpty target
    rw [renames.expectation, if_neg differs, Option.getD_none, Expectation.applied_default] at now
    change (inventory.itemOrEmpty target).unstacked.isEmpty
    rw [now]
    split
    · exact ((draft.items engine.inventory target).isEmpty_acknowledged).trans
        (renames.isEmpty_of_ne differs free)
    · exact free
  have counted : (inventory.itemOrEmpty source).count.toNat ≤ count.toNat := by
    change (inventory.itemOrEmpty source).unstacked.count.toNat ≤ _
    have filled : ((engine.inventory.itemOrEmpty source).renamed name).isEmpty = false :=
      renames.filled
    rw [declared, expectation.applied_of_filled filled]
    exact whole
  have usableNow : ∀ location ∈ [source, target],
      Compile.Usable ({ engine with requests, inventory } : Engine τ).context .empty location := by
    intro location member
    rcases List.mem_pair.1 member with rfl | rfl
    · refine ⟨(renames.usable location (by simp)).1, Compile.available_iff.2 ?_⟩
      exact Or.inr (Or.inl ((wrote.knows location.window).2 (Or.inr ⟨location, touched, rfl⟩)))
    · refine ⟨usable.1, Compile.available_iff.2 (Or.inr ?_)⟩
      rcases Compile.available_iff.1 usable.2 with held | known | ui
      · rcases List.mem_pair.1 ((renames.holds location).1 held) with same | same
        · exact absurd same differs
        · exact Or.inr (congrArg Location.window same)
      · exact Or.inl ((wrote.knows location.window).2 (Or.inl known))
      · exact Or.inr ui
  obtain ⟨single, second, arrived⟩ := @exchange_moved τ { engine with requests, inventory } server
    source target count (turn + 1) (number + 1) spare connected faithful usableNow differs.symm
    bare counted
  refine ⟨single, ?_, ?_⟩
  · unfold exchangeEach
    rw [first]
    change exchangeEach server (turn + 1) (number + 1) { engine with requests, inventory } _ = _
    unfold exchangeEach
    rw [second]
    rfl
  · rw [arrived]
    change some (inventory.itemOrEmpty source).acknowledged = _
    rw [← declared, Item.acknowledged_unstacked]

/-- A stack that is renamed in the anvil and moved on in the same transaction arrives without what
was declared about it. Moved on in a transaction of its own, it arrives as it was declared. -/
theorem batched_move_leaves_declaration_behind {engine middle : Engine τ} {server other : Server}
    {source target : Location} {name : String} {expectation : Expectation} {count : UInt8}
    {compiled : List CompiledRequest} (turn number otherTurn otherNumber : Nat)
    (spare : engine.settings.overrides.SparePlayer) (connected : engine.connected)
    (faithful : server.IsFaithful engine.settings.overrides engine.containers.openContainer?)
    (otherFaithful : other.IsFaithful engine.settings.overrides engine.containers.openContainer?)
    (succeeds : engine.compile
      [.anvilRename source name (some expectation), .move source target count] =
        (.ok compiled, middle))
    (whole : (engine.inventory.itemOrEmpty source).count.toNat ≤ count.toNat)
    (bare : (engine.inventory.itemOrEmpty UiSlot.anvilInput).isEmpty)
    (free : (engine.inventory.itemOrEmpty target).isEmpty) :
    ∃ batch single,
      exchange server turn number engine
          [.anvilRename source name (some expectation), .move source target count] = .ok batch ∧
        exchangeEach other otherTurn otherNumber engine
          [.anvilRename source name (some expectation), .move source target count] = .ok single ∧
        (batch.inventory.item? target).map Item.unstacked =
          some ((engine.inventory.itemOrEmpty source).renamed name).acknowledged ∧
        (single.inventory.item? target).map Item.unstacked =
          some (expectation.applied
            ((engine.inventory.itemOrEmpty source).renamed name)).acknowledged := by
  obtain ⟨last, reached, -⟩ := compile_ok.1 succeeds
  obtain ⟨one, start, lastId, two, earlier, performed, begins, moved, rfl, short⟩ :=
    Compile.groups_pair reached
  have few : (engine.inventory.itemOrEmpty source).count.toNat ≤ 255 := by
    have room := count.toNat_lt
    omega
  have renames := @Compile.anvilRename_renames engine.context engine.requests.nextId one source
    name expectation () spare performed few bare
  have differs : target ≠ source := (Items.ne_of_isEmpty renames.filled free).symm
  have pair : (earlier ++ [two.finish lastId]).length ≤ 2 ^ 31 := by
    rw [List.length_append, List.length_singleton]
    omega
  obtain ⟨requests, exchanged⟩ := exchange_absorbs turn number connected
    (fun turn entry => (faithful turn entry).own) succeeds (requestIds_nodup succeeds pair)
  obtain ⟨between, absorbed⟩ := server.absorbAll_append turn earlier (two.finish lastId)
    engine.inventory
  obtain ⟨usable, arrived⟩ := renames.move_absorbs spare begins moved differs free whole
    (faithful (turn + earlier.length) (two.finish lastId)) between
  obtain ⟨single, singly, declared⟩ := exchangeEach_renamed_and_moved otherTurn otherNumber spare
    connected otherFaithful performed renames usable differs free whole
  refine ⟨_, single, exchanged, singly, ?_, declared⟩
  rw [absorbed]
  exact arrived

/-- A tool beside the open anvil, and a free slot. -/
def smithing : Engine Unit where
  inventory := (Inventory.empty.set ⟨0, 9⟩ { typeId := 307, count := 1, stackId := 7 }).set
    ⟨0, 10⟩ .empty
  containers := { state := .opened ⟨5, ContainerType.anvil, default, -1⟩ }

/-- The caller knows which tool comes out of the anvil, and what it costs to repair. -/
def smithingQueue : List Operation :=
  [.anvilRename ⟨0, 9⟩ "Foo" (some { typeId := some 308, repairCostDelta := some 2 }),
    .move ⟨0, 9⟩ ⟨0, 10⟩ 1]

theorem smithing_leaves_declaration_behind :
    ∃ batch single,
      exchange (slotwiseServer [] smithing.containers.openContainer?) 0 0 smithing smithingQueue =
          .ok batch ∧
        exchangeEach (slotwiseServer [] smithing.containers.openContainer?) 5 0 smithing
          smithingQueue = .ok single ∧
        (batch.inventory.item? ⟨0, 10⟩).map Item.unstacked =
          some (({ typeId := 307, count := 1, stackId := 7 } : Item).renamed "Foo").acknowledged ∧
        (single.inventory.item? ⟨0, 10⟩).map Item.unstacked =
          some (({ typeId := some 308, repairCostDelta := some 2 } : Expectation).applied
            (({ typeId := 307, count := 1, stackId := 7 } : Item).renamed "Foo")).acknowledged := by
  have compiles : smithing.compile smithingQueue =
      (.ok (smithing.requestsFor smithingQueue), (smithing.compile smithingQueue).2) :=
    compile_requestsFor (by decide +kernel)
  exact batched_move_leaves_declaration_behind 0 0 5 0 RoleOverrides.sparePlayer_nil rfl
    (slotwiseServer_isFaithful _ _) (slotwiseServer_isFaithful _ _) compiles
    (by decide +kernel) (by decide +kernel) (by decide +kernel)

/-- Type and repair cost of the tool, moved on in one transaction and in two. -/
theorem smithing_depends_on_batching :
    ((exchange (slotwiseServer [] smithing.containers.openContainer?) 0 0 smithing
        smithingQueue).toOption.bind fun batch =>
          (batch.inventory.item? ⟨0, 10⟩).map fun item =>
            (item.typeId, repairCost item.userData)) = some (307, 0) ∧
      ((exchangeEach (slotwiseServer [] smithing.containers.openContainer?) 0 0 smithing
        smithingQueue).toOption.bind fun single =>
          (single.inventory.item? ⟨0, 10⟩).map fun item =>
            (item.typeId, repairCost item.userData)) = some (308, 2) := by
  decide +kernel

end Engine

end InventorySync
