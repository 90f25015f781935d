import InventorySync.Proofs.Rearranging
import InventorySync.Proofs.Twins

/-!
The draft of a group beside one draft of everything. The run of a single group starts
with an empty draft after some requests were finished; the other run goes on with one
draft. Request ids differ between the two, and so do all numbers that follow from them.
Each step fails in both for the same reason, or does the same work in both.
-/

namespace InventorySync

set_option autoImplicit false

/-- The reference without the name of the stack. -/
def SlotRef.anonymous (reference : SlotRef) : SlotRef := { reference with stackId := 0 }

/-- The action without the names of stacks, and without the place of its filter string among
those of the request. -/
def StackAction.anonymous : StackAction → StackAction
  | .take count source target => .take count source.anonymous target.anonymous
  | .place count source target => .place count source.anonymous target.anonymous
  | .swap source target => .swap source.anonymous target.anonymous
  | .drop count source randomly => .drop count source.anonymous randomly
  | .destroy count source => .destroy count source.anonymous
  | .consume count source => .consume count source.anonymous
  | .craftRecipeOptional recipe _ => .craftRecipeOptional recipe 0
  | other => other

def packetActions (compiled : List CompiledRequest) : List StackAction :=
  compiled.flatMap fun entry => entry.request.actions

def packetFilterStrings (compiled : List CompiledRequest) : List String :=
  compiled.flatMap fun entry => entry.request.filterStrings

/-- The prediction of the last request that has one for a slot. -/
def lastPrediction? (compiled : List CompiledRequest) (location : Location) : Option Prediction :=
  compiled.reverse.findSome? fun entry => entry.predictions.find? location

theorem lastPrediction?_append_single (compiled : List CompiledRequest) (entry : CompiledRequest)
    (location : Location) :
    lastPrediction? (compiled ++ [entry]) location =
      (entry.predictions.find? location <|> lastPrediction? compiled location) := by
  unfold lastPrediction?
  rw [List.reverse_append, List.reverse_singleton, List.singleton_append, List.findSome?_cons]
  cases entry.predictions.find? location <;> rfl

namespace Compile

/-- The draft of a group beside the draft of everything. What the requests of the packet and
the draft of the group have of the work is what the other draft has of it. -/
structure Alike (inventory : Inventory) (packet : List CompiledRequest) (named : List Location)
    (draft whole : Draft) : Prop where
  items : draft.overlay.itemAt inventory = whole.overlay.itemAt inventory
  holds : draft.overlay.holds = whole.overlay.holds
  actions : (packetActions packet ++ draft.actions).map StackAction.anonymous =
    whole.actions.map StackAction.anonymous
  filterStrings : packetFilterStrings packet ++ draft.filterStrings = whole.filterStrings
  touched : ∀ location ∈ draft.touched,
    location ∈ whole.touched ∧ draft.overlay.holds location
  /-- A slot that the group leaves alone is still as it was last predicted. -/
  predicted : ∀ location, location ∉ draft.touched →
    (lastPrediction? packet location).map Prediction.template =
      if location ∈ whole.touched then some (some (whole.overlay.itemAt inventory location))
      else none
  named : ∀ location ∈ named, location ∈ draft.touched

/-- The two actions fail for the same reason, or they do the same work. Slots that were named
before may be changed; more are named afterwards. -/
abbrev Parallel {α : Type} (inventory : Inventory) (packet : List CompiledRequest)
    (named : List Location) (related : α → α → Prop) (others : List Location)
    (left right : Action α) : Prop :=
  Coupled (Alike inventory packet named) (Alike inventory packet others) related left right

theorem Alike.forget {inventory : Inventory} {packet : List CompiledRequest}
    {named others : List Location} (fewer : ∀ location ∈ others, location ∈ named)
    (draft whole : Draft) (alike : Alike inventory packet named draft whole) :
    Alike inventory packet others draft whole :=
  { alike with named := fun location member => alike.named location (fewer location member) }

section Steps

variable {inventory : Inventory} {packet : List CompiledRequest} {named : List Location}

theorem emit_parallel {left right : StackAction} (same : left.anonymous = right.anonymous) :
    Parallel inventory packet named Eq named (emit left) (emit right) := by
  apply Coupled.modify
  intro draft whole alike
  refine { alike with actions := ?_ }
  change (_ ++ (draft.actions ++ [left])).map _ = (whole.actions ++ [right]).map _
  rw [← List.append_assoc, List.map_append, alike.actions, List.map_append, List.map_singleton,
    List.map_singleton, same]

theorem declare_parallel (location : Location) (expectation : Expectation) :
    Parallel inventory packet named Eq named (declare location expectation)
      (declare location expectation) :=
  Coupled.modify fun _ _ alike => { alike with }

theorem Alike.available {draft whole : Draft} (alike : Alike inventory packet named draft whole)
    (location : Location) : draft.overlay.available inventory location =
      whole.overlay.available inventory location := by
  rw [Bool.eq_iff_iff, available_iff, available_iff, alike.holds]

/-- A slot is changed in both drafts. If the group did not name it, its item has to stay. -/
theorem Alike.setSlot {draft whole : Draft} {location : Location} {slot other : PredictedSlot}
    (alike : Alike inventory packet named draft whole) (same : slot.item = other.item)
    (allowed : location ∈ named ∨ slot.item = draft.overlay.itemAt inventory location) :
    Alike inventory packet named { draft with overlay := draft.overlay.setSlot location slot }
      { whole with overlay := whole.overlay.setSlot location other } := by
  have items : (draft.overlay.setSlot location slot).itemAt inventory =
      (whole.overlay.setSlot location other).itemAt inventory := by
    funext third
    unfold Overlay.itemAt
    rw [Overlay.slotAt_setSlot, Overlay.slotAt_setSlot]
    split
    · exact same
    · exact congrFun alike.items third
  refine { alike with items := items, holds := ?_, touched := ?_, predicted := ?_ }
  · funext third
    rw [Overlay.holds_setSlot, Overlay.holds_setSlot, alike.holds]
  · intro third touched
    obtain ⟨listed, held⟩ := alike.touched third touched
    refine ⟨listed, ?_⟩
    rw [Overlay.holds_setSlot, held, Bool.or_true]
  · intro third untouched
    have kept : (draft.overlay.setSlot location slot).itemAt inventory third =
        draft.overlay.itemAt inventory third := by
      unfold Overlay.itemAt
      rw [Overlay.slotAt_setSlot]
      split
      · next here =>
          subst here
          exact allowed.resolve_left fun member => untouched (alike.named third member)
      · rfl
    rw [alike.predicted third untouched, ← items, kept, alike.items]

/-- What is done to a slot goes by its item, and leaves the item of a slot that was not named. -/
theorem use_parallel {α : Type} {location : Location} {change : PredictedSlot → α × PredictedSlot}
    (same : ∀ one two : PredictedSlot, one.item = two.item →
      (change one).1 = (change two).1 ∧ (change one).2.item = (change two).2.item)
    (allowed : location ∈ named ∨ ∀ slot, (change slot).2.item = slot.item) :
    Parallel inventory packet named Eq named
      (onOverlay (Overlay.use inventory location change))
      (onOverlay (Overlay.use inventory location change)) := by
  intro draft whole alike
  unfold onOverlay Overlay.use
  rw [Overlay.find_eq, Overlay.find_eq, alike.available]
  by_cases known : whole.overlay.available inventory location
  · rw [if_pos known, if_pos known]
    obtain ⟨answers, items⟩ := same (draft.overlay.slotAt inventory location)
      (whole.overlay.slotAt inventory location) (congrFun alike.items location)
    exact .ok ⟨answers, alike.setSlot items (allowed.imp_right fun keeps => keeps _)⟩
  · rw [if_neg known, if_neg known]
    exact .error _

theorem item_parallel (location : Location) :
    Parallel inventory packet named Eq named (onOverlay (Overlay.item inventory location))
      (onOverlay (Overlay.item inventory location)) :=
  use_parallel (fun _ _ same => ⟨same, same⟩) (Or.inr fun _ => rfl)

theorem write_parallel {location : Location} (here : location ∈ named) (item : Item) :
    Parallel inventory packet named Eq named (onOverlay (Overlay.write inventory location item))
      (onOverlay (Overlay.write inventory location item)) :=
  use_parallel (fun _ _ _ => ⟨rfl, rfl⟩) (Or.inl here)

theorem take_parallel {location : Location} (here : location ∈ named) (count : UInt8) :
    Parallel inventory packet named Eq named (onOverlay (Overlay.take inventory location count))
      (onOverlay (Overlay.take inventory location count)) := by
  refine use_parallel (fun one two same => ?_) (Or.inl here)
  simp only [same, and_self]

theorem place_parallel {location : Location} (here : location ∈ named) (item : Item) :
    Parallel inventory packet named Eq named (onOverlay (Overlay.place inventory location item))
      (onOverlay (Overlay.place inventory location item)) := by
  refine use_parallel (fun one two same => ?_) (Or.inl here)
  simp only [same, and_self]

theorem transfer_parallel {source target : Location} (fromHere : source ∈ named)
    (toHere : target ∈ named) (count : UInt8) :
    Parallel inventory packet named Eq named
      (onOverlay (Overlay.transfer inventory source target count))
      (onOverlay (Overlay.transfer inventory source target count)) := by
  unfold Overlay.transfer
  rw [onOverlay_bind]
  refine (take_parallel fromHere count).bind fun taken other same => ?_
  subst same
  exact place_parallel toHere taken

theorem swap_parallel {first second : Location} (here : first ∈ named) (there : second ∈ named) :
    Parallel inventory packet named Eq named (onOverlay (Overlay.swap inventory first second))
      (onOverlay (Overlay.swap inventory first second)) := by
  unfold Overlay.swap
  simp only [onOverlay_bind]
  refine (item_parallel first).bind fun firstItem other same => ?_
  subst same
  refine (item_parallel second).bind fun secondItem other same => ?_
  subst same
  exact (write_parallel here secondItem).bind fun _ _ _ => write_parallel there firstItem

end Steps

section Operations

variable {context : Context} {requestId other : Int32} {packet : List CompiledRequest}
  {named : List Location}

theorem Alike.naming {draft whole : Draft} (location : Location) (role : Role)
    (alike : Alike context.inventory packet named draft whole) :
    Alike context.inventory packet (location :: named)
      (draft.naming context.inventory requestId location role)
      (whole.naming context.inventory other location role) := by
  have marked := @Alike.setSlot _ _ _ draft whole location
    { draft.overlay.slotAt context.inventory location with stackId := requestId }
    { whole.overlay.slotAt context.inventory location with stackId := other }
    alike (congrFun alike.items location) (Or.inr rfl)
  refine { marked with touched := ?_, predicted := ?_, named := ?_ }
  · intro third touched
    rcases Location.mem_insertInto.1 touched with same | before
    · refine ⟨Location.mem_insertInto.2 (Or.inl same), ?_⟩
      change (Overlay.setSlot _ _ _).holds third = true
      rw [Overlay.holds_setSlot, same, decide_eq_true rfl, Bool.true_or]
    · obtain ⟨listed, held⟩ := marked.touched third before
      exact ⟨Location.mem_insertInto.2 (Or.inr listed), held⟩
  · intro third untouched
    obtain ⟨differs, before⟩ := not_or.1 fun found => untouched (Location.mem_insertInto.2 found)
    have listed : third ∈ location.insertInto whole.touched ↔ third ∈ whole.touched :=
      Location.mem_insertInto.trans (or_iff_right differs)
    refine (marked.predicted third before).trans ?_
    change (if third ∈ whole.touched then _ else _) =
      if third ∈ location.insertInto whole.touched then _ else _
    simp only [listed]
    rfl
  · intro third member
    rcases List.mem_cons.1 member with same | before
    · exact Location.mem_insertInto.2 (Or.inl same)
    · exact Location.mem_insertInto.2 (Or.inr (alike.named third before))

theorem refer_parallel (location : Location) :
    Parallel context.inventory packet named (fun left right => left.anonymous = right.anonymous)
      (location :: named) (refer context requestId location) (refer context other location) := by
  intro draft whole alike
  rw [refer_eq, refer_eq, alike.available]
  cases Role.resolve context.overrides context.opened location with
  | error failure => exact .error failure
  | ok role =>
      by_cases known : whole.overlay.available context.inventory location
      · simp only [if_pos known]
        exact .ok ⟨rfl, alike.naming location role⟩
      · simp only [if_neg known]
        exact .error _

theorem referOutput_parallel :
    Parallel context.inventory packet named (fun left right => left.anonymous = right.anonymous)
      named (referOutput requestId) (referOutput other) := by
  unfold referOutput
  refine (Coupled.modify fun draft whole alike => ?_).bind fun _ _ _ => .pure rfl
  exact { alike with }

theorem itemOf_parallel (location : Location) :
    Parallel context.inventory packet named Eq named (itemOf context location)
      (itemOf context location) := by
  unfold itemOf
  refine (item_parallel location).bind fun item other same => ?_
  subst same
  cases item.isEmpty with
  | true => exact (Coupled.throw _).bind fun _ _ _ => .pure rfl
  | false => exact .pure rfl

/-- An action on slots that were named under references of the same kind. -/
theorem emit_place_parallel {source otherSource target otherTarget : SlotRef} (count : UInt8)
    (sameSource : source.anonymous = otherSource.anonymous)
    (sameTarget : target.anonymous = otherTarget.anonymous) :
    Parallel context.inventory packet named Eq named (emit (.place count source target))
      (emit (.place count otherSource otherTarget)) := by
  apply emit_parallel
  simp only [StackAction.anonymous, sameSource, sameTarget]

theorem move_parallel (source target : Location) (count : UInt8) :
    Parallel context.inventory packet named Eq named
      (move context requestId source target count) (move context other source target count) := by
  unfold move
  refine (refer_parallel source).bind fun sourceRef otherSource sameSource => ?_
  refine (refer_parallel target).bind fun targetRef otherTarget sameTarget => ?_
  refine (emit_place_parallel count sameSource sameTarget).bind fun _ _ _ => ?_
  exact (transfer_parallel (by simp) (by simp) count).weaken (Alike.forget (by simp_all))

theorem swap_slots_parallel (first second : Location) :
    Parallel context.inventory packet named Eq named
      (swap context requestId first second) (swap context other first second) := by
  unfold swap
  refine (refer_parallel first).bind fun firstRef otherFirst sameFirst => ?_
  refine (refer_parallel second).bind fun secondRef otherSecond sameSecond => ?_
  have action : (StackAction.swap firstRef secondRef).anonymous =
      (StackAction.swap otherFirst otherSecond).anonymous := by
    simp only [StackAction.anonymous, sameFirst, sameSecond]
  refine (emit_parallel action).bind fun _ _ _ => ?_
  exact (swap_parallel (by simp) (by simp)).weaken (Alike.forget (by simp_all))

theorem drop_parallel (source : Location) (count : UInt8) :
    Parallel context.inventory packet named Eq named
      (drop context requestId source count) (drop context other source count) := by
  unfold drop
  refine (refer_parallel source).bind fun sourceRef otherSource same => ?_
  have action : (StackAction.drop count sourceRef context.dropRandomly).anonymous =
      (StackAction.drop count otherSource context.dropRandomly).anonymous := by
    simp only [StackAction.anonymous, same]
  refine (emit_parallel action).bind fun _ _ _ => ?_
  have taken : Parallel context.inventory packet (source :: named) Eq named
      (onOverlay (Overlay.take context.inventory source count))
      (onOverlay (Overlay.take context.inventory source count)) :=
    (take_parallel (by simp) count).weaken (Alike.forget (by simp_all))
  exact taken.bind fun _ _ _ => .pure rfl

theorem consume_parallel (location : Location) (count : UInt8) :
    Parallel context.inventory packet named Eq named
      (consume context requestId location count) (consume context other location count) := by
  unfold consume
  refine (refer_parallel location).bind fun reference otherReference same => ?_
  have action : (StackAction.consume count reference).anonymous =
      (StackAction.consume count otherReference).anonymous := by
    simp only [StackAction.anonymous, same]
  refine (emit_parallel action).bind fun _ _ _ => ?_
  exact (take_parallel (by simp) count).weaken (Alike.forget (by simp_all))

theorem placeOutput_parallel (item : Item) (target : Location) (count : UInt8) :
    Parallel context.inventory packet named Eq named
      (placeOutput context requestId item target count)
      (placeOutput context other item target count) := by
  unfold placeOutput
  refine referOutput_parallel.bind fun sourceRef otherSource sameSource => ?_
  refine (refer_parallel target).bind fun targetRef otherTarget sameTarget => ?_
  refine (emit_place_parallel count sameSource sameTarget).bind fun _ _ _ => ?_
  exact (place_parallel (by simp) item).weaken (Alike.forget (by simp_all))

/-- Under any two request ids, the steps that operations are put together from do the same
work. -/
theorem stepsTwin_alike :
    StepsTwin context requestId other (Alike context.inventory packet named) where
  move := move_parallel
  swap := swap_slots_parallel
  drop := drop_parallel
  consume := consume_parallel
  placeOutput := placeOutput_parallel
  itemOf := itemOf_parallel
  craft := fun _ _ => emit_parallel rfl
  craftNamed := fun _ _ _ => emit_parallel rfl
  declare := declare_parallel
  rename := by
    intro name
    refine Coupled.modify fun draft whole alike => { alike with filterStrings := ?_ }
    change _ ++ (draft.filterStrings ++ [name]) = whole.filterStrings ++ [name]
    rw [← List.append_assoc, alike.filterStrings]

end Operations

end Compile

end InventorySync
