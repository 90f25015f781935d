import InventorySync.Proofs.Rearranging

/-!
Invariants of a draft. The six operations are put together from a few steps: slots are
named, an action is written down and the overlay follows it; apart from that, items are
looked at, crafting actions without slots are written down, and expectations and names
are noted. What each of these steps keeps, the operations keep.
-/

namespace InventorySync.Compile

set_option autoImplicit false

section Logic

variable {α β : Type} {invariant : Draft → Prop}

/-- If the action succeeds, what held of the draft before holds of it afterwards. -/
def Keeps (invariant : Draft → Prop) (action : Action α) : Prop :=
  ∀ draft answer after, action draft = .ok (answer, after) → invariant draft → invariant after

theorem Keeps.bind {first : Action α} {next : α → Action β} (head : Keeps invariant first)
    (tail : ∀ answer, Keeps invariant (next answer)) : Keeps invariant (first >>= next) := by
  intro draft answer after ran held
  obtain ⟨middle, between, began, ended⟩ := bind_ok.1 ran
  exact tail middle between answer after ended (head draft middle between began held)

theorem Keeps.pure (answer : α) : Keeps invariant (pure answer) := by
  intro draft other after ran held
  obtain ⟨-, rfl⟩ := pure_ok.1 ran
  exact held

theorem Keeps.lift (result : Except SyncError α) : Keeps invariant (liftM result) := by
  intro draft answer after ran held
  obtain ⟨-, rfl⟩ := lift_ok.1 ran
  exact held

theorem Keeps.get : Keeps invariant get := by
  intro draft answer after ran held
  obtain ⟨-, rfl⟩ := get_ok.1 ran
  exact held

theorem Keeps.modify {change : Draft → Draft}
    (keeps : ∀ draft, invariant draft → invariant (change draft)) :
    Keeps invariant (modify change) := by
  intro draft answer after ran held
  rw [← modify_ok.1 ran]
  exact keeps draft held

end Logic

/-- An invariant of each step that operations are put together from, renamings apart. -/
structure PlainStepsKeep (context : Context) (requestId : Int32) (invariant : Draft → Prop) :
    Prop where
  move : ∀ source target count, Keeps invariant (move context requestId source target count)
  swap : ∀ first second, Keeps invariant (swap context requestId first second)
  drop : ∀ source count, Keeps invariant (drop context requestId source count)
  consume : ∀ location count, Keeps invariant (consume context requestId location count)
  placeOutput : ∀ item target count,
    Keeps invariant (placeOutput context requestId item target count)
  itemOf : ∀ location, Keeps invariant (itemOf context location)
  craftCreative : ∀ entry, Keeps invariant (emit (.craftCreative entry))
  craftLoom : ∀ pattern, Keeps invariant (emit (.craftLoom pattern))
  declare : ∀ location expectation, Keeps invariant (declare location expectation)

/-- An invariant of each step that operations are put together from. -/
structure StepsKeep (context : Context) (requestId : Int32) (invariant : Draft → Prop) : Prop
    extends PlainStepsKeep context requestId invariant where
  craft : ∀ action : StackAction, action.references = [] → Keeps invariant (emit action)
  rename : ∀ name, Keeps invariant (modify fun draft : Draft =>
    { draft with
      filterStrings := draft.filterStrings ++ [name]
      filterCause := FilterCause.anvilText })
  craftCreative entry := craft (.craftCreative entry) rfl
  craftLoom pattern := craft (.craftLoom pattern) rfl

section Operations

variable {context : Context} {requestId : Int32} {invariant : Draft → Prop}
  (plain : PlainStepsKeep context requestId invariant)
  (steps : StepsKeep context requestId invariant)

include plain in
theorem creativeFetch_keeps (source : CreativeSource) (target : Location) (count : UInt8)
    (expectation : Option Expectation) :
    Keeps invariant (creativeFetch context requestId source target count expectation) :=
  (Keeps.lift _).bind fun _ => (plain.craftCreative _).bind fun _ => (plain.declare target _).bind
    fun _ => plain.placeOutput _ target count

include steps in
theorem anvilRename_keeps (location : Location) (name : String)
    (expectation : Option Expectation) :
    Keeps invariant (anvilRename context requestId location name expectation) := by
  refine (Keeps.lift _).bind fun _ => ?_
  refine (steps.itemOf location).bind fun _ => ?_
  refine (steps.move location UiSlot.anvilInput _).bind fun _ => ?_
  refine Keeps.get.bind fun _ => ?_
  refine (steps.craft _ rfl).bind fun _ => ?_
  refine (steps.rename name).bind fun _ => ?_
  refine (steps.consume UiSlot.anvilInput _).bind fun _ => ?_
  refine (steps.placeOutput _ location _).bind fun _ => ?_
  cases expectation with
  | none => exact Keeps.pure ()
  | some expected => exact steps.declare location expected

include plain in
theorem loomCombine_keeps (pattern : String) (patternItem : Option Location)
    (banner dye : Location) (expectation : Expectation) :
    Keeps invariant
      (loomCombine context requestId pattern patternItem banner dye expectation) := by
  -- What follows once everything is in the loom, whether a pattern item lies there or not.
  have worked {next : Action Unit} (rest : Keeps invariant next) :
      Keeps invariant (do
        emit (.craftLoom pattern)
        let input ← consume context requestId UiSlot.loomInput 1
        let _ ← consume context requestId UiSlot.loomDye 1
        placeOutput context requestId
          { input with userData := expectation.userData <|> input.userData } banner 1
        next) :=
    (plain.craftLoom pattern).bind fun _ => (plain.consume UiSlot.loomInput 1).bind fun _ =>
      (plain.consume UiSlot.loomDye 1).bind fun _ => (plain.placeOutput _ banner 1).bind
        fun _ => rest
  refine (Keeps.lift _).bind fun _ => ?_
  refine (plain.itemOf banner).bind fun _ => ?_
  refine (plain.itemOf dye).bind fun _ => ?_
  refine (plain.move banner UiSlot.loomInput 1).bind fun _ => ?_
  refine (plain.move dye UiSlot.loomDye 1).bind fun _ => ?_
  cases patternItem with
  | none => exact worked (plain.declare banner expectation)
  | some location =>
      refine (plain.itemOf location).bind fun _ => ?_
      refine (plain.move location UiSlot.loomMaterial 1).bind fun _ => ?_
      refine worked ?_
      exact (plain.move UiSlot.loomMaterial location 1).bind fun _ =>
        plain.declare banner expectation

include plain in
theorem plain_operation_keeps {step : Operation} (other : step.kind ≠ .anvilRename) :
    Keeps invariant (operation context requestId step) := by
  cases step with
  | move source target count => exact plain.move source target count
  | swap first second => exact plain.swap first second
  | drop source count => exact plain.drop source count
  | creativeFetch source target count expectation =>
      exact creativeFetch_keeps plain source target count expectation
  | anvilRename => exact absurd rfl other
  | loomCombine pattern patternItem banner dye expectation =>
      exact loomCombine_keeps plain pattern patternItem banner dye expectation

include steps in
theorem operation_keeps (step : Operation) :
    Keeps invariant (operation context requestId step) := by
  by_cases renames : step.kind = .anvilRename
  · cases step with
    | anvilRename location name expectation =>
        exact anvilRename_keeps steps location name expectation
    | _ => cases renames
  · exact plain_operation_keeps steps.toPlainStepsKeep renames

include steps in
theorem forM_keeps (operations : List Operation) :
    Keeps invariant (operations.forM (operation context requestId)) := by
  induction operations with
  | nil => exact Keeps.pure ()
  | cons step later induction => exact (operation_keeps steps step).bind fun _ => induction

end Operations

end InventorySync.Compile
