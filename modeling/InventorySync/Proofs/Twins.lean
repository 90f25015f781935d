import InventorySync.Proofs.Compile

/-!
Two runs of the compiler, step by step. A relation between drafts is kept by two actions
if both fail for the same reason, or both succeed with drafts that are related again. The
operations are put together from a few steps, so a relation that the steps keep under two
request ids is kept by the operations too.
-/

namespace InventorySync

set_option autoImplicit false

/-- Two failures for the same reason, or two answers that belong together. -/
inductive Matches {ε α β : Type} (related : α → β → Prop) : Except ε α → Except ε β → Prop where
  | ok {left : α} {right : β} (same : related left right) : Matches related (.ok left) (.ok right)
  | error (failure : ε) : Matches related (.error failure) (.error failure)

section Matching

variable {ε α β γ : Type} {related : α → β → Prop}

theorem Matches.imp {other : α → β → Prop} {left : Except ε α} {right : Except ε β}
    (same : Matches related left right) (weaker : ∀ one two, related one two → other one two) :
    Matches other left right := by
  cases same with
  | ok same => exact .ok (weaker _ _ same)
  | error failure => exact .error failure

/-- What matches one and the same result belongs together. -/
theorem Matches.join {beside : γ → β → Prop} {left : Except ε α} {middle : Except ε β}
    {right : Except ε γ} (first : Matches related left middle)
    (second : Matches beside right middle) :
    Matches (fun one two => ∃ both, related one both ∧ beside two both) left right := by
  cases first with
  | ok same =>
      cases second with
      | ok other => exact .ok ⟨_, same, other⟩
  | error failure =>
      cases second with
      | error => exact .error failure

end Matching

namespace Compile

section Logic

variable {α β : Type} {before between after : Draft → Draft → Prop}

/-- From drafts that are related, the two actions fail for the same reason, or they end with
answers and drafts that are related. -/
def Coupled (before after : Draft → Draft → Prop) (related : α → α → Prop)
    (left right : Action α) : Prop :=
  ∀ draft other, before draft other →
    Matches (fun one two => related one.1 two.1 ∧ after one.2 two.2) (left draft) (right other)

theorem Coupled.bind {related : α → α → Prop} {beside : β → β → Prop} {left right : Action α}
    {next rest : α → Action β} (first : Coupled before between related left right)
    (later : ∀ one two, related one two → Coupled between after beside (next one) (rest two)) :
    Coupled before after beside (left >>= next) (right >>= rest) := by
  intro draft other kept
  have began := first draft other kept
  change Matches _ (left draft >>= fun (one, draft) => next one draft)
    (right other >>= fun (two, other) => rest two other)
  generalize left draft = one at began ⊢
  generalize right other = two at began ⊢
  cases began with
  | ok began => exact later _ _ began.1 _ _ began.2
  | error failure => exact .error failure

theorem Coupled.weaken {related : α → α → Prop} {left right : Action α}
    (both : Coupled before between related left right)
    (weaker : ∀ draft other, between draft other → after draft other) :
    Coupled before after related left right := by
  intro draft other kept
  refine (both draft other kept).imp ?_
  intro one two ended
  exact ⟨ended.1, weaker _ _ ended.2⟩

theorem Coupled.pure {related : α → α → Prop} {one two : α} (same : related one two) :
    Coupled before before related (pure one) (pure two) :=
  fun _ _ kept => .ok ⟨same, kept⟩

theorem Coupled.throw (failure : SyncError) :
    Coupled before before Eq (throw failure : Action α) (throw failure) :=
  fun _ _ _ => .error failure

theorem Coupled.lift (result : Except SyncError α) :
    Coupled before before Eq (liftM result) (liftM result) := by
  intro draft other kept
  cases result with
  | error failure => exact .error failure
  | ok answer => exact .ok ⟨rfl, kept⟩

theorem Coupled.get : Coupled before before before get get :=
  fun _ _ kept => .ok ⟨kept, kept⟩

theorem Coupled.modify {change alike : Draft → Draft}
    (keeps : ∀ draft other, before draft other → after (change draft) (alike other)) :
    Coupled before after Eq (modify change) (modify alike) :=
  fun draft other kept => .ok ⟨rfl, keeps draft other kept⟩

end Logic

section Steps

variable {context : Context} {requestId other : Int32} {related : Draft → Draft → Prop}

theorem onOverlay_bind {α β : Type} (first : Overlay.Action α) (next : α → Overlay.Action β) :
    onOverlay (first >>= next) = onOverlay first >>= fun answer => onOverlay (next answer) := by
  funext draft
  change onOverlay (first >>= next) draft =
    (onOverlay first draft >>= fun (answer, draft) => onOverlay (next answer) draft)
  unfold onOverlay
  simp only [Bind.bind, ExceptT.bind, ExceptT.mk, StateT.bind]
  rcases first draft.overlay with ⟨failure | answer, overlay⟩
  · rfl
  · rfl

theorem refer_eq (location : Location) (draft : Draft) :
    refer context requestId location draft =
      match Role.resolve context.overrides context.opened location with
      | .error failure => .error failure
      | .ok role =>
          if draft.overlay.available context.inventory location then
            .ok (⟨role, location.slot, draft.overlay.stackIdAt context.inventory location⟩,
              draft.naming context.inventory requestId location role)
          else .error (.missingSlot location) := by
  unfold refer
  cases Role.resolve context.overrides context.opened location with
  | error failure => rfl
  | ok role =>
      change (onOverlay (Overlay.reserve context.inventory location requestId) draft >>= _) = _
      unfold onOverlay Overlay.reserve Overlay.use
      rw [Overlay.find_eq]
      by_cases known : draft.overlay.available context.inventory location
      · rw [if_pos known]
        simp only [if_pos known]
        rfl
      · rw [if_neg known]
        simp only [if_neg known]
        rfl

/-- Both actions keep the relation, and end with the same answer. -/
abbrev Twin {α : Type} (related : Draft → Draft → Prop) (left right : Action α) : Prop :=
  Coupled related related Eq left right

/-- A relation that is kept by each step that operations are put together from. -/
structure StepsTwin (context : Context) (requestId other : Int32)
    (related : Draft → Draft → Prop) : Prop where
  move : ∀ source target count,
    Twin related (move context requestId source target count)
      (move context other source target count)
  swap : ∀ first second,
    Twin related (swap context requestId first second) (swap context other first second)
  drop : ∀ source count,
    Twin related (drop context requestId source count) (drop context other source count)
  consume : ∀ location count,
    Twin related (consume context requestId location count) (consume context other location count)
  placeOutput : ∀ item target count,
    Twin related (placeOutput context requestId item target count)
      (placeOutput context other item target count)
  itemOf : ∀ location, Twin related (itemOf context location) (itemOf context location)
  craft : ∀ action : StackAction, action.references = [] →
    Twin related (emit action) (emit action)
  /-- The place of a name among the filter strings may depend on what else is in the request. -/
  craftNamed : ∀ draft whole, related draft whole →
    Twin related (emit (.craftRecipeOptional 0 (Int32.ofNat draft.filterStrings.length)))
      (emit (.craftRecipeOptional 0 (Int32.ofNat whole.filterStrings.length)))
  declare : ∀ location expectation,
    Twin related (declare location expectation) (declare location expectation)
  rename : ∀ name,
    Twin related
      (modify fun draft : Draft =>
        { draft with
          filterStrings := draft.filterStrings ++ [name]
          filterCause := FilterCause.anvilText })
      (modify fun draft : Draft =>
        { draft with
          filterStrings := draft.filterStrings ++ [name]
          filterCause := FilterCause.anvilText })

end Steps

section Operations

variable {context : Context} {requestId other : Int32} {related : Draft → Draft → Prop}
  (steps : StepsTwin context requestId other related)

include steps in
theorem creativeFetch_twin (source : CreativeSource) (target : Location) (count : UInt8)
    (expectation : Option Expectation) :
    Twin related (creativeFetch context requestId source target count expectation)
      (creativeFetch context other source target count expectation) := by
  unfold creativeFetch
  refine (Coupled.lift _).bind fun entry _ same => ?_
  subst same
  refine (steps.craft _ rfl).bind fun _ _ _ => ?_
  refine (steps.declare target _).bind fun _ _ _ => ?_
  exact steps.placeOutput _ target count

include steps in
theorem anvilRename_twin (location : Location) (name : String)
    (expectation : Option Expectation) :
    Twin related (anvilRename context requestId location name expectation)
      (anvilRename context other location name expectation) := by
  unfold anvilRename
  refine (Coupled.lift _).bind fun _ _ _ => ?_
  refine (steps.itemOf location).bind fun item _ same => ?_
  subst same
  refine (steps.move location UiSlot.anvilInput _).bind fun _ _ _ => ?_
  refine Coupled.get.bind fun draft whole kept => ?_
  refine (steps.craftNamed draft whole kept).bind fun _ _ _ => ?_
  refine (steps.rename name).bind fun _ _ _ => ?_
  refine (steps.consume UiSlot.anvilInput _).bind fun input _ same => ?_
  subst same
  refine (steps.placeOutput _ location _).bind fun _ _ _ => ?_
  cases expectation with
  | none => exact .pure rfl
  | some expected => exact steps.declare location expected

include steps in
theorem loomCombine_twin (pattern : String) (patternItem : Option Location)
    (banner dye : Location) (expectation : Expectation) :
    Twin related (loomCombine context requestId pattern patternItem banner dye expectation)
      (loomCombine context other pattern patternItem banner dye expectation) := by
  -- What follows once everything is in the loom, whether a pattern item lies there or not.
  have worked {next after : Action Unit} (rest : Twin related next after) :
      Twin related
        (do
          emit (.craftLoom pattern)
          let input ← consume context requestId UiSlot.loomInput 1
          let _ ← consume context requestId UiSlot.loomDye 1
          placeOutput context requestId
            { input with userData := expectation.userData <|> input.userData } banner 1
          next)
        (do
          emit (.craftLoom pattern)
          let input ← consume context other UiSlot.loomInput 1
          let _ ← consume context other UiSlot.loomDye 1
          placeOutput context other
            { input with userData := expectation.userData <|> input.userData } banner 1
          after) := by
    refine (steps.craft _ rfl).bind fun _ _ _ => ?_
    refine (steps.consume UiSlot.loomInput 1).bind fun input _ same => ?_
    subst same
    refine (steps.consume UiSlot.loomDye 1).bind fun _ _ _ => ?_
    exact (steps.placeOutput _ banner 1).bind fun _ _ _ => rest
  unfold loomCombine
  refine (Coupled.lift _).bind fun _ _ _ => ?_
  refine (steps.itemOf banner).bind fun _ _ _ => ?_
  refine (steps.itemOf dye).bind fun _ _ _ => ?_
  refine (steps.move banner UiSlot.loomInput 1).bind fun _ _ _ => ?_
  refine (steps.move dye UiSlot.loomDye 1).bind fun _ _ _ => ?_
  cases patternItem with
  | none => exact worked (steps.declare banner expectation)
  | some location =>
      refine (steps.itemOf location).bind fun _ _ _ => ?_
      refine (steps.move location UiSlot.loomMaterial 1).bind fun _ _ _ => ?_
      refine worked ?_
      exact (steps.move UiSlot.loomMaterial location 1).bind fun _ _ _ =>
        steps.declare banner expectation

include steps in
theorem operation_twin (step : Operation) :
    Twin related (operation context requestId step) (operation context other step) := by
  cases step with
  | move source target count => exact steps.move source target count
  | swap first second => exact steps.swap first second
  | drop source count => exact steps.drop source count
  | creativeFetch source target count expectation =>
      exact creativeFetch_twin steps source target count expectation
  | anvilRename location name expectation => exact anvilRename_twin steps location name expectation
  | loomCombine pattern patternItem banner dye expectation =>
      exact loomCombine_twin steps pattern patternItem banner dye expectation

include steps in
theorem forM_twin (operations : List Operation) :
    Twin related (operations.forM (operation context requestId))
      (operations.forM (operation context other)) := by
  induction operations with
  | nil => exact .pure rfl
  | cons step later induction => exact (operation_twin steps step).bind fun _ _ _ => induction

end Operations

end Compile

end InventorySync
