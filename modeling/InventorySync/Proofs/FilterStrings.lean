import InventorySync.Proofs.Invariants

/-!
Names, and the actions that give them. A request lists its filter strings apart from its
actions, and a crafting action says by a number which of them it uses. However renamings are
mixed with other operations in one request, the numbers count the renamings, and each of them
leads to the name that was asked for.
-/

namespace InventorySync

set_option autoImplicit false

/-- The name that an operation gives to an item. -/
def Operation.newName? : Operation → Option String
  | .anvilRename _ name _ => some name
  | _ => none

/-- The names that operations give, in their order. -/
def Operation.newNames (operations : List Operation) : List String :=
  operations.filterMap newName?

namespace StackAction

/-- Whether an action crafts with a filter string. -/
def usesFilterString : StackAction → Bool
  | .craftRecipeOptional .. => true
  | _ => false

/-- Crafts with the filter string at this place. -/
def useFilterString (place : Nat) : StackAction := .craftRecipeOptional 0 (Int32.ofNat place)

end StackAction

namespace Operation

theorem newName?_eq_none {step : Operation} (other : step.kind ≠ .anvilRename) :
    step.newName? = none := by
  cases step with
  | anvilRename => exact absurd rfl other
  | _ => rfl

theorem newNames_cons (step : Operation) (later : List Operation) :
    newNames (step :: later) = step.newName?.toList ++ newNames later := by
  unfold newNames
  rw [List.filterMap_cons]
  cases step.newName? <;> rfl

theorem length_newNames (operations : List Operation) :
    (newNames operations).length =
      operations.countP fun operation => operation.kind = .anvilRename := by
  unfold newNames
  rw [List.length_filterMap_eq_countP]
  apply congrArg (fun test => operations.countP test)
  funext operation
  cases operation <;> rfl

end Operation

namespace Compile

/-- A draft in which so far these names were given. -/
structure Draft.Labelled (names : List String) (draft : Draft) : Prop where
  strings : draft.filterStrings = names
  crafts : draft.actions.filter StackAction.usesFilterString =
    (List.range names.length).map StackAction.useFilterString
  cause : draft.filterCause = if names = [] then FilterCause.none else FilterCause.anvilText

section Steps

variable {context : Context} {requestId : Int32} {names : List String} {draft after : Draft}

theorem refer_labelled (location : Location) :
    Keeps (Draft.Labelled names) (refer context requestId location) := by
  intro draft reference after named labelled
  obtain ⟨role, -, -, -, rfl⟩ := refer_ok.1 named
  exact ⟨labelled.strings, labelled.crafts, labelled.cause⟩

theorem onOverlay_labelled {α : Type} (action : Overlay.Action α) :
    Keeps (Draft.Labelled names) (onOverlay action) := by
  intro draft answer after ran labelled
  obtain ⟨overlay, -, rfl⟩ := onOverlay_ok.1 ran
  exact ⟨labelled.strings, labelled.crafts, labelled.cause⟩

theorem emit_labelled {action : StackAction} (silent : action.usesFilterString = false) :
    Keeps (Draft.Labelled names) (emit action) := by
  intro draft answer after emitted labelled
  rw [← emit_ok.1 emitted]
  refine ⟨labelled.strings, ?_, labelled.cause⟩
  simp [List.filter_append, silent, labelled.crafts]

/-- Only a renaming gives a name. -/
theorem plainStepsKeep_labelled :
    PlainStepsKeep context requestId (Draft.Labelled names) where
  move source target count :=
    (refer_labelled source).bind fun _ => (refer_labelled target).bind fun _ =>
      (emit_labelled rfl).bind fun _ => onOverlay_labelled _
  swap first second :=
    (refer_labelled first).bind fun _ => (refer_labelled second).bind fun _ =>
      (emit_labelled rfl).bind fun _ => onOverlay_labelled _
  drop source count :=
    (refer_labelled source).bind fun _ => (emit_labelled rfl).bind fun _ =>
      (onOverlay_labelled _).bind fun _ => Keeps.pure ()
  consume location count :=
    (refer_labelled location).bind fun _ => (emit_labelled rfl).bind fun _ =>
      onOverlay_labelled _
  placeOutput item target count := by
    refine Keeps.bind ?_ fun _ => (refer_labelled target).bind fun _ =>
      (emit_labelled rfl).bind fun _ => onOverlay_labelled _
    intro draft reference after named labelled
    obtain ⟨-, rfl⟩ := referOutput_ok.1 named
    exact ⟨labelled.strings, labelled.crafts, labelled.cause⟩
  itemOf location := by
    intro draft item after found labelled
    obtain ⟨-, -, -, rfl⟩ := itemOf_ok.1 found
    exact ⟨labelled.strings, labelled.crafts, labelled.cause⟩
  craftCreative entry := emit_labelled rfl
  craftLoom pattern := emit_labelled rfl
  declare location expectation :=
    Keeps.modify fun _ labelled => ⟨labelled.strings, labelled.crafts, labelled.cause⟩

/-- The action is written down under the number of names so far, and its name follows it. -/
theorem Draft.Labelled.label (labelled : draft.Labelled names) (name : String) :
    ({ draft with
      actions := draft.actions ++ [.craftRecipeOptional 0 (Int32.ofNat draft.filterStrings.length)]
      filterStrings := draft.filterStrings ++ [name]
      filterCause := FilterCause.anvilText } : Draft).Labelled (names ++ [name]) := by
  constructor
  · simp [labelled.strings]
  · simp [List.filter_append, labelled.crafts, labelled.strings, List.range_succ,
      StackAction.usesFilterString, StackAction.useFilterString]
  · simp

theorem anvilRename_labelled {location : Location} {name : String}
    {expectation : Option Expectation} {answer : Unit} (labelled : draft.Labelled names)
    (renamed : anvilRename context requestId location name expectation draft =
      .ok (answer, after)) : after.Labelled (names ++ [name]) := by
  have before := @plainStepsKeep_labelled context requestId names
  have later := @plainStepsKeep_labelled context requestId (names ++ [name])
  unfold anvilRename at renamed
  simp only [bind_ok, lift_ok, get_ok, emit_ok, modify_ok] at renamed
  obtain ⟨_, _, ⟨-, rfl⟩, item, _, found, _, loaded, moved, renamed⟩ := renamed
  obtain ⟨_, _, ⟨rfl, rfl⟩, _, _, rfl, _, _, rfl, input, _, consumed, renamed⟩ := renamed
  obtain ⟨_, _, placed, declared⟩ := renamed
  have seen := before.itemOf location _ _ _ found labelled
  have inserted := before.move location UiSlot.anvilInput _ _ _ _ moved seen
  have used := later.consume UiSlot.anvilInput _ _ _ _ consumed (inserted.label name)
  have returned := later.placeOutput _ location _ _ _ _ placed used
  cases expectation with
  | none => exact Keeps.pure () _ _ _ declared returned
  | some expected => exact later.declare location expected _ _ _ declared returned

theorem operation_labelled {step : Operation} {answer : Unit} (labelled : draft.Labelled names)
    (performed : operation context requestId step draft = .ok (answer, after)) :
    after.Labelled (names ++ step.newName?.toList) := by
  by_cases renames : step.kind = .anvilRename
  · cases step with
    | anvilRename location name expectation => exact anvilRename_labelled labelled performed
    | _ => cases renames
  · rw [Operation.newName?_eq_none renames, Option.toList_none, List.append_nil]
    exact plain_operation_keeps plainStepsKeep_labelled renames _ _ _ performed labelled

theorem forM_labelled {operations : List Operation} {answer : Unit}
    (labelled : draft.Labelled names)
    (performed : operations.forM (operation context requestId) draft = .ok (answer, after)) :
    after.Labelled (names ++ Operation.newNames operations) := by
  induction operations generalizing draft names with
  | nil =>
      rw [← forM_nil_ok.1 performed]
      simpa [Operation.newNames] using labelled
  | cons step later induction =>
      obtain ⟨between, head, tail⟩ := forM_cons_ok.1 performed
      rw [Operation.newNames_cons, ← List.append_assoc]
      exact induction (operation_labelled labelled head) tail

end Steps

end Compile

/-- The filter strings of a request are the names that its operations give, and its crafting
actions use them in turn. -/
structure StackRequest.LabelsRenames (members : List Operation) (request : StackRequest) :
    Prop where
  strings : request.filterStrings = Operation.newNames members
  count : request.filterStrings.length =
    members.countP fun operation => operation.kind = .anvilRename
  crafts : request.actions.filter StackAction.usesFilterString =
    (List.range request.filterStrings.length).map StackAction.useFilterString
  /-- The number in an action is the place of its name, as far as there are numbers. -/
  places : ∀ (place : Nat) recipe index,
    (request.actions.filter StackAction.usesFilterString)[place]? =
        some (.craftRecipeOptional recipe index) →
      place < 2 ^ 31 → index.toInt = place
  cause : request.filterCause =
    if ∃ operation ∈ members, operation.kind = .anvilRename then FilterCause.anvilText
    else FilterCause.none

namespace Compile

variable {context : Context} {requestId : Int32} {overlay after : Overlay}

theorem newNames_eq_nil {operations : List Operation} :
    Operation.newNames operations = [] ↔
      ¬∃ operation ∈ operations, operation.kind = .anvilRename := by
  rw [← List.length_eq_zero_iff, Operation.length_newNames, List.countP_eq_zero]
  simp

theorem Draft.Labelled.labelsRenames {members : List Operation} {draft : Draft}
    (labelled : draft.Labelled (Operation.newNames members)) (requestId : Int32) :
    (draft.finish requestId).request.LabelsRenames members := by
  have strings : (draft.finish requestId).request.filterStrings = Operation.newNames members :=
    labelled.strings
  have crafts : (draft.finish requestId).request.actions.filter StackAction.usesFilterString =
      (List.range (draft.finish requestId).request.filterStrings.length).map
        StackAction.useFilterString := by
    rw [strings]
    exact labelled.crafts
  constructor
  case strings => exact strings
  case count => rw [strings, Operation.length_newNames]
  case crafts => exact crafts
  case places =>
    intro place recipe index found room
    rw [crafts, List.getElem?_map] at found
    obtain ⟨listed, there, used⟩ := Option.map_eq_some_iff.1 found
    obtain ⟨inside, same⟩ := List.getElem?_eq_some_iff.1 there
    rw [List.getElem_range] at same
    rw [← same] at used
    cases used
    exact Int32.toInt_ofNat_of_lt room
  case cause =>
    have cause : (draft.finish requestId).request.filterCause = _ := labelled.cause
    simp only [cause, newNames_eq_nil]
    exact ite_not _ _ _

theorem groups_labelled {members : List (List Operation)} {compiled : List CompiledRequest}
    {free : Int32} (succeeds : groups context requestId overlay members = (.ok compiled, free)) :
    List.Forall₂ (fun operations entry => entry.request.LabelsRenames operations) members
      compiled := by
  refine (groups_members succeeds).imp fun operations entry grouped => ?_
  obtain ⟨id, before, _, built⟩ := grouped
  obtain ⟨draft, performed, rfl, -⟩ := group_ok.1 built
  have nothing : ({ overlay := before } : Draft).Labelled [] := ⟨rfl, rfl, rfl⟩
  have labelled := forM_labelled nothing performed
  exact labelled.labelsRenames id

end Compile

namespace Engine

variable {τ : Type}

/-- In each request the names are those of its renamings, under the numbers by which the
actions find them, whichever kinds of operation share a request. -/
theorem filter_strings_follow_renames {engine after : Engine τ} {queue : List Operation}
    {compiled : List CompiledRequest} (succeeds : engine.compile queue = (.ok compiled, after)) :
    List.Forall₂ (fun operations entry => entry.request.LabelsRenames operations)
      (engine.settings.policy.group queue) compiled := by
  obtain ⟨free, grouped, -⟩ := compile_ok.1 succeeds
  exact Compile.groups_labelled grouped

/-- All kinds of operation share requests, and an anvil is open. -/
def labelling : Engine Unit where
  settings := { policy := .ofKinds [] }
  inventory := (Inventory.empty.set ⟨0, 9⟩ { typeId := 3, count := 1 }).set ⟨0, 10⟩
    { typeId := 4, count := 2 }
  containers := { state := .opened ⟨5, ContainerType.anvil, default, -1⟩ }

def labellingQueue : List Operation :=
  [.anvilRename ⟨0, 9⟩ "pick" none, .move ⟨0, 10⟩ ⟨0, 11⟩ 1, .anvilRename ⟨0, 11⟩ "axe" none]

theorem labelling_shares_a_request :
    labelling.settings.policy.group labellingQueue = [labellingQueue] ∧
      ((labelling.requestsFor labellingQueue).map fun entry => entry.request.filterStrings) =
        [["pick", "axe"]] ∧
      List.Forall₂ (fun operations entry => entry.request.LabelsRenames operations)
        (labelling.settings.policy.group labellingQueue) (labelling.requestsFor labellingQueue) := by
  have compiles : labelling.compile labellingQueue =
      (.ok (labelling.requestsFor labellingQueue), (labelling.compile labellingQueue).2) :=
    compile_requestsFor (by decide +kernel)
  exact ⟨rfl, by decide +kernel, filter_strings_follow_renames compiles⟩

end Engine

end InventorySync
