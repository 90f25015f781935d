import InventorySync.Proofs.Compile

/-!
Roles and the windows behind them. The roles of the player's windows are fixed, and
those of a container are others as long as no override says differently; so a role
stands for one window, and naming a slot takes no role away from a slot that was
named before.
-/

namespace InventorySync

set_option autoImplicit false

namespace Role

/-- The window of a role that belongs to the player. -/
def playerWindow? : Role → Option WindowId
  | .hotbar | .inventory | .combinedHotbarAndInventory => some Window.inventory
  | .offhand => some Window.offhand
  | .armor => some Window.armor
  | .cursor | .anvilInput | .anvilMaterial | .loomInput | .loomDye | .loomMaterial
  | .createdOutput => some Window.ui
  | _ => none

end Role

/-- No container type is given a role that belongs to the player. -/
def RoleOverrides.SparePlayer (overrides : RoleOverrides) : Prop :=
  ∀ containerType role, overrides.role? containerType = some role → role.playerWindow? = none

theorem RoleOverrides.sparePlayer_nil : RoleOverrides.SparePlayer [] := by
  intro containerType role found
  cases found

namespace Role

variable {overrides : RoleOverrides} {opened : Option OpenedContainer} {location other : Location}
  {role : Role}

theorem playerWindow?_ofUiSlot? (found : ofUiSlot? location = some role) :
    role.playerWindow? = some Window.ui ∧ role ≠ .combinedHotbarAndInventory := by
  have all : ∀ entry ∈
      [(UiSlot.cursor, cursor), (UiSlot.anvilInput, anvilInput),
        (UiSlot.anvilMaterial, anvilMaterial), (UiSlot.loomInput, loomInput),
        (UiSlot.loomDye, loomDye), (UiSlot.loomMaterial, loomMaterial),
        (UiSlot.createdOutput, createdOutput)],
      entry.2.playerWindow? = some Window.ui ∧ entry.2 ≠ .combinedHotbarAndInventory := by
    decide
  exact all _ (Keyed.mem_of_lookup found)

theorem playerWindow?_ofContainerType? {containerType : UInt8} (spare : overrides.SparePlayer)
    (found : ofContainerType? overrides containerType = some role) :
    role.playerWindow? = none := by
  unfold ofContainerType? at found
  split at found
  · next overridden named =>
      cases found
      exact spare containerType _ named
  · split at found
    · cases found
      rfl
    · cases found

/-- A role belongs to the player together with its window, or it is that of the container
that is open. -/
theorem resolve_window (spare : overrides.SparePlayer)
    (resolved : resolve overrides opened location = .ok role) :
    role ≠ .combinedHotbarAndInventory ∧
      (role.playerWindow? = some location.window ∨
        role.playerWindow? = none ∧ ∃ container, opened = some container ∧
          container.window = location.window) := by
  unfold resolve at resolved
  split at resolved
  · next atInventory =>
      cases resolved
      rw [atInventory]
      split
      · exact ⟨by decide, Or.inl rfl⟩
      · exact ⟨by decide, Or.inl rfl⟩
  split at resolved
  · next atOffhand =>
      cases resolved
      rw [atOffhand]
      exact ⟨by decide, Or.inl rfl⟩
  split at resolved
  · next atArmor =>
      cases resolved
      rw [atArmor]
      exact ⟨by decide, Or.inl rfl⟩
  split at resolved
  · next atUi =>
      split at resolved
      · next found =>
          cases resolved
          obtain ⟨window, plain⟩ := playerWindow?_ofUiSlot? found
          rw [atUi]
          exact ⟨plain, Or.inl window⟩
      · cases resolved
  split at resolved
  · cases resolved
  · next container =>
      split at resolved
      · cases resolved
      · next same =>
          split at resolved
          · next found =>
              cases resolved
              have foreign := playerWindow?_ofContainerType? spare found
              refine ⟨?_, Or.inr ⟨foreign, container, rfl, Decidable.not_not.1 same⟩⟩
              intro combined
              rw [combined] at foreign
              cases foreign
          · cases resolved

theorem window_of_resolve (spare : overrides.SparePlayer)
    (first : resolve overrides opened location = .ok role)
    (second : resolve overrides opened other = .ok role) : location.window = other.window := by
  obtain ⟨-, ours | ⟨foreign, container, opens, window⟩⟩ := resolve_window spare first
  · obtain ⟨-, theirs | ⟨foreign, -⟩⟩ := resolve_window spare second
    · rw [ours] at theirs
      exact Option.some.inj theirs
    · rw [ours] at foreign
      cases foreign
  · obtain ⟨-, theirs | ⟨-, third, reopens, same⟩⟩ := resolve_window spare second
    · rw [foreign] at theirs
      cases theirs
    · rw [opens] at reopens
      cases reopens
      rw [← window, same]

end Role

theorem RoleWindows.window?_note (windows : RoleWindows) (role other : Role) (window : WindowId) :
    (windows.note role window).window? other =
      if other = .combinedHotbarAndInventory ∧ (role = .hotbar ∨ role = .inventory) then
        some Window.inventory
      else if other = role then some window
      else windows.window? other := by
  unfold note
  by_cases shared : role = .hotbar ∨ role = .inventory
  · have chosen : (role = .hotbar || role = .inventory) = true := by simpa using shared
    simp only [chosen, if_true, window?_set, shared, and_true]
  · have plain : (role = .hotbar || role = .inventory) = false := by simpa using shared
    simp only [plain, window?_set, shared, and_false, if_false, Bool.false_eq_true]

namespace Compile

variable {context : Context} {draft : Draft}

/-- The answer to each slot that was named so far finds the slot again. -/
def Draft.Addressed (context : Context) (draft : Draft) : Prop :=
  ∀ location ∈ draft.touched, ∃ role,
    Role.resolve context.overrides context.opened location = .ok role ∧
      draft.windows.window? role = some location.window

theorem Draft.Addressed.naming {location : Location} {role : Role} (requestId : Int32)
    (spare : context.overrides.SparePlayer) (addressed : draft.Addressed context)
    (resolved : Role.resolve context.overrides context.opened location = .ok role) :
    (draft.naming context.inventory requestId location role).Addressed context := by
  intro other touched
  have before : other = location ∨ other ∈ draft.touched := Location.mem_insertInto.1 touched
  have found : ∃ otherRole, Role.resolve context.overrides context.opened other = .ok otherRole ∧
      (otherRole = role ∨ draft.windows.window? otherRole = some other.window) := by
    rcases before with same | earlier
    · exact ⟨role, same ▸ resolved, Or.inl rfl⟩
    · obtain ⟨otherRole, otherResolved, noted⟩ := addressed other earlier
      exact ⟨otherRole, otherResolved, Or.inr noted⟩
  obtain ⟨otherRole, otherResolved, noted⟩ := found
  refine ⟨otherRole, otherResolved, ?_⟩
  change (draft.windows.note role location.window).window? otherRole = _
  have plain := (Role.resolve_window spare otherResolved).1
  rw [RoleWindows.window?_note, if_neg fun shared => plain shared.1]
  split
  · next same =>
      rw [same] at otherResolved
      rw [Role.window_of_resolve spare resolved otherResolved]
  · next differs => exact noted.resolve_left differs

/-- The slot of crafted items takes no role away from a slot that was named. -/
theorem Draft.Addressed.notingOutput (spare : context.overrides.SparePlayer)
    (addressed : draft.Addressed context) :
    ({ draft with
      windows := draft.windows.note .createdOutput UiSlot.createdOutput.window } :
        Draft).Addressed context := by
  intro location touched
  obtain ⟨role, resolved, noted⟩ := addressed location touched
  obtain ⟨plain, own⟩ := Role.resolve_window spare resolved
  refine ⟨role, resolved, ?_⟩
  change (draft.windows.note .createdOutput UiSlot.createdOutput.window).window? role = _
  rw [RoleWindows.window?_note, if_neg fun shared => plain shared.1]
  split
  · next same =>
      rw [same] at own
      rcases own with window | ⟨foreign, -⟩
      · exact window
      · cases foreign
  · exact noted

end Compile

end InventorySync
