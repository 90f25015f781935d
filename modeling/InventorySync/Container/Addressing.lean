import InventorySync.Container.Kind
import InventorySync.Container.Role
import InventorySync.Error
import InventorySync.Packet.Container

/-!
From a location to the role under which a request names it. The player's windows
have roles of their own; the role of an opened container depends on its type.
-/

namespace InventorySync

set_option autoImplicit false

/-- Roles that take the place of the usual ones, by container type. -/
abbrev RoleOverrides := List (UInt8 × Role)

namespace RoleOverrides

/-- If a type occurs again, the later role counts. -/
def role? (overrides : RoleOverrides) (containerType : UInt8) : Option Role :=
  overrides.reverse.lookup containerType

/-- The roles that count, in the order of the container types. -/
def effective (overrides : RoleOverrides) : List (UInt8 × Role) :=
  (List.range 256).filterMap fun number =>
    (overrides.role? (UInt8.ofNat number)).map fun role => (UInt8.ofNat number, role)

end RoleOverrides

namespace Role

def ofUiSlot? (location : Location) : Option Role :=
  [(UiSlot.cursor, cursor), (UiSlot.anvilInput, anvilInput),
    (UiSlot.anvilMaterial, anvilMaterial), (UiSlot.loomInput, loomInput),
    (UiSlot.loomDye, loomDye), (UiSlot.loomMaterial, loomMaterial),
    (UiSlot.createdOutput, createdOutput)].lookup location

def ofContainerType? (overrides : RoleOverrides) (containerType : UInt8) : Option Role :=
  match overrides.role? containerType with
  | some role => some role
  | none => if ContainerType.isStorage containerType then some levelEntity else none

/-- The role of a slot while `opened` is open. -/
def resolve (overrides : RoleOverrides) (opened : Option OpenedContainer) (location : Location) :
    Except SyncError Role :=
  if location.window = Window.inventory then
    .ok (if location.slot < hotbarSize then hotbar else inventory)
  else if location.window = Window.offhand then .ok offhand
  else if location.window = Window.armor then .ok armor
  else if location.window = Window.ui then
    match ofUiSlot? location with
    | some role => .ok role
    | none => .error (.unresolvedRole location)
  else
    match opened with
    | none => .error .noOpenContainer
    | some container =>
        if container.window ≠ location.window then .error (.windowNotOpen location.window)
        else
          match ofContainerType? overrides container.containerType with
          | some role => .ok role
          | none => .error (.unresolvedRole location)

end Role

/-- The open container, which must be of the type that an operation needs. -/
def OpenedContainer.require (opened : Option OpenedContainer) (expected : UInt8) :
    Except SyncError OpenedContainer :=
  match opened with
  | none => .error .noOpenContainer
  | some container =>
      if container.containerType = expected then .ok container
      else .error (.wrongContainerType expected container.containerType)

end InventorySync
