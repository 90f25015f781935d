import InventorySync.Packet.Container

/-!
The life of containers: never opened, open, closed, open again. Two one-shot
hooks wait for the next opening and the next closing; a hook is taken out before
it runs.
-/

namespace InventorySync

set_option autoImplicit false

inductive ContainerState where
  | neverOpened
  | opened (container : OpenedContainer)
  | closed (container : ClosedContainer)
  deriving DecidableEq, Repr, Inhabited

/-- Waits for the next closing: a callback, or somebody who asked for a container
to be closed and holds a numbered receipt. -/
inductive CloseHook (τ : Type) where
  | callback (callback : τ)
  | receipt (number : Nat)
  deriving DecidableEq, Repr

structure ContainerTracker (τ : Type) where
  state : ContainerState := .neverOpened
  openHook : Option τ := none
  closeHook : Option (CloseHook τ) := none

namespace ContainerTracker

variable {τ : Type}

def openContainer? (tracker : ContainerTracker τ) : Option OpenedContainer :=
  match tracker.state with
  | .opened container => some container
  | _ => none

def isOpen (tracker : ContainerTracker τ) : Bool := tracker.openContainer?.isSome

/-- The last container, if it was closed and none was opened since. -/
def closedContainer? (tracker : ContainerTracker τ) : Option ClosedContainer :=
  match tracker.state with
  | .closed container => some container
  | _ => none

/-- The tracker after a container was opened, and the hook that has to run. -/
def opened (tracker : ContainerTracker τ) (container : OpenedContainer) :
    ContainerTracker τ × Option τ :=
  ({ tracker with state := .opened container, openHook := none }, tracker.openHook)

/-- The tracker after a container was closed, and the hook that has to run. -/
def closed (tracker : ContainerTracker τ) (container : ClosedContainer) :
    ContainerTracker τ × Option (CloseHook τ) :=
  ({ tracker with state := .closed container, closeHook := none }, tracker.closeHook)

/-- Replaces the close hook, and answers the one that was there. -/
def setCloseHook (tracker : ContainerTracker τ) (hook : Option (CloseHook τ)) :
    ContainerTracker τ × Option (CloseHook τ) :=
  ({ tracker with closeHook := hook }, tracker.closeHook)

end ContainerTracker

end InventorySync
