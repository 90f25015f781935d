import InventorySync.Inventory.Creative
import InventorySync.Item.Reconcile
import InventorySync.Container.Location

/-!
The operations that a transaction queues, and how they are divided between
requests. Some kinds of operation need a request of their own; the others share
one with their neighbours, so that there are as few requests as possible.
-/

namespace InventorySync

set_option autoImplicit false

inductive OperationKind where
  | move
  | swap
  | drop
  | creativeFetch
  | anvilRename
  | loomCombine
  deriving DecidableEq, Repr, Inhabited

namespace OperationKind

def all : List OperationKind := [move, swap, drop, creativeFetch, anvilRename, loomCombine]

/-- The name of a kind in a configuration file. -/
def name : OperationKind → String
  | move => "move"
  | swap => "swap"
  | drop => "drop"
  | creativeFetch => "creative_fetch"
  | anvilRename => "anvil_rename"
  | loomCombine => "loom_combine"

def ofName? (name : String) : Option OperationKind := all.find? fun kind => kind.name = name

theorem mem_all (kind : OperationKind) : kind ∈ all := by
  cases kind <;> decide

end OperationKind

inductive Operation where
  | move (source target : Location) (count : UInt8)
  | swap (first second : Location)
  /-- Drops items into the world. -/
  | drop (source : Location) (count : UInt8)
  /-- Takes items from the creative list. -/
  | creativeFetch (source : CreativeSource) (target : Location) (count : UInt8)
      (expectation : Option Expectation)
  /-- Renames an item in the open anvil. -/
  | anvilRename (location : Location) (name : String) (expectation : Option Expectation)
  /-- Dyes a banner in the open loom, some patterns with the help of an item. -/
  | loomCombine (pattern : String) (patternItem : Option Location) (banner dye : Location)
      (expectation : Expectation)
  deriving DecidableEq, Repr, Inhabited

def Operation.kind : Operation → OperationKind
  | .move .. => .move
  | .swap .. => .swap
  | .drop .. => .drop
  | .creativeFetch .. => .creativeFetch
  | .anvilRename .. => .anvilRename
  | .loomCombine .. => .loomCombine

/-- Which kinds of operation get a request of their own. -/
structure GroupingPolicy where
  isDedicated : OperationKind → Bool

namespace GroupingPolicy

def ofKinds (kinds : List OperationKind) : GroupingPolicy := ⟨fun kind => kinds.contains kind⟩

/-- Kinds that use filter strings, or slots that exist once in a session. -/
def defaultKinds : List OperationKind := [.creativeFetch, .anvilRename, .loomCombine]

def default : GroupingPolicy := ofKinds defaultKinds

def dedicatedKinds (policy : GroupingPolicy) : List OperationKind :=
  OperationKind.all.filter policy.isDedicated

def sharingKinds (policy : GroupingPolicy) : List OperationKind :=
  OperationKind.all.filter fun kind => !policy.isDedicated kind

def set (policy : GroupingPolicy) (kind : OperationKind) (dedicated : Bool) : GroupingPolicy :=
  ⟨fun other => if other = kind then dedicated else policy.isDedicated other⟩

def isDefault (policy : GroupingPolicy) : Bool :=
  policy.dedicatedKinds = default.dedicatedKinds

/-- Divides operations into the groups that become requests, in order. An
operation joins the group behind it unless one of the two needs a group for
itself. -/
def group (policy : GroupingPolicy) : List Operation → List (List Operation)
  | [] => []
  | operation :: later =>
      match group policy later with
      | (next :: others) :: groups =>
          if policy.isDedicated operation.kind || policy.isDedicated next.kind then
            [operation] :: (next :: others) :: groups
          else
            (operation :: next :: others) :: groups
      | groups => [operation] :: groups

/-- Grouping loses, repeats and reorders nothing. -/
theorem flatten_group (policy : GroupingPolicy) (operations : List Operation) :
    (policy.group operations).flatten = operations := by
  induction operations with
  | nil => rfl
  | cons operation later induction =>
      unfold group
      split
      · next next others groups found =>
          rw [found] at induction
          split <;> simp [← induction]
      · simp [induction]

theorem ne_nil_of_mem_group (policy : GroupingPolicy) {operations members : List Operation}
    (member : members ∈ policy.group operations) : members ≠ [] := by
  induction operations generalizing members with
  | nil => simp [group] at member
  | cons operation later induction =>
      unfold group at member
      split at member
      · next next others groups found =>
          rw [found] at induction
          split at member
          · rcases List.mem_cons.1 member with rfl | rest
            · simp
            · exact induction rest
          · rcases List.mem_cons.1 member with rfl | rest
            · simp
            · exact induction (List.mem_cons_of_mem _ rest)
      · rcases List.mem_cons.1 member with rfl | rest
        · simp
        · exact induction rest

end GroupingPolicy

end InventorySync
