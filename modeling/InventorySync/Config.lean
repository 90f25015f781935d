import InventorySync.Bytes.Decoder
import InventorySync.Container.Role
import InventorySync.Engine
import InventorySync.Toml.Document

/-!
The settings of a session, from a settings file. Settings that are not known are
passed over; a known one must have a value of its type.
-/

namespace InventorySync

set_option autoImplicit false

structure Config where
  /-- The kinds of operation that get a request of their own. -/
  dedicated : List OperationKind := GroupingPolicy.defaultKinds
  /-- Whether dropped items scatter. -/
  dropRandomly : Bool := false
  /-- The roles of the slots of a container, by its type. -/
  roles : List (UInt8 × Role) := []
  deriving DecidableEq, Repr, Inhabited

namespace Config

inductive Error where
  | missingFile
  | notText
  | malformed
  | invalidSetting
  deriving DecidableEq, Repr

section Settings

open Toml

/-- The settings of a section by their names, or by their order if the section is
written as an array. A moment in time has the form of a section, but none of
its settings. -/
def settings? (names : List String) : Value → Option (List (Option Value))
  | .table entries => some (names.map fun name => entries.lookup name)
  | .array values => some (names.zipIdx.map fun (_, position) => values[position]?)
  | .moment => some (names.map fun _ => none)
  | _ => none

/-- One of several names. It may also be the only key of a table, with nothing
behind it. -/
def name? : Value → Option String
  | .string name => some name
  | .table [(name, content)] => if content.isEmptyContainer then some name else none
  | _ => none

def kind? (value : Value) : Option OperationKind := (name? value).bind OperationKind.ofName?

def role? (value : Value) : Option Role := (name? value).bind Role.ofName?

def boolean? : Value → Option Bool
  | .boolean value => some value
  | _ => none

def byte? : Value → Option UInt8
  | .integer value => if 0 ≤ value && value < 256 then some (UInt8.ofNat value.toNat) else none
  | _ => none

def list? {α : Type} (element? : Value → Option α) : Value → Option (List α)
  | .array values => values.mapM element?
  | _ => none

def roleOverride? (value : Value) : Option (UInt8 × Role) := do
  match ← settings? ["container_type", "role"] value with
  | [some containerType, some role] => return (← byte? containerType, ← role? role)
  | _ => none

/-- A setting, or what it is when it is not given. -/
def orDefault {α : Type} (read? : Value → Option α) (default : α) : Option Value → Option α
  | none => some default
  | some value => read? value

def ofTable? (table : Table) : Option Config := do
  let transaction ← orDefault (settings? ["dedicated", "drop_randomly"]) [none, none]
    (table.lookup "transaction")
  let containers ← orDefault (settings? ["roles"]) [none] (table.lookup "containers")
  match transaction, containers with
  | [dedicated, dropRandomly], [roles] => do
      let defaults : Config := {}
      let dedicated ← orDefault (list? kind?) defaults.dedicated dedicated
      let dropRandomly ← orDefault boolean? defaults.dropRandomly dropRandomly
      let roles ← orDefault (list? roleOverride?) defaults.roles roles
      return { dedicated, dropRandomly, roles }
  | _, _ => none

end Settings

def ofText (content : String) : Except Error Config :=
  match Toml.parse? content with
  | none => .error .malformed
  | some table =>
      match ofTable? table with
      | none => .error .invalidSetting
      | some config => .ok config

/-- The settings in a file with these bytes, or without any if there is no file. -/
def ofFile : Option Bytes → Except Error Config
  | none => .error .missingFile
  | some bytes =>
      match String.fromUTF8? (ByteArray.mk bytes.toArray) with
      | none => .error .notText
      | some content => ofText content

def policy (config : Config) : GroupingPolicy := .ofKinds config.dedicated

def toSettings (config : Config) : Settings :=
  { policy := config.policy
    overrides := config.roles
    dropRandomly := config.dropRandomly }

end Config

end InventorySync
