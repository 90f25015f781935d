import InventorySync.Decimal.Shortest
import InventorySync.Keyed

/-!
Named binary tags, the tree that carries the user data of an item. A compound is
a list of named entries whose order means nothing; a name is meant to occur once,
and every operation here keeps it so. Floating-point values are held as their
bits, so that writing and reading them loses nothing.
-/

namespace InventorySync.Nbt

set_option autoImplicit false

inductive Tag where
  | byte (value : Int8)
  | short (value : Int16)
  | int (value : Int32)
  | long (value : Int64)
  | float (bits : UInt32)
  | double (bits : UInt64)
  | byteArray (values : List Int8)
  | string (value : String)
  | list (elements : List Tag)
  | compound (entries : List (String × Tag))
  | intArray (values : List Int32)
  | longArray (values : List Int64)
  deriving Repr, Inhabited

abbrev Compound := List (String × Tag)

namespace Tag

/-- The number that announces a tag of this type. Zero announces the end of a
compound and is no tag. -/
def typeNumber : Tag → UInt8
  | .byte _ => 1
  | .short _ => 2
  | .int _ => 3
  | .long _ => 4
  | .float _ => 5
  | .double _ => 6
  | .byteArray _ => 7
  | .string _ => 8
  | .list _ => 9
  | .compound _ => 10
  | .intArray _ => 11
  | .longArray _ => 12

def int? : Tag → Option Int32
  | .int value => some value
  | _ => none

def string? : Tag → Option String
  | .string value => some value
  | _ => none

def compound? : Tag → Option Compound
  | .compound entries => some entries
  | _ => none

/-- One line about a tag: a leaf is shown with its value, a container only with
its size. -/
def summary : Tag → String
  | .byte value => s!"{value.toInt}b"
  | .short value => s!"{value.toInt}s"
  | .int value => s!"{value.toInt}"
  | .long value => s!"{value.toInt}L"
  | .float bits => Decimal.Layout.single.text bits.toNat ++ "f"
  | .double bits => Decimal.Layout.double.text bits.toNat ++ "d"
  | .byteArray values => s!"[B; {values.length} elements]"
  | .string value => "\"" ++ value ++ "\""
  | .list elements => s!"[{elements.length} elements]"
  | .compound entries => "\x7b" ++ s!"{entries.length} entries" ++ "\x7d"
  | .intArray values => s!"[I; {values.length} elements]"
  | .longArray values => s!"[L; {values.length} elements]"

end Tag

namespace Compound

def get? (compound : Compound) (name : String) : Option Tag := compound.lookup name

def erase (compound : Compound) (name : String) : Compound := Keyed.erase compound name

/-- Puts an entry in front, in place of any other of its name. -/
def set (compound : Compound) (name : String) (tag : Tag) : Compound :=
  Keyed.put compound name tag

theorem get?_erase (compound : Compound) (name other : String) :
    get? (erase compound name) other = if other = name then none else get? compound other :=
  Keyed.lookup_erase compound name other

theorem get?_set (compound : Compound) (name other : String) (tag : Tag) :
    get? (set compound name tag) other = if other = name then some tag else get? compound other :=
  Keyed.lookup_put compound name other tag

/-- Entries in the order in which they were met. Of several with one name the
last one counts. -/
def ofEntries : List (String × Tag) → Compound
  | [] => []
  | (name, tag) :: later =>
      if later.any fun entry => entry.1 = name then ofEntries later
      else (name, tag) :: ofEntries later

theorem ofEntries_of_nodup {entries : List (String × Tag)}
    (distinct : (entries.map Prod.fst).Nodup) : ofEntries entries = entries := by
  induction entries with
  | nil => rfl
  | cons first others induction =>
      obtain ⟨name, tag⟩ := first
      rw [List.map_cons, List.nodup_cons] at distinct
      have fresh : ¬others.any (fun entry => entry.1 = name) = true := by
        intro found
        obtain ⟨entry, member, same⟩ := List.any_eq_true.1 found
        exact distinct.1 (List.mem_map.2 ⟨entry, member, of_decide_eq_true same⟩)
      rw [ofEntries, if_neg fresh, induction distinct.2]

end Compound

mutual

/-- Whether two tags hold the same value: the order of entries is free, and
floating-point values are compared as numbers. -/
def Tag.sameValue : Tag → Tag → Bool
  | .byte left, .byte right => left = right
  | .short left, .short right => left = right
  | .int left, .int right => left = right
  | .long left, .long right => left = right
  | .float left, .float right => Decimal.Layout.single.sameNumber left.toNat right.toNat
  | .double left, .double right => Decimal.Layout.double.sameNumber left.toNat right.toNat
  | .byteArray left, .byteArray right => left = right
  | .string left, .string right => left = right
  | .list left, .list right => sameElements left right
  | .compound left, .compound right =>
      left.length = right.length && sameEntries left right
  | .intArray left, .intArray right => left = right
  | .longArray left, .longArray right => left = right
  | _, _ => false

def sameElements : List Tag → List Tag → Bool
  | [], [] => true
  | left :: lefts, right :: rights => left.sameValue right && sameElements lefts rights
  | _, _ => false

/-- Every entry of the first compound has an equal entry in the second. -/
def sameEntries : List (String × Tag) → Compound → Bool
  | [], _ => true
  | (name, tag) :: others, right =>
      (match Compound.get? right name with
        | some found => tag.sameValue found
        | none => false) && sameEntries others right

end

def Compound.sameValue (left right : Compound) : Bool :=
  left.length = right.length && sameEntries left right

mutual

/-- How many tags a tag consists of, itself included. Array elements are not tags. -/
def Tag.tagCount : Tag → Nat
  | .list elements => 1 + elementTagCount elements
  | .compound entries => 1 + entryTagCount entries
  | _ => 1

def elementTagCount : List Tag → Nat
  | [] => 0
  | first :: others => first.tagCount + elementTagCount others

def entryTagCount : List (String × Tag) → Nat
  | [] => 0
  | (_, first) :: others => first.tagCount + entryTagCount others

end

mutual

/-- The length of the longest way down from a tag, itself included. -/
def Tag.depth : Tag → Nat
  | .list elements => 1 + elementDepth elements
  | .compound entries => 1 + entryDepth entries
  | _ => 1

def elementDepth : List Tag → Nat
  | [] => 0
  | first :: others => max first.depth (elementDepth others)

def entryDepth : List (String × Tag) → Nat
  | [] => 0
  | (_, first) :: others => max first.depth (entryDepth others)

end

/-- A compound with the name that stands in front of it. -/
structure Root where
  name : String
  compound : Compound
  deriving Repr, Inhabited

end InventorySync.Nbt
