import InventorySync.Keyed
import InventorySync.Toml.Grammar

/-!
A whole settings file. A table may be written in several ways, but its contents
come from one place: once a table was defined by a header, as a value or through
dotted keys, no other header or key may add to it in another way.
-/

namespace InventorySync.Toml

set_option autoImplicit false

/-- A part of a file that is being put together. -/
inductive Node where
  | value (value : Value)
  /-- An open table is only on the way to another one so far; a dotted one came
  about through dotted keys. -/
  | table (isOpen isDotted : Bool) (entries : List (String × Node))
  /-- An array of tables. Only the last one can still be added to. -/
  | tables (earlier : List (List (String × Node))) (last : List (String × Node))
  deriving Inhabited

abbrev Entries := List (String × Node)

namespace Entries

def put (entries : Entries) (key : String) (node : Node) : Entries :=
  Keyed.erase entries key ++ [(key, node)]

/-- Changes the table at the end of a way of keys, and makes the tables on the
way where there are none. Dotted keys lead only through open tables. `change`
learns whether the table came about through dotted keys. -/
def changeAt (dotted : Bool) (change : Bool → Entries → Option Entries) :
    List String → Bool → Entries → Option Entries
  | [], isDotted, entries => change isDotted entries
  | key :: later, _, entries =>
      match entries.lookup key with
      | none => do
          let inner ← changeAt dotted change later dotted []
          some (put entries key (.table true dotted inner))
      | some (.value _) => none
      | some (.tables earlier last) => do
          let inner ← changeAt dotted change later false last
          some (put entries key (.tables earlier inner))
      | some (.table isOpen isDotted present) =>
          if dotted && !isOpen then none
          else do
            let inner ← changeAt dotted change later isDotted present
            some (put entries key (.table isOpen isDotted inner))

/-- Adds a key with its value. The table of a dotted key must be one that came
about through dotted keys. -/
def addPair (entries : Entries) (pair : Path × Value) : Option Entries :=
  let (path, value) := pair
  changeAt true
    (fun isDotted present =>
      if isDotted = path.tables.isEmpty then none
      else if (present.lookup path.key).isSome then none
      else some (put present path.key (.value value)))
    path.tables false entries

def addPairs (entries : Entries) (pairs : List (Path × Value)) : Option Entries :=
  pairs.foldlM addPair entries

/-- Adds the table under a header of its own. -/
def addTable (entries : Entries) (path : Path) (pairs : List (Path × Value)) : Option Entries :=
  changeAt false
    (fun _ present =>
      match present.lookup path.key with
      | none => do some (put present path.key (.table false false (← addPairs [] pairs)))
      | some (.table true false begun) => do
          some (put present path.key (.table false false (← addPairs begun pairs)))
      | some _ => none)
    path.tables false entries

/-- Adds a table to an array of tables. -/
def addElement (entries : Entries) (path : Path) (pairs : List (Path × Value)) : Option Entries :=
  changeAt false
    (fun _ present =>
      match present.lookup path.key with
      | none => do some (put present path.key (.tables [] (← addPairs [] pairs)))
      | some (.tables earlier last) => do
          some (put present path.key (.tables (earlier ++ [last]) (← addPairs [] pairs)))
      | some _ => none)
    path.tables false entries

end Entries

mutual

def Node.toValue : Node → Value
  | .value value => value
  | .table _ _ entries => .table (entriesToTable entries)
  | .tables earlier last => .array (elementsToValues earlier ++ [.table (entriesToTable last)])

def entriesToTable : List (String × Node) → Table
  | [] => []
  | (key, node) :: later => (key, node.toValue) :: entriesToTable later

def elementsToValues : List (List (String × Node)) → List Value
  | [] => []
  | entries :: later => .table (entriesToTable entries) :: elementsToValues later

end

section Values

open Scanner

def pair (value : Scanner Value) : Scanner (Path × Value) := do
  let path ← path
  char '='
  blanks
  return (path, ← value)

def array (value : Scanner Value) : Scanner Value := do
  char '['
  let values ← separated (filler *> value <* filler) (char ',')
  if !values.isEmpty then
    let _ ← optional (char ',')
  filler
  char ']'
  return .array values

def inlineTable (value : Scanner Value) : Scanner Value := do
  char '\x7b'
  let pairs ← separated (pair value <* blanks) (char ',')
  blanks
  char '\x7d'
  match Entries.addPairs [] pairs with
  | some entries => return .table (entriesToTable entries)
  | none => failure

/-- A value with at most so many values around each other. -/
def value : Nat → Scanner Value
  | 0 => scalar
  | levels + 1 => scalar <|> array (value levels) <|> inlineTable (value levels)

end Values

inductive Line where
  | blank
  | pair (pair : Path × Value)
  | table (path : Path)
  | element (path : Path)

/-- One line, or several if a value goes over more. -/
def line : Scanner Line :=
  (do
    comment
    lineEnd
    return .blank) <|>
  (do
    newline
    return .blank) <|>
  (do
    Scanner.word ['[', '[']
    let path ← path
    Scanner.word [']', ']']
    trailing
    return .element path) <|>
  (do
    Scanner.char '['
    let path ← path
    Scanner.char ']'
    trailing
    return .table path) <|>
  (do
    let found ← pair (value nestingLimit)
    trailing
    return .pair found)

/-- All lines of a file. A byte order mark may stand in front. -/
def lines : Scanner (List Line) := do
  let _ ← optional (Scanner.char '\ufeff')
  blanks
  let found ← Scanner.many (line <* blanks)
  Scanner.atEnd
  return found

/-- The pairs up to the next header, and the lines from there. -/
def leadingPairs : List Line → List (Path × Value) × List Line
  | [] => ([], [])
  | .blank :: later => leadingPairs later
  | .pair pair :: later => ((pair :: (leadingPairs later).1), (leadingPairs later).2)
  | header :: later => ([], header :: later)

/-- Adds a table for each header, with the pairs that follow it. -/
def addSections (entries : Entries) : List Line → Option Entries
  | [] => some entries
  | .table path :: later => do
      addSections (← entries.addTable path (leadingPairs later).1) later
  | .element path :: later => do
      addSections (← entries.addElement path (leadingPairs later).1) later
  | _ :: later => addSections entries later

/-- The table that a file describes, unless the file is not well-formed. -/
def parse? (content : String) : Option Table := do
  let (found, _) ← lines content.toList
  let root ← Entries.addPairs [] (leadingPairs found).1
  let entries ← addSections root found
  return entriesToTable entries

end InventorySync.Toml
