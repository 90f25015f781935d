import InventorySync.Toml.Value

/-!
Small recognisers over characters, the lexical rules of TOML, and its scalar
values. A recogniser takes characters off the front or fails; a failure takes
nothing.
-/

namespace InventorySync.Toml

set_option autoImplicit false

abbrev Scanner := StateT (List Char) Option

namespace Scanner

variable {α β : Type}

def satisfy (accepts : Char → Bool) : Scanner Char
  | [] => none
  | first :: rest => if accepts first then some (first, rest) else none

def char (expected : Char) : Scanner Unit := do
  let _ ← satisfy fun found => found = expected

def word : List Char → Scanner Unit
  | [] => pure ()
  | first :: rest => do
      char first
      word rest

def atEnd : Scanner Unit
  | [] => some ((), [])
  | _ :: _ => none

/-- Repeats a recogniser until it fails, for at most `rounds` rounds. -/
def manyWithin (element : Scanner α) : Nat → Scanner (List α)
  | 0 => pure []
  | rounds + 1 => do
      match ← optional element with
      | none => return []
      | some first => return first :: (← manyWithin element rounds)

/-- Repeats a recogniser until it fails. One that takes at least one character
succeeds at most once for each character. -/
def many (element : Scanner α) : Scanner (List α) := fun input =>
  manyWithin element input.length input

def many1 (element : Scanner α) : Scanner (List α) := do
  return (← element) :: (← many element)

def skipMany (element : Scanner α) : Scanner Unit := do
  let _ ← many element

def separated1 (element : Scanner α) (separator : Scanner β) : Scanner (List α) := do
  return (← element) :: (← many (separator *> element))

def separated (element : Scanner α) (separator : Scanner β) : Scanner (List α) :=
  separated1 element separator <|> pure []

def exactly (count : Nat) (element : Scanner α) : Scanner (List α) :=
  match count with
  | 0 => pure []
  | fewer + 1 => do return (← element) :: (← exactly fewer element)

end Scanner

open Scanner

section Layout

def isBlank (char : Char) : Bool := char = ' ' || char = '\t'

/-- Characters other than the control characters, and the tab. -/
def isPrintable (char : Char) : Bool := char = '\t' || (' ' ≤ char && char ≠ '\x7f')

def blanks : Scanner Unit := skipMany (satisfy isBlank)

def newline : Scanner Unit := char '\n' <|> (char '\r' *> char '\n')

def comment : Scanner Unit := char '#' *> skipMany (satisfy isPrintable)

def lineEnd : Scanner Unit := newline <|> atEnd

/-- What may stand between an expression and the end of its line. -/
def trailing : Scanner Unit := do
  blanks
  let _ ← optional comment
  lineEnd

/-- What may stand between the values of an array. -/
def filler : Scanner Unit := skipMany ((do let _ ← satisfy isBlank) <|> newline <|> comment)

end Layout

section Strings

def hexDigit? (char : Char) : Option Nat :=
  if char.isDigit then some (char.toNat - '0'.toNat)
  else if 'a' ≤ char && char ≤ 'f' then some (char.toNat - 'a'.toNat + 10)
  else if 'A' ≤ char && char ≤ 'F' then some (char.toNat - 'A'.toNat + 10)
  else none

/-- The number whose digits to a base these are, highest digit first. -/
def digitsValue (base : Nat) (digits : List Char) : Nat :=
  digits.foldl (fun value digit => value * base + (hexDigit? digit).getD 0) 0

def isHexDigit (char : Char) : Bool := (hexDigit? char).isSome

/-- A character given by its number, which must be that of a character. -/
def numberedChar (digits : Nat) : Scanner Char := do
  let number := digitsValue 16 (← exactly digits (satisfy isHexDigit))
  if number.isValidChar then return Char.ofNat number else failure

def escape : Scanner Char := do
  char '\\'
  match ← satisfy fun _ => true with
  | 'b' => return '\x08'
  | 't' => return '\t'
  | 'n' => return '\n'
  | 'f' => return '\x0c'
  | 'r' => return '\r'
  | '"' => return '"'
  | '\\' => return '\\'
  | 'u' => numberedChar 4
  | 'U' => numberedChar 8
  | _ => failure

def isPlain (char : Char) : Bool := isPrintable char && char ≠ '"' && char ≠ '\\'

def isLiteral (char : Char) : Bool := isPrintable char && char ≠ '\''

def basicString : Scanner String := do
  char '"'
  let content ← many (satisfy isPlain <|> escape)
  char '"'
  return String.ofList content

def literalString : Scanner String := do
  char '\''
  let content ← many (satisfy isLiteral)
  char '\''
  return String.ofList content

/-- The end of a string in three quotes. One or two quotes may stand in front. -/
def closing (quote : Char) : Scanner (List Char) :=
  (word [quote, quote, quote, quote, quote] *> pure [quote, quote]) <|>
    (word [quote, quote, quote, quote] *> pure [quote]) <|>
    (word [quote, quote, quote] *> pure [])

/-- A quote inside a string in three quotes, so one that is not part of its end. -/
def innerQuote (quote : Char) : Scanner (List Char) := fun input =>
  match word [quote, quote, quote] input with
  | some _ => none
  | none => (char quote *> pure [quote]) input

/-- A backslash at the end of a line, with all blanks and line ends behind it. -/
def continuation : Scanner (List Char) := do
  char '\\'
  blanks
  newline
  skipMany ((do let _ ← satisfy isBlank) <|> newline)
  return []

def lineBreak : Scanner (List Char) := newline *> pure ['\n']

def multilineString (quote : Char) (piece : Scanner (List Char)) : Scanner String := do
  word [quote, quote, quote]
  let _ ← optional newline
  let pieces ← many piece
  let last ← closing quote
  return String.ofList (pieces.flatten ++ last)

def multilineBasicString : Scanner String :=
  multilineString '"' <|
    (do return [← satisfy isPlain]) <|> continuation <|> (do return [← escape]) <|>
      lineBreak <|> innerQuote '"'

def multilineLiteralString : Scanner String :=
  multilineString '\'' <|
    (do return [← satisfy isLiteral]) <|> lineBreak <|> innerQuote '\''

def string : Scanner String :=
  multilineBasicString <|> basicString <|> multilineLiteralString <|> literalString

end Strings

section Numbers

/-- Digits with single underscores between them. -/
def digits (accepts : Char → Bool) : Scanner (List Char) := do
  let first ← satisfy accepts
  let others ← many (satisfy accepts <|> (char '_' *> satisfy accepts))
  return first :: others

def isNonzeroDigit (char : Char) : Bool := char.isDigit && char ≠ '0'

/-- Whether a minus sign stands in front. -/
def sign : Scanner Bool :=
  (char '-' *> pure true) <|> (char '+' *> pure false) <|> pure false

/-- Decimal digits without a zero in front. -/
def decimalDigits : Scanner (List Char) := do
  match ← optional (satisfy isNonzeroDigit) with
  | some first =>
      return first :: (← many (satisfy Char.isDigit <|> (char '_' *> satisfy Char.isDigit)))
  | none => return [← satisfy Char.isDigit]

/-- Integers have 64 bits. -/
def fitted (value : Int) : Scanner Value :=
  if Int64.minValue.toInt ≤ value && value ≤ Int64.maxValue.toInt then return .integer value else failure

def basedInteger (letter : Char) (base : Nat) : Scanner Value := do
  char '0'
  char letter
  let content ← digits fun char => (hexDigit? char).any fun digit => digit < base
  fitted (digitsValue base content)

def decimalInteger : Scanner Value := do
  let negative ← sign
  let magnitude : Int := digitsValue 10 (← decimalDigits)
  fitted (if negative then -magnitude else magnitude)

def integer : Scanner Value :=
  basedInteger 'x' 16 <|> basedInteger 'o' 8 <|> basedInteger 'b' 2 <|> decimalInteger

/-- The least real that rounds to infinity in double precision. -/
def infinityBound : Nat := Nat.pow 2 1024 - Nat.pow 2 970

/-- Whether `coefficient * 10 ^ exponent` is too large for double precision. The
number of digits settles it unless the number is close to the bound. -/
def overflows (coefficient : Nat) (exponent : Int) : Bool :=
  let places : Int := (toString coefficient).length + exponent
  if coefficient = 0 || places < 309 then false
  else if 309 < places then true
  else if 0 ≤ exponent then infinityBound ≤ coefficient * Nat.pow 10 exponent.toNat
  else infinityBound * Nat.pow 10 (-exponent).toNat ≤ coefficient

def exponentPart : Scanner Int := do
  let _ ← satisfy fun char => char = 'e' || char = 'E'
  let negative ← sign
  let magnitude : Int := digitsValue 10 (← digits Char.isDigit)
  return if negative then -magnitude else magnitude

/-- A number with a fraction or an exponent. A positive one must be finite. -/
def decimalFloat : Scanner Value := do
  let negative ← sign
  let whole ← decimalDigits
  let fraction ← optional (char '.' *> digits Char.isDigit)
  let exponent ← optional exponentPart
  if fraction.isNone && exponent.isNone then failure
  let places := fraction.getD []
  let coefficient := digitsValue 10 (whole ++ places)
  if !negative && overflows coefficient (exponent.getD 0 - places.length) then failure
  return .float

def specialFloat : Scanner Value := do
  let _ ← sign
  word ['i', 'n', 'f'] <|> word ['n', 'a', 'n']
  return .float

end Numbers

section Moments

/-- A number of exactly `count` digits, between two bounds. -/
def field (count low high : Nat) : Scanner Nat := do
  let value := digitsValue 10 (← exactly count (satisfy Char.isDigit))
  if low ≤ value && value ≤ high then return value else failure

def isLeapYear (year : Nat) : Bool := year % 4 = 0 && (year % 100 ≠ 0 || year % 400 = 0)

def daysInMonth (year month : Nat) : Nat :=
  if month = 2 then (if isLeapYear year then 29 else 28)
  else if month = 4 || month = 6 || month = 9 || month = 11 then 30
  else 31

def date : Scanner Unit := do
  let year ← field 4 0 9999
  char '-'
  let month ← field 2 1 12
  char '-'
  let _ ← field 2 1 (daysInMonth year month)

def timeOfDay : Scanner Unit := do
  let _ ← field 2 0 23
  char ':'
  let _ ← field 2 0 59
  char ':'
  let _ ← field 2 0 60
  let _ ← optional (char '.' *> many1 (satisfy Char.isDigit))

def offset : Scanner Unit :=
  char 'Z' <|> char 'z' <|> do
    char '+' <|> char '-'
    let _ ← field 2 0 23
    char ':'
    let _ ← field 2 0 59

/-- A date, a time of day, or both, then also with an offset from world time. -/
def moment : Scanner Value :=
  (do
    date
    let _ ← optional do
      char 'T' <|> char 't' <|> char ' '
      timeOfDay
      let _ ← optional offset
    return .moment) <|>
  (do
    timeOfDay
    return .moment)

end Moments

def boolean : Scanner Value :=
  (word ['t', 'r', 'u', 'e'] *> pure (.boolean true)) <|>
    (word ['f', 'a', 'l', 's', 'e'] *> pure (.boolean false))

/-- A value without values inside it. Whatever can be read as a moment is one, and
a number is an integer only if it is nothing else. -/
def scalar : Scanner Value :=
  (Value.string <$> string) <|> boolean <|> moment <|> decimalFloat <|> specialFloat <|> integer

section Keys

def isKeyChar (char : Char) : Bool := char.isAlphanum || char = '_' || char = '-'

def simpleKey : Scanner String :=
  basicString <|> literalString <|> (String.ofList <$> many1 (satisfy isKeyChar))

/-- How deep keys and values may be nested. -/
def nestingLimit : Nat := 79

/-- A key and the tables on the way to it. -/
structure Path where
  tables : List String
  key : String
  deriving DecidableEq, Repr, Inhabited

def Path.ofKeys? : List String → Option Path
  | [] => none
  | [key] => some ⟨[], key⟩
  | first :: second :: others =>
      (ofKeys? (second :: others)).map fun path => ⟨first :: path.tables, path.key⟩

def path : Scanner Path := do
  let keys ← separated1 (blanks *> simpleKey <* blanks) (char '.')
  if nestingLimit < keys.length then failure
  match Path.ofKeys? keys with
  | some path => return path
  | none => failure

end Keys

end InventorySync.Toml
