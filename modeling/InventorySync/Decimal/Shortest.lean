/-!
Decimal text of binary floating-point numbers. A finite number is printed with
the fewest digits that no other number of its format is nearer to, written out
in full: never with an exponent, and with a point only if a fraction follows.

A number is `mantissa * 2 ^ exponent`, and the reals nearest to it form an
interval. All tests on that interval are done on natural numbers, in quarters of
the last binary place, so nothing is rounded on the way.
-/

namespace InventorySync.Decimal

set_option autoImplicit false

/-- How the bits of a number are divided between exponent and mantissa. The sign
is the bit above both. -/
structure Layout where
  exponentBits : Nat
  mantissaBits : Nat
  deriving DecidableEq, Repr

def Layout.single : Layout := ⟨8, 23⟩

def Layout.double : Layout := ⟨11, 52⟩

/-- The number `mantissa * 2 ^ exponent` without its sign. -/
structure Magnitude where
  mantissa : Nat
  exponent : Int
  /-- The next smaller number is only half as far away as the next larger one,
  because the exponent changes between them. -/
  closerBelow : Bool
  deriving DecidableEq, Repr

inductive Reading where
  | notANumber
  | infinite (negative : Bool)
  | finite (negative : Bool) (magnitude : Magnitude)
  deriving DecidableEq, Repr

namespace Layout

variable (layout : Layout)

def isNegative (bits : Nat) : Bool :=
  bits / Nat.pow 2 (layout.exponentBits + layout.mantissaBits) % 2 = 1

def exponentField (bits : Nat) : Nat :=
  bits / Nat.pow 2 layout.mantissaBits % Nat.pow 2 layout.exponentBits

def mantissaField (bits : Nat) : Nat := bits % Nat.pow 2 layout.mantissaBits

/-- The weight of the last place of the smallest numbers. -/
def leastExponent : Int :=
  2 - Int.ofNat (Nat.pow 2 (layout.exponentBits - 1)) - layout.mantissaBits

def read (bits : Nat) : Reading :=
  let negative := layout.isNegative bits
  let field := layout.exponentField bits
  let fraction := layout.mantissaField bits
  if field = Nat.pow 2 layout.exponentBits - 1 then
    if fraction = 0 then .infinite negative else .notANumber
  else if field = 0 then
    .finite negative ⟨fraction, layout.leastExponent, false⟩
  else
    .finite negative ⟨Nat.pow 2 layout.mantissaBits + fraction,
      layout.leastExponent + (field - 1), fraction = 0 && field ≠ 1⟩

/-- Equality of the numbers that two bit patterns stand for: the two zeros are
equal and a pattern that is not a number equals nothing. -/
def sameNumber (left right : Nat) : Bool :=
  match layout.read left, layout.read right with
  | .notANumber, _ => false
  | _, .notANumber => false
  | .finite _ ⟨0, _, _⟩, .finite _ ⟨0, _, _⟩ => true
  | first, second => first = second

end Layout

/-- The ratio of two natural numbers, the second of which is not zero. -/
structure Ratio where
  num : Nat
  den : Nat
  deriving DecidableEq, Repr

/-- `value * base ^ power`. -/
def Ratio.scale (value : Ratio) (base : Nat) : Int → Ratio
  | .ofNat power => ⟨value.num * Nat.pow base power, value.den⟩
  | .negSucc power => ⟨value.num, value.den * Nat.pow base (power + 1)⟩

/-- `coefficient * 10 ^ exponent`. -/
structure Digits where
  coefficient : Nat
  exponent : Int
  deriving DecidableEq, Repr

namespace Magnitude

/-- Looks for a multiple of `10 ^ exponent` that is nearer to the magnitude than
to any other number. Only the two multiples around the magnitude can be. Of two
hits the nearer one is taken, and the larger one if they are equally near. -/
def onGrid? (magnitude : Magnitude) (exponent : Int) : Option Digits :=
  let quarter := ((Ratio.mk 1 1).scale 2 (magnitude.exponent - 2)).scale 10 (-exponent)
  let value := 4 * magnitude.mantissa * quarter.num
  let low := value - (if magnitude.closerBelow then 1 else 2) * quarter.num
  let high := value + 2 * quarter.num
  let inside (point : Nat) : Bool :=
    if magnitude.mantissa % 2 = 0 then low ≤ point && point ≤ high
    else low < point && point < high
  let below := value / quarter.den
  let downward := inside (below * quarter.den)
  let upward := inside ((below + 1) * quarter.den)
  let nearerAbove := (below + 1) * quarter.den - value ≤ value - below * quarter.den
  if upward && (!downward || nearerAbove) then some ⟨below + 1, exponent⟩
  else if downward then some ⟨below, exponent⟩
  else none

/-- Tries ever finer grids, `rounds` of them. -/
def searchFrom (magnitude : Magnitude) (exponent : Int) : Nat → Option Digits
  | 0 => none
  | rounds + 1 =>
      match magnitude.onGrid? exponent with
      | some found => some found
      | none => magnitude.searchFrom (exponent - 1) rounds

/-- The exponent of a power of ten above the magnitude. Ten lies between `2 ^ 3`
and `2 ^ 4`, so a third of the binary places is enough above one, and a quarter
below. -/
def topExponent (magnitude : Magnitude) : Int :=
  let bits : Int := magnitude.exponent + (Nat.log2 magnitude.mantissa + 1)
  if bits ≤ 0 then bits / 4 + 1 else bits / 3 + 1

/-- The fewest digits that identify the magnitude. The grids start above the
magnitude and end where its own last binary place is a multiple of the grid. -/
def shortest (magnitude : Magnitude) : Digits :=
  let top := magnitude.topExponent
  let last := min magnitude.exponent 0
  (magnitude.searchFrom top ((top - last).toNat + 1)).getD ⟨0, 0⟩

end Magnitude

def zeros (count : Nat) : String := "".pushn '0' count

/-- Writes a decimal out in full. -/
def Digits.positional (decimal : Digits) : String :=
  let digits := toString decimal.coefficient
  match decimal.exponent with
  | .ofNat shift => digits ++ zeros shift
  | .negSucc shift =>
      let places := shift + 1
      let padded := zeros (places + 1 - digits.length) ++ digits
      let whole := padded.toList.take (padded.length - places)
      let fraction := padded.toList.drop (padded.length - places)
      String.ofList whole ++ "." ++ String.ofList fraction

/-- The text of the number with these bits. -/
def Layout.text (layout : Layout) (bits : Nat) : String :=
  match layout.read bits with
  | .notANumber => "NaN"
  | .infinite negative => if negative then "-inf" else "inf"
  | .finite negative magnitude =>
      let unsignedText :=
        if magnitude.mantissa = 0 then "0" else magnitude.shortest.positional
      if negative then "-" ++ unsignedText else unsignedText

end InventorySync.Decimal
