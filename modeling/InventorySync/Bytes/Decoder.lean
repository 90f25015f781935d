/-!
Readers of byte strings. A reader takes bytes off the front and answers a value
together with the bytes behind it, or the first error it meets. Every format of
this library is read by composing the few readers below, so no reader looks
past the end of the value it answers.
-/

namespace InventorySync

set_option autoImplicit false

abbrev Bytes := List UInt8

/-- A reader whose failures are of type `ε`. -/
abbrev Decoder (ε : Type) := StateT Bytes (Except ε)

namespace Decoder

variable {ε δ α : Type}

/-- Cuts exactly `count` bytes off the front. A count past the end is noticed at
the end, so an absurd count costs no more than the bytes that are there. -/
def split? : Nat → Bytes → Option (Bytes × Bytes)
  | 0, input => some ([], input)
  | _ + 1, [] => none
  | count + 1, byte :: rest =>
      (split? count rest).map fun (taken, left) => (byte :: taken, left)

theorem split?_append (front back : Bytes) :
    split? front.length (front ++ back) = some (front, back) := by
  induction front with
  | nil => rfl
  | cons first others induction => simp [split?, induction]

theorem eq_append_of_split? {count : Nat} {input taken left : Bytes}
    (cut : split? count input = some (taken, left)) :
    input = taken ++ left ∧ taken.length = count := by
  induction count generalizing input taken with
  | zero =>
      simp only [split?, Option.some.injEq, Prod.mk.injEq] at cut
      simp [← cut.1, cut.2]
  | succ count induction =>
      cases input with
      | nil => simp [split?] at cut
      | cons first others =>
          simp only [split?, Option.map_eq_some_iff] at cut
          obtain ⟨⟨front, back⟩, found, same⟩ := cut
          simp only [Prod.mk.injEq] at same
          obtain ⟨rfl, rfl⟩ := same
          simp [← (induction found).1, (induction found).2]

theorem split?_eq_none_iff {count : Nat} {input : Bytes} :
    split? count input = none ↔ input.length < count := by
  induction count generalizing input with
  | zero => simp [split?]
  | succ count induction =>
      cases input with
      | nil => simp [split?]
      | cons first others => simp [split?, induction]

/-- Takes `count` bytes. On failure `short` sees how many bytes were there. -/
def take (count : Nat) (short : Nat → ε) : Decoder ε Bytes := fun input =>
  match split? count input with
  | some cut => .ok cut
  | none => .error (short input.length)

/-- Asks for `count` bytes without taking them. -/
def require (count : Nat) (short : Nat → ε) : Decoder ε Unit := fun input =>
  match split? count input with
  | some _ => .ok ((), input)
  | none => .error (short input.length)

def byte (short : Nat → ε) : Decoder ε UInt8
  | [] => .error (short 0)
  | first :: rest => .ok (first, rest)

/-- The number whose digits to base 256 are the bytes, least digit first. -/
def littleEndian : Bytes → Nat
  | [] => 0
  | low :: high => low.toNat + 256 * littleEndian high

/-- An unsigned number of `width` bytes, least byte first. -/
def unsigned (width : Nat) (short : Nat → ε) : Decoder ε Nat := do
  return littleEndian (← take width short)

/-- Takes `count` bytes as text. -/
def text (count : Nat) (short : Nat → ε) (invalid : ε) : Decoder ε String := do
  let bytes ← take count short
  match String.fromUTF8? (ByteArray.mk bytes.toArray) with
  | some content => return content
  | none => throw invalid

/-- Reads `count` values in a row. -/
def replicate (reader : Decoder ε α) : Nat → Decoder ε (List α)
  | 0 => return []
  | count + 1 => do
      let first ← reader
      let others ← replicate reader count
      return first :: others

/-- Reads values until `reader` answers that none follows, for at most `rounds`
rounds. -/
def repeatWithin (reader : Decoder ε (Option α)) (exhausted : ε) : Nat → Decoder ε (List α)
  | 0 => throw exhausted
  | rounds + 1 => do
      match ← reader with
      | none => return []
      | some first => return first :: (← repeatWithin reader exhausted rounds)

/-- Reads values until `reader` answers that none follows. A reader that takes at
least one byte a round can make no more rounds than there are bytes, and one
more to find the end: `exhausted` is then what it says at the end of input. -/
def repeatUntilNone (reader : Decoder ε (Option α)) (exhausted : ε) : Decoder ε (List α) :=
  fun input => repeatWithin reader exhausted (input.length + 1) input

/-- Reads with a reader of another format and wraps its failures. -/
def mapError (wrap : δ → ε) (reader : Decoder δ α) : Decoder ε α := fun input =>
  (reader input).mapError wrap

end Decoder

/-- The `width` lowest digits of a number to base 256, least digit first. -/
def littleEndianBytes : Nat → Nat → Bytes
  | 0, _ => []
  | width + 1, number => UInt8.ofNat number :: littleEndianBytes width (number / 256)

theorem length_littleEndianBytes (width number : Nat) :
    (littleEndianBytes width number).length = width := by
  induction width generalizing number with
  | zero => rfl
  | succ width induction => simp [littleEndianBytes, induction]

theorem littleEndian_littleEndianBytes (width number : Nat) :
    Decoder.littleEndian (littleEndianBytes width number) = number % Nat.pow 256 width := by
  induction width generalizing number with
  | zero => simp [littleEndianBytes, Decoder.littleEndian, Nat.mod_one]
  | succ width induction =>
      have unfolded : Nat.pow 256 (width + 1) = 256 * Nat.pow 256 width := Nat.mul_comm _ _
      have lowest : (UInt8.ofNat number).toNat = number % 256 := UInt8.toNat_ofNat'
      rw [littleEndianBytes, Decoder.littleEndian, induction, unfolded, lowest, Nat.mod_mul]

def utf8Bytes (content : String) : Bytes := content.toUTF8.data.toList

end InventorySync
