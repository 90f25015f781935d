/-!
Numbers in groups of seven bits, least group first; every byte but the last has
its high bit set. Signed numbers are folded onto the natural numbers first, so
that small magnitudes of either sign stay short.
-/

namespace InventorySync.Varint

set_option autoImplicit false

inductive Error where
  | endOfInput
  /-- None of the first `limit` bytes ends the number. -/
  | tooLong (limit : Nat)
  deriving DecidableEq, Repr

def Error.message : Error → String
  | .endOfInput => "buffer too short"
  | .tooLong limit => s!"VarInt is too long (more than {limit} bytes)"

/-- Writes the fewest groups that hold the number. -/
def encode (number : Nat) : List UInt8 :=
  if number < 128 then
    [UInt8.ofNat number]
  else
    UInt8.ofNat (number % 128 + 128) :: encode (number / 128)

/-- Reads groups up to the first byte without the high bit, of which there must
be one among the next `groups` bytes. The number is exact: the reader of a
fixed width drops the bits that do not fit. -/
def decodeWithin (limit : Nat) : Nat → List UInt8 → Except Error (Nat × List UInt8)
  | 0, _ => .error (.tooLong limit)
  | _ + 1, [] => .error .endOfInput
  | groups + 1, byte :: rest =>
      if byte < 128 then
        .ok (byte.toNat, rest)
      else do
        let (high, left) ← decodeWithin limit groups rest
        return (byte.toNat % 128 + 128 * high, left)

def decode (limit : Nat) (input : List UInt8) : Except Error (Nat × List UInt8) :=
  decodeWithin limit limit input

theorem decodeWithin_encode (limit groups number : Nat) (rest : List UInt8)
    (fits : number < Nat.pow 128 (groups + 1)) :
    decodeWithin limit (groups + 1) (encode number ++ rest) = .ok (number, rest) := by
  have short {value : Nat} (small : value < 128) (rounds : Nat) :
      decodeWithin limit (rounds + 1) ([UInt8.ofNat value] ++ rest) = .ok (value, rest) := by
    have kept : (UInt8.ofNat value).toNat = value := by
      rw [UInt8.toNat_ofNat']
      omega
    have low : UInt8.ofNat value < 128 := by
      rw [UInt8.lt_iff_toNat_lt, kept]
      exact small
    rw [List.singleton_append, decodeWithin, if_pos low, kept]
  induction groups generalizing number with
  | zero =>
      have small : number < 128 := fits
      rw [encode, if_pos small, short small]
  | succ groups induction =>
      rw [encode]
      split
      · next small => exact short small _
      · have kept : (UInt8.ofNat (number % 128 + 128)).toNat = number % 128 + 128 := by
          rw [UInt8.toNat_ofNat']
          omega
        have high : ¬UInt8.ofNat (number % 128 + 128) < 128 := by
          rw [UInt8.lt_iff_toNat_lt, kept]
          exact Nat.not_lt.2 (Nat.le_add_left 128 _)
        have quotient : number / 128 < Nat.pow 128 (groups + 1) := by
          rw [Nat.div_lt_iff_lt_mul (by decide)]
          exact fits
        have sum : (number % 128 + 128) % 128 + 128 * (number / 128) = number := by omega
        rw [List.cons_append, decodeWithin, if_neg high, induction _ quotient, kept]
        show Except.ok _ = Except.ok _
        rw [sum]

/-- Whatever fits into the allowed groups is read back, and nothing behind it is
touched. -/
theorem decode_encode (groups number : Nat) (rest : List UInt8)
    (fits : number < Nat.pow 128 (groups + 1)) :
    decode (groups + 1) (encode number ++ rest) = .ok (number, rest) :=
  decodeWithin_encode (groups + 1) groups number rest fits

/-- Non-negative numbers become even and negative ones odd. -/
def zigzag : Int → Nat
  | .ofNat number => 2 * number
  | .negSucc number => 2 * number + 1

def unzigzag (number : Nat) : Int :=
  if number % 2 = 0 then .ofNat (number / 2) else .negSucc (number / 2)

theorem unzigzag_zigzag (number : Int) : unzigzag (zigzag number) = number := by
  cases number with
  | ofNat number => simp [zigzag, unzigzag]
  | negSucc number =>
      have odd : (2 * number + 1) % 2 = 1 := by omega
      have half : (2 * number + 1) / 2 = number := by omega
      simp [zigzag, unzigzag, odd, half]

theorem zigzag_unzigzag (number : Nat) : zigzag (unzigzag number) = number := by
  unfold unzigzag
  split
  · simp only [zigzag]
    omega
  · simp only [zigzag]
    omega

end InventorySync.Varint
