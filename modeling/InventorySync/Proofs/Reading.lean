import InventorySync.Bytes.Decoder
import Mathlib.Algebra.Group.Nat.Defs

/-!
What a reader makes of the bytes that a writer left. A reader that is put together from
smaller ones reads what they read, one piece behind the other; the bytes behind the last
piece are never looked at.
-/

namespace InventorySync.Decoder

set_option autoImplicit false

section Logic

variable {ε δ α β : Type}

/-- The reader takes these bytes for this value, whatever is behind them. -/
def Reads (reader : Decoder ε α) (bytes : Bytes) (value : α) : Prop :=
  ∀ tail, reader (bytes ++ tail) = .ok (value, tail)

/-- The reader fails on these bytes, whatever is behind them. -/
def Refuses (reader : Decoder ε α) (bytes : Bytes) (failure : ε) : Prop :=
  ∀ tail, reader (bytes ++ tail) = .error failure

/-- The reader takes the bytes for the value if a condition holds, and fails otherwise. -/
structure ReadsIf (condition : Prop) (failure : ε) (reader : Decoder ε α) (bytes : Bytes)
    (value : α) : Prop where
  reads : condition → Reads reader bytes value
  refuses : ¬condition → Refuses reader bytes failure

theorem bind_of_ok {reader : Decoder ε α} {next : α → Decoder ε β} {input rest : Bytes}
    {value : α} (succeeds : reader input = .ok (value, rest)) :
    (reader >>= next) input = next value rest := by
  change (reader input >>= fun answer => next answer.1 answer.2) = _
  rw [succeeds]
  rfl

theorem bind_of_error {reader : Decoder ε α} {next : α → Decoder ε β} {input : Bytes}
    {failure : ε} (fails : reader input = .error failure) :
    (reader >>= next) input = .error failure := by
  change (reader input >>= fun answer => next answer.1 answer.2) = _
  rw [fails]
  rfl

variable {reader : Decoder ε α} {next : α → Decoder ε β} {first second : Bytes} {value : α}
  {result : β} {condition other : Prop} {failure : ε}

namespace Reads

theorem pure (value : α) : Reads (pure value : Decoder ε α) [] value := fun _ => rfl

theorem bind (head : Reads reader first value) (tail : Reads (next value) second result) :
    Reads (reader >>= next) (first ++ second) result := by
  intro rest
  rw [List.append_assoc, bind_of_ok (head _)]
  exact tail rest

theorem map (change : α → β) (head : Reads reader first value) :
    Reads (do return change (← reader)) first (change value) := by
  intro rest
  rw [bind_of_ok (head rest)]
  rfl

theorem byte {short : Nat → ε} (first : UInt8) : Reads (Decoder.byte short) [first] first :=
  fun _ => rfl

theorem cons {short : Nat → ε} {next : UInt8 → Decoder ε β} {first : UInt8}
    (tail : Reads (next first) second result) :
    Reads (Decoder.byte short >>= next) (first :: second) result :=
  (byte first).bind tail

theorem take {short : Nat → ε} (bytes : Bytes) :
    Reads (Decoder.take bytes.length short) bytes bytes := by
  intro rest
  unfold Decoder.take
  rw [split?_append]

theorem unsigned {short : Nat → ε} (width number : Nat) :
    Reads (Decoder.unsigned width short) (littleEndianBytes width number)
      (number % 256 ^ width) := by
  have taken : Reads (Decoder.take (littleEndianBytes width number).length short)
      (littleEndianBytes width number) (littleEndianBytes width number) := take _
  have number := taken.map littleEndian
  rw [length_littleEndianBytes, littleEndian_littleEndianBytes] at number
  exact number

theorem text {short : Nat → ε} {invalid : ε} (content : String) :
    Reads (Decoder.text (utf8Bytes content).length short invalid) (utf8Bytes content)
      content := by
  have back : String.fromUTF8? (ByteArray.mk (utf8Bytes content).toArray) = some content := by
    unfold utf8Bytes
    rw [Array.toArray_toList]
    exact dif_pos content.isValidUTF8
  intro rest
  unfold Decoder.text
  rw [bind_of_ok (take (utf8Bytes content) rest)]
  simp only [back]
  rfl

theorem mapError {wrap : ε → δ} (head : Reads reader first value) :
    Reads (Decoder.mapError wrap reader) first value := by
  intro rest
  unfold Decoder.mapError
  rw [head rest]
  rfl

end Reads

namespace ReadsIf

theorem bind (head : ReadsIf condition failure reader first value)
    (tail : ReadsIf other failure (next value) second result) :
    ReadsIf (condition ∧ other) failure (reader >>= next) (first ++ second) result := by
  refine ⟨fun both => (head.reads both.1).bind (tail.reads both.2), ?_⟩
  -- If both pieces are to be refused, it is the first one that is noticed.
  intro missed rest
  rw [List.append_assoc]
  by_cases met : condition
  · rw [bind_of_ok (head.reads met _)]
    exact tail.refuses (fun also => missed ⟨met, also⟩) rest
  · exact bind_of_error (head.refuses met _)

theorem of_reads (always : condition) (reads : Reads reader first value) :
    ReadsIf condition failure reader first value :=
  ⟨fun _ => reads, fun never => absurd always never⟩

theorem congr (same : condition ↔ other) (head : ReadsIf condition failure reader first value) :
    ReadsIf other failure reader first value :=
  ⟨fun met => head.reads (same.2 met), fun missed => head.refuses fun met => missed (same.1 met)⟩

theorem after (head : Reads reader first value)
    (tail : ReadsIf condition failure (next value) second result) :
    ReadsIf condition failure (reader >>= next) (first ++ second) result :=
  congr (iff_of_eq (true_and condition)) ((of_reads trivial head).bind tail)

theorem map (change : α → β) (head : ReadsIf condition failure reader first value) :
    ReadsIf condition failure (do return change (← reader)) first (change value) :=
  ⟨fun met => (head.reads met).map change, fun missed _ => bind_of_error (head.refuses missed _)⟩

end ReadsIf

end Logic

section Rows

variable {ε α : Type} {failure : ε} {reader : Decoder ε α} {encode : α → Bytes}

/-- Values in a row are read as far as the first one that is refused. -/
theorem ReadsIf.replicate {fits : α → Prop} {values : List α}
    (each : ∀ value ∈ values, ReadsIf (fits value) failure reader (encode value) value) :
    ReadsIf (∀ value ∈ values, fits value) failure (Decoder.replicate reader values.length)
      (values.flatMap encode) values := by
  induction values with
  | nil => exact .of_reads (fun _ member => nomatch member) (Reads.pure [])
  | cons first others induction =>
      have head := each first List.mem_cons_self
      have tail := induction fun value member => each value (List.mem_cons_of_mem _ member)
      rw [List.flatMap_cons]
      refine ReadsIf.congr ?_ (head.bind (tail.map (first :: ·)))
      rw [List.forall_mem_cons]

theorem Reads.replicate {values : List α}
    (each : ∀ value ∈ values, Reads reader (encode value) value) :
    Reads (Decoder.replicate reader values.length) (values.flatMap encode) values := by
  induction values with
  | nil => exact Reads.pure []
  | cons first others induction =>
      have head := each first List.mem_cons_self
      have tail := induction fun value member => each value (List.mem_cons_of_mem _ member)
      rw [List.flatMap_cons]
      exact head.bind (tail.map (first :: ·))

/-- Written values are at least as many bytes as they are values. -/
theorem length_le_flatMap {values : List α}
    (visible : ∀ value ∈ values, encode value ≠ []) :
    values.length ≤ (values.flatMap encode).length := by
  induction values with
  | nil => exact Nat.le_refl 0
  | cons first others induction =>
      have one := List.length_pos_iff.2 (visible first List.mem_cons_self)
      have more := induction fun value member => visible value (List.mem_cons_of_mem _ member)
      rw [List.flatMap_cons, List.length_append, List.length_cons]
      omega

variable {optional : Decoder ε (Option α)} {exhausted : ε} {last : Bytes} {fits : α → Prop}
  {values : List α}

theorem ReadsIf.repeatWithin (stops : Reads optional last none)
    (each : ∀ value ∈ values,
      ReadsIf (fits value) failure optional (encode value) (some value))
    {rounds : Nat} (enough : values.length < rounds) :
    ReadsIf (∀ value ∈ values, fits value) failure
      (Decoder.repeatWithin optional exhausted rounds) (values.flatMap encode ++ last) values := by
  induction values generalizing rounds with
  | nil =>
      obtain ⟨rounds, rfl⟩ := Nat.exists_eq_add_one.2 enough
      refine .of_reads (fun _ member => nomatch member) ?_
      exact fun tail => bind_of_ok (stops tail)
  | cons first others induction =>
      obtain ⟨rounds, rfl⟩ := Nat.exists_eq_add_one.2 (Nat.zero_lt_of_lt enough)
      have head := each first List.mem_cons_self
      have tail := induction (fun value member => each value (List.mem_cons_of_mem _ member))
        (Nat.lt_of_succ_lt_succ enough)
      rw [List.flatMap_cons, List.append_assoc]
      refine ReadsIf.congr ?_ (head.bind (tail.map (first :: ·)))
      rw [List.forall_mem_cons]

theorem ReadsIf.repeatUntilNone (stops : Reads optional last none)
    (each : ∀ value ∈ values,
      ReadsIf (fits value) failure optional (encode value) (some value))
    (visible : ∀ value ∈ values, encode value ≠ []) :
    ReadsIf (∀ value ∈ values, fits value) failure
      (Decoder.repeatUntilNone optional exhausted) (values.flatMap encode ++ last) values := by
  -- The rounds are counted off the whole input, so there are enough for any tail.
  have within (tail : Bytes) : ReadsIf (∀ value ∈ values, fits value) failure
      (Decoder.repeatWithin optional exhausted ((values.flatMap encode ++ last ++ tail).length + 1))
      (values.flatMap encode ++ last) values := by
    refine .repeatWithin stops each ?_
    have room := length_le_flatMap visible
    rw [List.length_append, List.length_append]
    omega
  exact ⟨fun met tail => (within tail).reads met tail,
    fun missed tail => (within tail).refuses missed tail⟩

end Rows

/-- A length that fits into four bytes with a sign is read as itself. -/
theorem length_of_int32 {length : Nat} (bounded : length < 2 ^ 31) :
    ¬Int32.ofNat length < 0 ∧ (Int32.ofNat length).toInt.toNat = length := by
  have number : (Int32.ofNat length).toInt = length := Int32.toInt_ofNat_of_lt bounded
  refine ⟨?_, by rw [number]; rfl⟩
  rw [Int32.lt_iff_toInt_lt, number]
  exact Int.not_lt.2 (Int.natCast_nonneg length)

end InventorySync.Decoder
