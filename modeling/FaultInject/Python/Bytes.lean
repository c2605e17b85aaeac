import FaultInject.Python.Result
import Mathlib.Algebra.Group.Nat.Defs
import Mathlib.Data.List.Induction

namespace FaultInject.Python

/-- A `bytes` object. -/
abbrev Bytes := List UInt8

/-- This is the slice `data[start:stop]` with nonnegative bounds. -/
def slice (data : Bytes) (start stop : Nat) : Bytes := (data.drop start).take (stop - start)

/-- This is the item `data[index]`. -/
def byteAt (data : Bytes) (index : Nat) : Result UInt8 :=
  match data[index]? with
  | some byte => .ok byte
  | none => .error (.indexError "index out of range")

/-- This is `int.from_bytes(data, "big")`. -/
def fromBytes (data : Bytes) : Nat := data.foldl (fun total byte => 256 * total + byte.toNat) 0

/-- These are the `width` low bytes of `value`, the most significant byte first. -/
def bigEndian : (width : Nat) → (value : Nat) → Bytes
  | 0, _ => []
  | width + 1, value => bigEndian width (value / 256) ++ [UInt8.ofNat value]

/-- This is `value.to_bytes(width, "big")`. -/
def toBytes (value width : Nat) : Result Bytes :=
  if value < 256 ^ width then .ok (bigEndian width value)
  else .error (.overflowError "int too big to convert")

/-- The data carries the chunk at the offset. -/
def BytesAt (data : Bytes) (offset : Nat) (chunk : Bytes) : Prop := chunk <+: data.drop offset

section BytesAt
variable {data chunk first second : Bytes} {offset : Nat}

@[simp] theorem bytesAt_nil : BytesAt data offset [] := List.nil_prefix

/-- A carried chunk ends inside the data. -/
theorem BytesAt.length_le (carried : BytesAt data offset chunk) :
    chunk.length ≤ data.length - offset := by
  simpa only [List.length_drop] using List.IsPrefix.length_le carried

/-- A nonempty carried chunk starts inside the data. -/
theorem BytesAt.end_le (carried : BytesAt data offset chunk) (nonempty : chunk ≠ []) :
    offset + chunk.length ≤ data.length := by
  have inside := carried.length_le
  have positive := List.length_pos_of_ne_nil nonempty
  omega

/-- A chunk is carried in two consecutive parts. -/
theorem bytesAt_append :
    BytesAt data offset (first ++ second) ↔
      BytesAt data offset first ∧ BytesAt data (offset + first.length) second := by
  constructor
  · rintro ⟨rest, same⟩
    have whole : first ++ (second ++ rest) = data.drop offset := by
      rw [← same, List.append_assoc]
    refine ⟨⟨second ++ rest, whole⟩, ⟨rest, ?_⟩⟩
    rw [← List.drop_drop, ← whole, List.drop_left]
  · rintro ⟨⟨rest, same⟩, ⟨last, tail⟩⟩
    refine ⟨last, ?_⟩
    rw [← List.drop_drop, ← same, List.drop_left] at tail
    rw [← same, ← tail, List.append_assoc]

theorem bytesAt_cons {byte : UInt8} :
    BytesAt data offset (byte :: chunk) ↔
      BytesAt data offset [byte] ∧ BytesAt data (offset + 1) chunk :=
  show BytesAt data offset ([byte] ++ chunk) ↔ _ from bytesAt_append

/-- The slice over a carried chunk is the chunk. -/
theorem BytesAt.slice_eq {stop : Nat} (carried : BytesAt data offset chunk)
    (width : stop = offset + chunk.length) : slice data offset stop = chunk := by
  obtain ⟨rest, same⟩ := carried
  rw [slice, ← same, width, Nat.add_sub_cancel_left, List.take_left]

/-- The data carries each of its slices. -/
theorem bytesAt_slice (data : Bytes) (start stop : Nat) :
    BytesAt data start (slice data start stop) := List.take_prefix _ _

/-- A carried chunk moves along an equation of offsets. -/
theorem BytesAt.move {other : Nat} (carried : BytesAt data offset chunk)
    (same : offset = other) : BytesAt data other chunk := same ▸ carried

/-- Two carried chunks of one length are equal. -/
theorem BytesAt.unique {other : Bytes} (carried : BytesAt data offset chunk)
    (again : BytesAt data offset other) (width : chunk.length = other.length) :
    chunk = other := by
  exact (carried.slice_eq rfl).symm.trans (again.slice_eq (by rw [width]))

/-- The second part of a concatenation is carried after the first part. -/
theorem bytesAt_of_append (before chunk after : Bytes) :
    BytesAt (before ++ (chunk ++ after)) before.length chunk := by
  refine ⟨after, ?_⟩
  rw [List.drop_left]

/-- Data that carries a chunk at its start continues with the remaining bytes. -/
theorem bytesAt_zero : BytesAt data 0 chunk ↔ data = chunk ++ data.drop chunk.length := by
  constructor
  · rintro ⟨rest, same⟩
    rw [List.drop_zero] at same
    rw [← same, List.drop_left]
  · intro same
    exact ⟨data.drop chunk.length, by rw [List.drop_zero]; exact same.symm⟩

/-- More data behind the end keeps every carried chunk. -/
theorem BytesAt.append (carried : BytesAt data offset chunk) (rest : Bytes) :
    BytesAt (data ++ rest) offset chunk := by
  rw [BytesAt, List.drop_append]
  exact carried.trans (List.prefix_append _ _)

/-- Data that carries a chunk of its own length is the chunk. -/
theorem BytesAt.eq_data (carried : BytesAt data 0 chunk) (width : chunk.length = data.length) :
    chunk = data := by
  obtain ⟨rest, same⟩ := carried
  rw [List.drop_zero] at same
  have sizes := congrArg List.length same
  rw [List.length_append] at sizes
  have empty : rest = [] := List.length_eq_zero_iff.mp (by omega)
  rw [← same, empty, List.append_nil]

end BytesAt

@[simp] theorem length_slice (data : Bytes) (start stop : Nat) :
    (slice data start stop).length = min (stop - start) (data.length - start) := by
  simp [slice]

/-- A slice inside the data has the width of its bounds. -/
theorem length_slice_of_le {data : Bytes} {start stop : Nat} (inside : stop ≤ data.length) :
    (slice data start stop).length = stop - start := by
  rw [length_slice]
  omega

/-- A slice of a width inside the data has this width. -/
theorem length_slice_add {data : Bytes} {start width : Nat} (inside : start + width ≤ data.length) :
    (slice data start (start + width)).length = width := by
  rw [length_slice_of_le inside]
  omega

/-- More data behind the end keeps every slice inside the data. -/
theorem slice_append {data : Bytes} {start stop : Nat} (inside : stop ≤ data.length)
    (rest : Bytes) : slice (data ++ rest) start stop = slice data start stop := by
  by_cases ordered : start ≤ stop
  · apply ((bytesAt_slice data start stop).append rest).slice_eq
    rw [length_slice_of_le inside]
    omega
  · have none : stop - start = 0 := by omega
    rw [slice, slice, none, List.take_zero, List.take_zero]

/-- An index returns exactly the byte that the data carries there. -/
theorem byteAt_eq_ok {data : Bytes} {index : Nat} {byte : UInt8} :
    byteAt data index = .ok byte ↔ BytesAt data index [byte] := by
  unfold byteAt BytesAt
  by_cases inside : index < data.length
  · rw [List.getElem?_eq_getElem inside, List.drop_eq_getElem_cons inside]
    rw [List.cons_prefix_cons]
    constructor
    · intro same
      cases same
      exact ⟨rfl, List.nil_prefix⟩
    · rintro ⟨rfl, _⟩
      rfl
  · rw [List.getElem?_eq_none (by omega), List.drop_eq_nil_of_le (by omega)]
    simp

/-- An index inside the data raises nothing. -/
theorem byteAt_of_lt {data : Bytes} {index : Nat} (inside : index < data.length) :
    byteAt data index = .ok data[index] := by
  simp [byteAt, List.getElem?_eq_getElem inside]

@[simp] theorem length_bigEndian (width value : Nat) : (bigEndian width value).length = width := by
  induction width generalizing value with
  | zero => rfl
  | succ width ih => simp [bigEndian, ih]

/-- A field of one byte holds the low byte of its value. -/
theorem bigEndian_one (value : Nat) : bigEndian 1 value = [UInt8.ofNat value] := rfl

theorem fromBytes_concat (data : Bytes) (byte : UInt8) :
    fromBytes (data ++ [byte]) = 256 * fromBytes data + byte.toNat := by
  simp [fromBytes]

/-- A byte string of width `n` reads as a number below `256 ^ n`. -/
theorem fromBytes_lt (data : Bytes) : fromBytes data < 256 ^ data.length := by
  induction data using List.reverseRecOn with
  | nil => simp [fromBytes]
  | append_singleton data byte ih =>
      have small := byte.toNat_lt
      rw [fromBytes_concat, List.length_append, List.length_singleton, Nat.pow_succ]
      omega

/-- Reading a number back gives the number. -/
theorem fromBytes_bigEndian (width value : Nat) (fits : value < 256 ^ width) :
    fromBytes (bigEndian width value) = value := by
  induction width generalizing value with
  | zero => simp at fits; simp [bigEndian, fromBytes, fits]
  | succ width ih =>
      rw [bigEndian, fromBytes_concat, ih (value / 256) (by rw [Nat.pow_succ] at fits; omega)]
      simp only [UInt8.toNat_ofNat', Nat.reducePow]
      omega

/-- Writing back what was read gives the same bytes. -/
theorem bigEndian_fromBytes (data : Bytes) : bigEndian data.length (fromBytes data) = data := by
  induction data using List.reverseRecOn with
  | nil => rfl
  | append_singleton data byte ih =>
      have small := byte.toNat_lt
      rw [List.length_append, List.length_singleton, bigEndian, fromBytes_concat]
      have quotient : (256 * fromBytes data + byte.toNat) / 256 = fromBytes data := by omega
      have remainder : UInt8.ofNat (256 * fromBytes data + byte.toNat) = byte := by
        apply UInt8.toNat_inj.mp
        simp only [UInt8.toNat_ofNat', Nat.reducePow]
        omega
      rw [quotient, remainder, ih]

/-- A conversion returns exactly the big-endian bytes of a value that fits. -/
theorem toBytes_eq_ok {value width : Nat} {encoded : Bytes} :
    toBytes value width = .ok encoded ↔ value < 256 ^ width ∧ encoded = bigEndian width value := by
  unfold toBytes
  split
  · simp [*, eq_comm]
  · simp [*]

theorem toBytes_of_lt {value width : Nat} (fits : value < 256 ^ width) :
    toBytes value width = .ok (bigEndian width value) := if_pos fits

/-- An index inside the data raises no error. -/
theorem byteAt_onlyValueErrors {data : Bytes} {index : Nat} (inside : index < data.length) :
    OnlyValueErrors (byteAt data index) := by
  rw [byteAt_of_lt inside]
  exact raisesOnly_ok _

/-- The conversion of a value that fits raises no error. -/
theorem toBytes_onlyValueErrors {value width : Nat} (fits : value < 256 ^ width) :
    OnlyValueErrors (toBytes value width) := by
  rw [toBytes_of_lt fits]
  exact raisesOnly_ok _

/-- This is `data[index] ^= 0xFF` on a `bytearray`. -/
def flipByte (data : Bytes) (index : Nat) : Result Bytes := do
  let byte ← byteAt data index
  .ok (data.set index (byte ^^^ 0xFF))

/-- The flips inside the data raise no index error. -/
theorem flipByte_foldlM_onlyValueErrors (indices : List Nat) (data : Bytes)
    (inside : ∀ index ∈ indices, index < data.length) :
    OnlyValueErrors (indices.foldlM flipByte data) := by
  induction indices generalizing data with
  | nil => exact raisesOnly_ok _
  | cons index indices ih =>
      have head := inside index List.mem_cons_self
      rw [List.foldlM_cons, flipByte, byteAt_of_lt head, ok_bind, ok_bind]
      apply ih
      intro other member
      rw [List.length_set]
      exact inside other (List.mem_cons_of_mem index member)

end FaultInject.Python
