import FaultInject.Python.Bytes

namespace FaultInject.Codec
open Python

/-- The byte at this index is complemented when the index lies in the range. -/
def complementAt (start width index : Nat) (byte : UInt8) : UInt8 :=
  if start ≤ index ∧ index < start + width then byte ^^^ 0xFF else byte

/-- The bytes of the range are complemented. -/
def complement (data : Bytes) (start width : Nat) : Bytes := data.mapIdx (complementAt start width)

section Complement
variable {start width index : Nat} {byte : UInt8}

theorem complementAt_inside (inside : start ≤ index ∧ index < start + width) :
    complementAt start width index byte = byte ^^^ 0xFF := if_pos inside

theorem complementAt_outside (outside : ¬(start ≤ index ∧ index < start + width)) :
    complementAt start width index = id := by
  funext byte
  exact if_neg outside

/-- Exactly the bytes of the range change. -/
theorem complementAt_eq_self :
    complementAt start width index byte = byte ↔ ¬(start ≤ index ∧ index < start + width) := by
  constructor
  · intro same inside
    rw [complementAt_inside inside] at same
    have zero : byte ^^^ (byte ^^^ 0xFF) = byte ^^^ byte := congrArg (byte ^^^ ·) same
    rw [← UInt8.xor_assoc, UInt8.xor_self, UInt8.zero_xor] at zero
    exact absurd zero (by decide)
  · intro outside
    rw [complementAt_outside outside, id]

theorem complementAt_complementAt :
    complementAt start width index ∘ complementAt start width index = id := by
  funext byte
  by_cases inside : start ≤ index ∧ index < start + width
  · rw [Function.comp_apply, complementAt_inside inside, complementAt_inside inside, UInt8.xor_assoc,
      UInt8.xor_self, UInt8.xor_zero, id]
  · rw [complementAt_outside inside]
    rfl

@[simp] theorem length_complement (data : Bytes) (start width : Nat) :
    (complement data start width).length = data.length := List.length_mapIdx

theorem getElem?_complement (data : Bytes) (start width index : Nat) :
    (complement data start width)[index]? = data[index]?.map (complementAt start width index) :=
  List.getElem?_mapIdx

/-- The data changes exactly at the indices of a range inside it. -/
theorem getElem?_complement_eq_self {data : Bytes} (inside : start + width ≤ data.length) :
    (complement data start width)[index]? = data[index]? ↔
      ¬(start ≤ index ∧ index < start + width) := by
  rw [getElem?_complement]
  by_cases within : index < data.length
  · rw [List.getElem?_eq_getElem within, Option.map_some, Option.some.injEq, complementAt_eq_self]
  · rw [List.getElem?_eq_none (by omega), Option.map_none]
    exact iff_of_true rfl (by omega)

/-- The bytes outside the range stay the same. -/
theorem byteAt_complement (data : Bytes) (outside : ¬(start ≤ index ∧ index < start + width)) :
    byteAt (complement data start width) index = byteAt data index := by
  rw [byteAt, byteAt, getElem?_complement, complementAt_outside outside, Option.map_id, id]

/-- A slice before the range stays the same. -/
theorem slice_complement (data : Bytes) {low stop : Nat} (before : stop ≤ start) :
    slice (complement data start width) low stop = slice data low stop := by
  apply List.ext_getElem?
  intro position
  rw [slice, slice, List.getElem?_take, List.getElem?_take]
  apply ite_congr rfl
  · intro inside
    rw [List.getElem?_drop, List.getElem?_drop, getElem?_complement,
      complementAt_outside (by omega), Option.map_id, id]
  · intro _
    rfl

/-- Complementing a range again restores the data. -/
theorem complement_complement (data : Bytes) (start width : Nat) :
    complement (complement data start width) start width = data := by
  apply List.ext_getElem?
  intro index
  rw [getElem?_complement, getElem?_complement, Option.map_map, complementAt_complementAt,
    Option.map_id, id]

/-- A range behind the first part is a range of the second part. -/
theorem complement_append (first second : Bytes) (start width : Nat) :
    complement (first ++ second) (first.length + start) width =
      first ++ complement second start width := by
  apply List.ext_getElem?
  intro index
  rw [getElem?_complement]
  by_cases front : index < first.length
  · rw [List.getElem?_append_left front, List.getElem?_append_left front,
      complementAt_outside (by omega), Option.map_id, id]
  · rw [List.getElem?_append_right (by omega), List.getElem?_append_right (by omega),
      getElem?_complement]
    apply congrArg fun change => second[index - first.length]?.map change
    funext byte
    exact if_congr (by omega) rfl rfl

/-- A range inside the first part is a range of the first part. -/
theorem complement_append_of_le {first second : Bytes} (inside : start + width ≤ first.length) :
    complement (first ++ second) start width = complement first start width ++ second := by
  apply List.ext_getElem?
  intro index
  have sizes := length_complement first start width
  rw [getElem?_complement]
  by_cases front : index < first.length
  · rw [List.getElem?_append_left front, List.getElem?_append_left (by omega), getElem?_complement]
  · rw [List.getElem?_append_right (by omega), List.getElem?_append_right (by omega), sizes,
      complementAt_outside (by omega), Option.map_id, id]

theorem complement_replicate (width : Nat) (byte : UInt8) :
    complement (List.replicate width byte) 0 width = List.replicate width (byte ^^^ 0xFF) := by
  apply List.ext_getElem?
  intro index
  rw [getElem?_complement, List.getElem?_replicate, List.getElem?_replicate]
  by_cases inside : index < width
  · rw [if_pos inside, if_pos inside, Option.map_some, complementAt_inside (by omega)]
  · rw [if_neg inside, if_neg inside, Option.map_none]

/-- The flips over a range inside the data complement the range. -/
theorem flipByte_foldlM_range' {data : Bytes} (inside : start + width ≤ data.length) :
    (List.range' start width).foldlM flipByte data = .ok (complement data start width) := by
  induction width generalizing start data with
  | zero =>
      apply congrArg Except.ok
      apply List.ext_getElem?
      intro index
      rw [getElem?_complement, complementAt_outside (by omega), Option.map_id, id]
  | succ width ih =>
      have head : start < data.length := by omega
      rw [List.range'_succ, List.foldlM_cons, flipByte, byteAt_of_lt head, ok_bind, ok_bind,
        ih (by rw [List.length_set]; omega)]
      apply congrArg Except.ok
      apply List.ext_getElem?
      intro index
      rw [getElem?_complement, getElem?_complement, List.getElem?_set]
      by_cases first : start = index
      · subst first
        have here : complementAt start (width + 1) start data[start] = data[start] ^^^ 0xFF :=
          complementAt_inside (by omega)
        have behind : complementAt (start + 1) width start = id := complementAt_outside (by omega)
        rw [if_pos rfl, if_pos head, List.getElem?_eq_getElem head, Option.map_some,
          Option.map_some, here, behind, id]
      · rw [if_neg first]
        apply congrArg fun change => data[index]?.map change
        funext byte
        exact if_congr (by omega) rfl rfl

end Complement

end FaultInject.Codec
