import FaultInject.Codec.Tlv
import FaultInject.Python.Text

namespace FaultInject.Codec
open FaultInject.Python

/-- A field of `width` bytes holds one of these numbers. -/
abbrev Number (width : Nat) := Fin (256 ^ width)

section Numbers
variable {width : Nat}

def Number.encode (value : Number width) : Bytes := bigEndian width value.val

/-- The encoding has the fields of all numbers in order. -/
def encodeNumbers (values : List (Number width)) : Bytes := values.flatMap Number.encode

@[simp] theorem Number.length_encode (value : Number width) : value.encode.length = width :=
  length_bigEndian width value.val

@[simp] theorem Number.fromBytes_encode (value : Number width) : fromBytes value.encode = value.val :=
  fromBytes_bigEndian width value.val value.isLt

@[simp] theorem encodeNumbers_nil : encodeNumbers ([] : List (Number width)) = [] := rfl

@[simp] theorem encodeNumbers_cons (value : Number width) (values : List (Number width)) :
    encodeNumbers (value :: values) = value.encode ++ encodeNumbers values := rfl

@[simp] theorem length_encodeNumbers (values : List (Number width)) :
    (encodeNumbers values).length = width * values.length := by
  induction values with
  | nil => rfl
  | cons value values ih =>
      rw [encodeNumbers_cons, List.length_append, Number.length_encode, ih, List.length_cons,
        Nat.mul_succ, Nat.add_comm]

/-- A byte string of whole fields is the encoding of a number list. -/
theorem exists_encodeNumbers (width count : Nat) (body : Bytes) (whole : body.length = width * count) :
    ∃ values : List (Number width), encodeNumbers values = body := by
  induction count generalizing body with
  | zero => exact ⟨[], (List.length_eq_zero_iff.mp whole).symm⟩
  | succ count ih =>
      rw [Nat.mul_succ] at whole
      have head : (body.take width).length = width := by rw [List.length_take]; omega
      obtain ⟨values, same⟩ := ih (body.drop width) (by rw [List.length_drop]; omega)
      have fits := fromBytes_lt (body.take width)
      have back := bigEndian_fromBytes (body.take width)
      rw [head] at fits back
      refine ⟨⟨fromBytes (body.take width), fits⟩ :: values, ?_⟩
      rw [encodeNumbers_cons, same, Number.encode, back, List.take_append_drop]

/-- The data carries every number at its position in the range. -/
theorem range_forall₂ (positive : 0 < width) (data : Bytes) (start stop : Nat)
    (values : List (Number width)) (carried : BytesAt data start (encodeNumbers values))
    (whole : stop = start + width * values.length) :
    List.Forall₂ (fun index value => BytesAt data index value.encode)
      (range start stop width) values := by
  induction values generalizing start with
  | nil =>
      rw [range_of_le (by simp [whole]) positive]
      exact List.Forall₂.nil
  | cons value values ih =>
      rw [List.length_cons, Nat.mul_succ] at whole
      rw [encodeNumbers_cons, bytesAt_append, Number.length_encode] at carried
      rw [range_of_lt (by omega) positive]
      exact List.Forall₂.cons carried.1 (ih (start + width) carried.2 (by omega))

/-- The slices over the range are the encoded numbers. -/
theorem map_slice_range (positive : 0 < width) (data : Bytes) (start stop : Nat)
    (values : List (Number width)) (carried : BytesAt data start (encodeNumbers values))
    (whole : stop = start + width * values.length) :
    (range start stop width).map (fun index => slice data index (index + width)) =
      values.map Number.encode := by
  have each := range_forall₂ positive data start stop values carried whole
  clear carried whole
  generalize range start stop width = indices at each ⊢
  induction each with
  | nil => rfl
  | cons here _ ih => rw [List.map_cons, List.map_cons, ih, here.slice_eq (by simp)]

/-- The field reads over the range return the numbers. -/
theorem mapM_readField_range {E : Type} (short : E) (positive : 0 < width) (data : Bytes)
    (start stop : Nat) (values : List (Number width))
    (carried : BytesAt data start (encodeNumbers values))
    (whole : stop = start + width * values.length) :
    (range start stop width).mapM (fun index => readField short data index width) =
      .ok (values.map Fin.val) := by
  have each := range_forall₂ positive data start stop values carried whole
  clear carried whole
  generalize range start stop width = indices at each ⊢
  induction each with
  | nil => rfl
  | @cons index value indices values here _ ih =>
      rw [List.mapM_cons, (readField_eq_ok positive).mpr ⟨value.isLt, here⟩, ok_bind, ih, ok_bind]
      rfl

/-- Field reads over a range up to the end of the data return only when the range is whole. -/
theorem whole_of_mapM_readField {E : Type} {short : E} (positive : 0 < width) {data : Bytes}
    {start : Nat} {values : List Nat} (within : start ≤ data.length)
    (read : (range start data.length width).mapM (fun index => readField short data index width) =
      .ok values) :
    ∃ count, data.length = start + width * count := by
  induction values generalizing start with
  | nil =>
      by_cases room : start < data.length
      · rw [range_of_lt room positive, List.mapM_cons] at read
        obtain ⟨value, _, rest⟩ := bind_eq_ok.mp read
        obtain ⟨values, _, same⟩ := bind_eq_ok.mp rest
        cases same
      · exact ⟨0, by omega⟩
  | cons value values ih =>
      by_cases room : start < data.length
      · rw [range_of_lt room positive, List.mapM_cons] at read
        obtain ⟨first, head, rest⟩ := bind_eq_ok.mp read
        obtain ⟨others, tail, same⟩ := bind_eq_ok.mp rest
        cases same
        have inside : start + width ≤ data.length := by
          unfold readField at head
          split at head
          · cases head
          · omega
        obtain ⟨count, whole⟩ := ih inside tail
        exact ⟨count + 1, by rw [whole, Nat.mul_succ]; omega⟩
      · exact ⟨0, by omega⟩

/-- Filtering the fields by their numbers filters the numbers. -/
theorem filter_map_encode (keep : Nat → Bool) (values : List (Number width)) :
    (values.map Number.encode).filter (fun field => keep (fromBytes field)) =
      (values.filter fun value => keep value.val).map Number.encode := by
  rw [List.filter_map]
  simp [Function.comp_def]

theorem flatten_map_encode (values : List (Number width)) :
    (values.map Number.encode).flatten = encodeNumbers values := List.flatMap_def.symm

end Numbers

end FaultInject.Codec
