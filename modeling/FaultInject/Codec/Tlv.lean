import FaultInject.Python.Bytes

namespace FaultInject.Codec
open FaultInject.Python

/-- A vector is a length field and the bytes that it counts. -/
def vector (width : Nat) (body : Bytes) : Bytes := bigEndian width body.length ++ body

@[simp] theorem length_vector (width : Nat) (body : Bytes) :
    (vector width body).length = width + body.length := by
  simp [vector]

/-- A slice behind its length field is a vector. -/
theorem vector_slice_at {data : Bytes} {cursor width length : Nat}
    (field : BytesAt data cursor (bigEndian width length))
    (inside : cursor + width + length ≤ data.length) :
    BytesAt data cursor
      (vector width (slice data (cursor + width) (cursor + width + length))) := by
  rw [vector, bytesAt_append, length_slice_add inside, length_bigEndian]
  exact ⟨field, bytesAt_slice _ _ _⟩

/-- The layout fixes the widths of the tag field and the length field. -/
structure Layout where
  tagWidth : Nat
  lengthWidth : Nat
  tagPositive : 0 < tagWidth
  lengthPositive : 0 < lengthWidth

/-- Both fields of this layout have two bytes. -/
def Layout.u16 : Layout := ⟨2, 2, by decide, by decide⟩

/-- The header of an item is its tag field and its length field. -/
def Layout.headerWidth (layout : Layout) : Nat := layout.tagWidth + layout.lengthWidth

theorem Layout.u16_tagWidth : Layout.u16.tagWidth = 2 := rfl

theorem Layout.u16_lengthWidth : Layout.u16.lengthWidth = 2 := rfl

/-- An item has a tag and a value that fit the fields of its layout. -/
@[ext] structure Item (layout : Layout) where
  tag : Nat
  value : Bytes
  tagFits : tag < 256 ^ layout.tagWidth
  valueFits : value.length < 256 ^ layout.lengthWidth

section Items
variable {layout : Layout}

def Item.encode (item : Item layout) : Bytes :=
  bigEndian layout.tagWidth item.tag ++ vector layout.lengthWidth item.value

def encodeAll (items : List (Item layout)) : Bytes := items.flatMap Item.encode

@[simp] theorem Item.length_encode (item : Item layout) :
    item.encode.length = layout.headerWidth + item.value.length := by
  simp [encode, Layout.headerWidth, Nat.add_assoc]

theorem Item.length_encode_pos (item : Item layout) : 0 < item.encode.length := by
  rw [length_encode, Layout.headerWidth, Nat.add_assoc]
  exact Nat.add_pos_left layout.tagPositive _

@[simp] theorem encodeAll_nil : encodeAll ([] : List (Item layout)) = [] := rfl

@[simp] theorem encodeAll_cons (item : Item layout) (items : List (Item layout)) :
    encodeAll (item :: items) = item.encode ++ encodeAll items := rfl

theorem encodeAll_append (first second : List (Item layout)) :
    encodeAll (first ++ second) = encodeAll first ++ encodeAll second := List.flatMap_append

/-- Two items that start one byte string are equal. -/
theorem Item.encode_inj {first second : Item layout} {rest tail : Bytes}
    (same : first.encode ++ rest = second.encode ++ tail) : first = second ∧ rest = tail := by
  simp only [encode, vector, List.append_assoc] at same
  obtain ⟨tags, same⟩ := List.append_inj same (by simp)
  obtain ⟨lengths, same⟩ := List.append_inj same (by simp)
  have tag := congrArg fromBytes tags
  have width := congrArg fromBytes lengths
  rw [fromBytes_bigEndian _ _ first.tagFits, fromBytes_bigEndian _ _ second.tagFits] at tag
  rw [fromBytes_bigEndian _ _ first.valueFits, fromBytes_bigEndian _ _ second.valueFits] at width
  obtain ⟨value, same⟩ := List.append_inj same width
  exact ⟨Item.ext tag value, same⟩

/-- A byte string is the encoding of at most one item list. -/
theorem encodeAll_injective : Function.Injective (encodeAll : List (Item layout) → Bytes) := by
  intro first second same
  have visible (item : Item layout) : item.encode ≠ [] :=
    List.length_pos_iff.mp item.length_encode_pos
  induction first generalizing second with
  | nil =>
      cases second with
      | nil => rfl
      | cons item items => exact absurd (List.append_eq_nil_iff.mp same.symm).1 (visible item)
  | cons item items ih =>
      cases second with
      | nil => exact absurd (List.append_eq_nil_iff.mp same).1 (visible item)
      | cons other others =>
          obtain ⟨rfl, tails⟩ := Item.encode_inj same
          rw [ih tails]

/-- A carried item starts with its tag. -/
theorem Item.tag_at {data : Bytes} {cursor : Nat} {item : Item layout}
    (carried : BytesAt data cursor item.encode) :
    BytesAt data cursor (bigEndian layout.tagWidth item.tag) :=
  (bytesAt_append.mp carried).1

/-- The length field of a carried item stands behind its tag. -/
theorem Item.length_at {data : Bytes} {cursor : Nat} {item : Item layout}
    (carried : BytesAt data cursor item.encode) :
    BytesAt data (cursor + layout.tagWidth)
      (bigEndian layout.lengthWidth item.value.length) := by
  have tail := (bytesAt_append.mp carried).2
  rw [vector, bytesAt_append, length_bigEndian] at tail
  exact tail.1

/-- The value of a carried item stands behind its header. -/
theorem Item.value_at {data : Bytes} {cursor : Nat} {item : Item layout}
    (carried : BytesAt data cursor item.encode) :
    BytesAt data (cursor + layout.headerWidth) item.value := by
  rw [encode, vector, bytesAt_append, bytesAt_append] at carried
  simpa only [length_bigEndian, Layout.headerWidth, Nat.add_assoc] using carried.2.2

/-- The value of an item with two-byte fields starts four bytes behind its cursor. -/
theorem Item.slice_value {data : Bytes} {cursor : Nat} {item : Item .u16}
    (carried : BytesAt data cursor item.encode) :
    slice data (cursor + 4) (cursor + 4 + item.value.length) = item.value :=
  (Item.value_at carried).slice_eq rfl

/-- The items cover the data between the two offsets without a gap. -/
def Tiles (data : Bytes) (start stop : Nat) (items : List (Item layout)) : Prop :=
  BytesAt data start (encodeAll items) ∧ stop = start + (encodeAll items).length

@[simp] theorem tiles_nil {data : Bytes} {start stop : Nat} :
    Tiles data start stop ([] : List (Item layout)) ↔ stop = start := by
  simp [Tiles]

/-- A tiling is its first item and a tiling of the remaining range. -/
theorem tiles_cons {data : Bytes} {start stop : Nat} {item : Item layout}
    {items : List (Item layout)} :
    Tiles data start stop (item :: items) ↔
      BytesAt data start item.encode ∧ Tiles data (start + item.encode.length) stop items := by
  simp only [Tiles, encodeAll_cons, bytesAt_append, List.length_append, Nat.add_assoc, and_assoc]

/-- A range has at most one tiling. -/
theorem Tiles.unique {data : Bytes} {start stop : Nat} {first second : List (Item layout)}
    (one : Tiles data start stop first) (two : Tiles data start stop second) :
    first = second := by
  apply encodeAll_injective
  have ends := one.2.symm.trans two.2
  exact one.1.unique two.1 (by omega)

end Items

section Walk
variable {E S : Type}

/-- A field read fails when the field ends outside the data. -/
def readField (short : E) (data : Bytes) (offset width : Nat) : Except E Nat :=
  if offset + width > data.length then .error short
  else .ok (fromBytes (slice data offset (offset + width)))

/-- A field read returns exactly the number whose bytes the data carries there. -/
theorem readField_eq_ok {short : E} {data : Bytes} {offset width value : Nat}
    (positive : 0 < width) :
    readField short data offset width = .ok value ↔
      value < 256 ^ width ∧ BytesAt data offset (bigEndian width value) := by
  unfold readField
  constructor
  · intro read
    split at read
    · cases read
    · rename_i inside
      cases read
      have size : (slice data offset (offset + width)).length = width := by
        rw [length_slice]
        omega
      have fits := fromBytes_lt (slice data offset (offset + width))
      have back := bigEndian_fromBytes (slice data offset (offset + width))
      rw [size] at fits back
      refine ⟨fits, ?_⟩
      rw [back]
      exact bytesAt_slice data offset (offset + width)
  · rintro ⟨fits, carried⟩
    have nonempty : bigEndian width value ≠ [] := by
      intro empty
      have size := congrArg List.length empty
      simp at size
      omega
    have inside := carried.end_le nonempty
    rw [length_bigEndian] at inside
    rw [if_neg (by omega), carried.slice_eq (by simp), fromBytes_bigEndian width value fits]

/-- The failed field read raises its one error. -/
theorem readField_raisesOnly {allowed : E → Prop} {short : E} (permitted : allowed short)
    (data : Bytes) (offset width : Nat) :
    RaisesOnly allowed (readField short data offset width) := by
  unfold readField
  split
  · exact (raisesOnly_error short).mpr permitted
  · exact raisesOnly_ok _

/-- A walker reads items of one layout and has one error for each failed check. -/
structure Walker (layout : Layout) (E : Type) where
  short : E
  long : E

variable {layout : Layout} (walker : Walker layout E) (data : Bytes) (stop : Nat) (visit : S → Nat → Nat → Nat → Except E S)

/-- The loop reads one item header, checks the end of the item, visits the item
at its cursor, and continues behind it. -/
def Walker.walk (cursor : Nat) (state : S) : Except E S :=
  if cursor < stop then do
    let tag ← readField walker.short data cursor layout.tagWidth
    let length ← readField walker.short data (cursor + layout.tagWidth)
      layout.lengthWidth
    if cursor + layout.headerWidth + length > stop then .error walker.long
    else
      let state ← visit state cursor tag length
      Walker.walk (cursor + layout.headerWidth + length) state
  else .ok state
termination_by stop - cursor
decreasing_by
  have positive := layout.tagPositive
  simp only [Layout.headerWidth]
  omega

/-- The visitor sees every item of a list at its own cursor. -/
def visitAll : Nat → List (Item layout) → S → Except E S
  | _, [], state => .ok state
  | cursor, item :: items, state =>
      visit state cursor item.tag item.value.length >>= fun next =>
        visitAll (cursor + item.encode.length) items next

/-- The two fields of a header and the bytes that they count form an item. -/
theorem exists_item_at {short : E} {data : Bytes} {cursor tag length : Nat}
    (tagRead : readField short data cursor layout.tagWidth = .ok tag)
    (lengthRead : readField short data (cursor + layout.tagWidth) layout.lengthWidth = .ok length)
    (inside : cursor + layout.headerWidth + length ≤ data.length) :
    ∃ item : Item layout, item.tag = tag ∧ item.value.length = length ∧
      BytesAt data cursor item.encode := by
  obtain ⟨tagFits, tagAt⟩ := (readField_eq_ok layout.tagPositive).mp tagRead
  obtain ⟨lengthFits, lengthAt⟩ := (readField_eq_ok layout.lengthPositive).mp lengthRead
  let start := cursor + layout.headerWidth
  have width : (slice data start (start + length)).length = length := length_slice_add inside
  refine ⟨⟨tag, slice data start (start + length), tagFits, by rw [width]; exact lengthFits⟩,
    rfl, width, ?_⟩
  rw [Item.encode, bytesAt_append, length_bigEndian]
  have offset : start = cursor + layout.tagWidth + layout.lengthWidth := (Nat.add_assoc _ _ _).symm
  apply And.intro tagAt
  simp only [offset]
  exact vector_slice_at lengthAt (by rw [← offset]; exact inside)

/-- One step of a walk visits the item at its cursor. -/
theorem Walker.walk_step_eq_ok (inside : stop ≤ data.length) {cursor : Nat} (more : cursor < stop)
    (state result : S) :
    walker.walk data stop visit cursor state = .ok result ↔
      ∃ (item : Item layout) (next : S), BytesAt data cursor item.encode ∧
        cursor + item.encode.length ≤ stop ∧
        visit state cursor item.tag item.value.length = .ok next ∧
        walker.walk data stop visit (cursor + item.encode.length) next = .ok result := by
  rw [Walker.walk, if_pos more]
  simp only [bind_eq_ok, guard_eq_ok]
  constructor
  · rintro ⟨tag, tagRead, length, lengthRead, ends, next, visited, returned⟩
    obtain ⟨item, rfl, rfl, itemAt⟩ := exists_item_at tagRead lengthRead (by omega)
    refine ⟨item, next, itemAt, ?_, visited, ?_⟩
    · rw [Item.length_encode]
      omega
    · rw [Item.length_encode, ← Nat.add_assoc]
      exact returned
  · rintro ⟨item, next, itemAt, ends, visited, returned⟩
    rw [Item.length_encode] at ends returned
    rw [← Nat.add_assoc] at returned
    refine ⟨item.tag, ?_, item.value.length, ?_, by omega, next, visited, returned⟩
    · exact (readField_eq_ok layout.tagPositive).mpr ⟨item.tagFits, Item.tag_at itemAt⟩
    · exact (readField_eq_ok layout.lengthPositive).mpr ⟨item.valueFits, Item.length_at itemAt⟩

/-- The walk returns exactly when items tile its range and all visits return. -/
theorem Walker.walk_eq_ok (inside : stop ≤ data.length) (cursor : Nat) (state result : S)
    (within : cursor ≤ stop) :
    walker.walk data stop visit cursor state = .ok result ↔
      ∃ items : List (Item layout),
        Tiles data cursor stop items ∧ visitAll visit cursor items state = .ok result := by
  induction remaining : stop - cursor using Nat.strongRecOn generalizing cursor state with
  | ind remaining ih =>
    by_cases more : cursor < stop
    · rw [walker.walk_step_eq_ok data stop visit inside more]
      constructor
      · rintro ⟨item, next, itemAt, ends, visited, returned⟩
        have visible := item.length_encode_pos
        obtain ⟨items, tiles, rest⟩ := (ih _ (by omega) _ next ends rfl).mp returned
        refine ⟨item :: items, tiles_cons.mpr ⟨itemAt, tiles⟩, ?_⟩
        rw [visitAll, visited]
        exact rest
      · rintro ⟨items, tiles, visited⟩
        cases items with
        | nil =>
            rw [tiles_nil] at tiles
            omega
        | cons item items =>
            have visible := item.length_encode_pos
            obtain ⟨itemAt, tiles⟩ := tiles_cons.mp tiles
            obtain ⟨next, first, visited⟩ := bind_eq_ok.mp visited
            have ends : cursor + item.encode.length ≤ stop := by
              rw [tiles.2]
              exact Nat.le_add_right _ _
            exact ⟨item, next, itemAt, ends, first,
              (ih _ (by omega) _ next ends rfl).mpr ⟨items, tiles, visited⟩⟩
    · rw [Walker.walk, if_neg more]
      constructor
      · intro returned
        exact ⟨[], by rw [tiles_nil]; omega, returned⟩
      · rintro ⟨items, tiles, visited⟩
        cases items with
        | nil => exact visited
        | cons item items =>
            have visible := item.length_encode_pos
            have ends := tiles.2
            rw [encodeAll_cons, List.length_append] at ends
            omega

/-- The walk raises only its two errors and what its visits raise. -/
theorem Walker.walk_raisesOnly {allowed : E → Prop} (short : allowed walker.short)
    (long : allowed walker.long)
    (visits : ∀ state cursor tag length, tag < 256 ^ layout.tagWidth →
      length < 256 ^ layout.lengthWidth →
      cursor + layout.headerWidth + length ≤ stop →
      RaisesOnly allowed (visit state cursor tag length))
    (cursor : Nat) (state : S) : RaisesOnly allowed (walker.walk data stop visit cursor state) := by
  induction remaining : stop - cursor using Nat.strongRecOn generalizing cursor state with
  | ind remaining ih =>
    have positive := layout.tagPositive
    rw [Walker.walk]
    split
    · refine (readField_raisesOnly short _ _ _).bind fun tag tagRead => ?_
      refine (readField_raisesOnly short _ _ _).bind fun length lengthRead => ?_
      have tagFits := ((readField_eq_ok layout.tagPositive).mp tagRead).1
      have lengthFits := ((readField_eq_ok layout.lengthPositive).mp lengthRead).1
      refine RaisesOnly.guard long fun ends => ?_
      refine (visits state cursor tag length tagFits lengthFits (by omega)).bind fun next _ => ?_
      exact ih _ (by simp only [Layout.headerWidth]; omega) _ next rfl
    · exact raisesOnly_ok state

variable {visit} in
/-- What every visit inside the range preserves holds of the result of the walk. -/
theorem Walker.walk_invariant {invariant : S → Prop}
    (preserved : ∀ state cursor tag length next, invariant state →
      cursor + layout.headerWidth + length ≤ stop → visit state cursor tag length = .ok next →
      invariant next)
    {cursor : Nat} {state result : S} (holds : invariant state)
    (returned : walker.walk data stop visit cursor state = .ok result) : invariant result := by
  induction remaining : stop - cursor using Nat.strongRecOn generalizing cursor state with
  | ind remaining ih =>
    have positive := layout.tagPositive
    rw [Walker.walk] at returned
    split at returned
    · simp only [bind_eq_ok, guard_eq_ok] at returned
      obtain ⟨tag, _, length, _, ends, next, visited, returned⟩ := returned
      have kept := preserved state cursor tag length next holds (by omega) visited
      exact ih _ (by simp only [Layout.headerWidth]; omega) kept returned rfl
    · cases returned
      exact holds

variable {visit} in
/-- A visitor that reads only the visited item folds over the tiling. -/
theorem visitAll_eq_foldlM {data : Bytes} {stop : Nat}
    {step : S → Item layout → Except E S}
    (reads : ∀ state cursor (item : Item layout), BytesAt data cursor item.encode →
      visit state cursor item.tag item.value.length = step state item)
    (items : List (Item layout)) (cursor : Nat) (state : S)
    (tiles : Tiles data cursor stop items) :
    visitAll visit cursor items state = items.foldlM step state := by
  induction items generalizing cursor state with
  | nil => rfl
  | cons item items ih =>
      rw [tiles_cons] at tiles
      rw [visitAll, List.foldlM_cons, reads state cursor item tiles.1]
      exact congrArg _ (funext fun next => ih _ next tiles.2)

end Walk

end FaultInject.Codec
