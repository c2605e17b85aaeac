import FaultInject.Proof.Errors
import Mathlib.Data.List.Range

namespace FaultInject.PcapHello
open Python Codec Protocol TlsClientHello

/-- These are the positions of the marker in increasing order. -/
def markers (capture : Bytes) : List Nat :=
  (List.range capture.length).filter fun position =>
    isHandshakeRecord (slice capture position (position + 3))

/-- This is the record at the position when the capture holds all of it. -/
def recordAt (capture : Bytes) (position : Nat) : Option Bytes :=
  let recordEnd := position + 5 + fromBytes (slice capture (position + 3) (position + 5))
  if position + 5 ≤ capture.length ∧ recordEnd ≤ capture.length then
    some (slice capture position recordEnd)
  else none

/-- This is the parse of the record at the position when its message has the given type. -/
def entryAt {A : Type} (parse : Bytes → Result A) (messageType : UInt8) (capture : Bytes)
    (position : Nat) : Option A :=
  (recordAt capture position).bind fun record =>
    if record[5]? = some messageType then (parse record).toOption else none

section Search
variable {capture : Bytes} {position : Nat}

/-- A marker ends inside the capture. -/
theorem marker_end (found : isHandshakeRecord (slice capture position (position + 3)) = true) :
    position + 3 ≤ capture.length := by
  simp only [isHandshakeRecord, Bool.or_eq_true, beq_iff_eq] at found
  have width : (slice capture position (position + 3)).length = 3 := by
    rcases found with found | found <;> rw [found] <;> rfl
  rw [length_slice] at width
  omega

/-- No second marker starts inside a marker. -/
theorem not_marker_inside (gap : Nat) (inside : gap = 1 ∨ gap = 2)
    (found : isHandshakeRecord (slice capture position (position + 3)) = true) :
    isHandshakeRecord (slice capture (position + gap) (position + gap + 3)) = false := by
  have byte : (slice capture (position + gap) (position + gap + 3))[0]? =
      (slice capture position (position + 3))[gap]? := by
    rcases inside with rfl | rfl <;> simp [slice, List.getElem?_drop]
  apply eq_false_of_ne_true
  intro again
  simp only [isHandshakeRecord, Bool.or_eq_true, beq_iff_eq] at found again
  rcases found with found | found <;> rcases again with again | again <;>
    rcases inside with rfl | rfl <;> simp [found, again] at byte

/-- The search without overlaps visits every position of the marker. -/
theorem finditer_eq (capture : Bytes) (position : Nat) :
    finditer capture position =
      (List.range' position (capture.length - position)).filter fun position =>
        isHandshakeRecord (slice capture position (position + 3)) := by
  induction room : capture.length - position using Nat.strongRecOn generalizing position with
  | ind remaining ih =>
    rw [finditer]
    by_cases more : position < capture.length
    · rw [if_pos more]
      split
      · rename_i found
        have inside := marker_end found
        obtain ⟨rest, width⟩ : ∃ rest, remaining = rest + 3 := ⟨remaining - 3, by omega⟩
        rw [ih rest (by omega) (position + 3) (by omega), width, List.range'_succ, List.range'_succ,
          List.range'_succ, List.filter_cons, if_pos found, List.filter_cons,
          if_neg (ne_true_of_eq_false (not_marker_inside 1 (.inl rfl) found)), List.filter_cons,
          if_neg (ne_true_of_eq_false (not_marker_inside 2 (.inr rfl) found))]
      · rename_i absent
        obtain ⟨rest, width⟩ : ∃ rest, remaining = rest + 1 := ⟨remaining - 1, by omega⟩
        rw [ih rest (by omega) (position + 1) (by omega), width, List.range'_succ,
          List.filter_cons, if_neg absent]
    · rw [if_neg more, show remaining = 0 by omega]
      rfl

theorem finditer_zero (capture : Bytes) : finditer capture 0 = markers capture := by
  rw [finditer_eq, markers, List.range_eq_range', Nat.sub_zero]

end Search

section Local
variable {capture record : Bytes} {position : Nat}

/-- A complete record is a header, a counted fragment, and the start of the remaining capture. -/
theorem recordAt_eq_some :
    recordAt capture position = some record ↔
      ∃ header fragment rest, capture.drop position = header ++ (vector 2 fragment ++ rest) ∧
        header.length = 3 ∧ fragment.length < 65536 ∧ record = header ++ vector 2 fragment := by
  simp only [recordAt, Option.ite_none_right_eq_some, Option.some.injEq]
  constructor
  · rintro ⟨⟨long, complete⟩, rfl⟩
    let length := fromBytes (slice capture (position + 3) (position + 5))
    have fieldWidth : (slice capture (position + 3) (position + 5)).length = 2 := by
      rw [length_slice_of_le long]
      omega
    have headerWidth : (slice capture position (position + 3)).length = 3 :=
      length_slice_add (by omega)
    have fragmentWidth : (slice capture (position + 5) (position + 5 + length)).length =
        length := length_slice_add complete
    have field := bigEndian_fromBytes (slice capture (position + 3) (position + 5))
    have fits := fromBytes_lt (slice capture (position + 3) (position + 5))
    rw [fieldWidth] at field fits
    have fieldAt : BytesAt capture (position + 3) (bigEndian 2 length) := by
      rw [field]
      exact bytesAt_slice _ _ _
    have carried : BytesAt capture position (slice capture position (position + 3) ++
        vector 2 (slice capture (position + 5) (position + 5 + length))) := by
      rw [bytesAt_append, headerWidth]
      exact ⟨bytesAt_slice _ _ _, vector_slice_at fieldAt complete⟩
    have same := carried.slice_eq
      (show position + 5 + length = _ by
        rw [List.length_append, length_vector, headerWidth, fragmentWidth]
        omega)
    obtain ⟨rest, whole⟩ := carried
    rw [List.append_assoc] at whole
    exact ⟨_, _, rest, whole.symm, headerWidth, by rw [fragmentWidth]; exact fits, same⟩
  · rintro ⟨header, fragment, rest, whole, headerWidth, fits, rfl⟩
    have carried : BytesAt capture position (header ++ vector 2 fragment) :=
      ⟨rest, by rw [List.append_assoc]; exact whole.symm⟩
    have width := congrArg List.length whole
    simp only [List.length_drop, List.length_append, length_vector, headerWidth] at width
    have fieldAt := carried
    rw [bytesAt_append, vector, bytesAt_append, headerWidth] at fieldAt
    have length : fromBytes (slice capture (position + 3) (position + 5)) = fragment.length := by
      rw [fieldAt.2.1.slice_eq (by rw [length_bigEndian]), fromBytes_bigEndian 2 _ fits]
    rw [length]
    refine ⟨by omega, carried.slice_eq ?_⟩
    rw [List.length_append, length_vector, headerWidth]
    omega

/-- The client parser reads the capture behind the position as it reads the record alone. -/
theorem clientHello_drop {hello : List Nat × List Nat} :
    clientHello (capture.drop position) = .ok hello ↔
      ∃ record, recordAt capture position = some record ∧ clientHello record = .ok hello := by
  constructor
  · intro returned
    obtain ⟨framing, items, same, block, folded⟩ := clientHello_eq_ok.mp returned
    have fits := framing.recordFits
    refine ⟨(framing.withAfterRecord []).encode, recordAt_eq_some.mpr
      ⟨0x16 :: framing.recordVersion, framing.fragment, framing.afterRecord, same.symm,
        by rw [List.length_cons, framing.versionWidth],
        by rw [Framing.length_fragment, Framing.length_body]; omega, ?_⟩, ?_⟩
    · show 0x16 :: (framing.recordVersion ++ (vector 2 framing.fragment ++ [])) = _
      rw [List.append_nil]
      rfl
    · exact clientHello_eq_ok.mpr ⟨_, items, rfl, block, folded⟩
  · rintro ⟨record, complete, returned⟩
    obtain ⟨header, fragment, rest, whole, _, _, rfl⟩ := recordAt_eq_some.mp complete
    obtain ⟨framing, items, same, block, folded⟩ := clientHello_eq_ok.mp returned
    refine clientHello_eq_ok.mpr ⟨framing.withAfterRecord (framing.afterRecord ++ rest), items,
      ?_, block, folded⟩
    rw [whole, ← List.append_assoc, ← same]
    simp [Framing.encode, Framing.withAfterRecord, Framing.fragment, Framing.body]

/-- The server parser reads the capture behind the position as it reads the record alone. -/
theorem serverHello_drop {hello : Bool × Option Nat} :
    serverHello (capture.drop position) = .ok hello ↔
      ∃ record, recordAt capture position = some record ∧ serverHello record = .ok hello := by
  constructor
  · intro returned
    obtain ⟨framing, items, group, same, block, folded, rfl⟩ := serverHello_eq_ok.mp returned
    have fits := framing.recordFits
    refine ⟨(framing.withAfterRecord []).encode, recordAt_eq_some.mpr
      ⟨framing.header, framing.fragment, framing.afterRecord, same.symm, framing.headerWidth,
        by rw [ServerFraming.length_fragment]; exact fits, ?_⟩, ?_⟩
    · show framing.header ++ (vector 2 framing.fragment ++ []) = _
      rw [List.append_nil]
    · exact serverHello_eq_ok.mpr ⟨_, items, group, rfl, block, folded, rfl⟩
  · rintro ⟨record, complete, returned⟩
    obtain ⟨header, fragment, rest, whole, _, _, rfl⟩ := recordAt_eq_some.mp complete
    obtain ⟨framing, items, group, same, block, folded, rfl⟩ := serverHello_eq_ok.mp returned
    refine serverHello_eq_ok.mpr ⟨framing.withAfterRecord (framing.afterRecord ++ rest), items,
      group, ?_, block, folded, rfl⟩
    rw [whole, ← List.append_assoc, ← same]
    simp [ServerFraming.encode, ServerFraming.withAfterRecord, ServerFraming.fragment]

/-- The record at a position starts with the bytes behind the position. -/
theorem recordAt_byte {offset : Nat} (complete : recordAt capture position = some record)
    (inside : offset < record.length) : record[offset]? = (capture.drop position)[offset]? := by
  obtain ⟨header, fragment, rest, whole, _, _, rfl⟩ := recordAt_eq_some.mp complete
  rw [whole, ← List.append_assoc, List.getElem?_append_left inside]

/-- The parser accepts the bytes behind a position exactly when it accepts the record
there alone, and it accepts only records with a message type. -/
structure ReadsRecordAlone {A : Type} (parse : Bytes → Result A) : Prop where
  drop {capture : Bytes} {position : Nat} {hello : A} :
    parse (capture.drop position) = .ok hello ↔
      ∃ record, recordAt capture position = some record ∧ parse record = .ok hello
  long {record : Bytes} {hello : A} : parse record = .ok hello → 5 < record.length

theorem clientHello_readsRecordAlone : ReadsRecordAlone clientHello := by
  refine ⟨clientHello_drop, fun returned => ?_⟩
  obtain ⟨framing, items, rfl, _⟩ := clientHello_eq_ok.mp returned
  rw [Framing.length_encode, Framing.recordEnd, Framing.length_fragment]
  omega

theorem serverHello_readsRecordAlone : ReadsRecordAlone serverHello := by
  refine ⟨serverHello_drop, fun returned => ?_⟩
  obtain ⟨framing, items, group, rfl, _⟩ := serverHello_eq_ok.mp returned
  rw [ServerFraming.length_encode, ServerFraming.recordEnd, ServerFraming.length_fragment]
  omega

/-- The entry of a position is the parse of all bytes behind the position. -/
theorem ReadsRecordAlone.entryAt_eq {A : Type} {parse : Bytes → Result A}
    (reads : ReadsRecordAlone parse) (messageType : UInt8) (capture : Bytes) (position : Nat) :
    entryAt parse messageType capture position =
      if (capture.drop position)[5]? = some messageType then
        (parse (capture.drop position)).toOption
      else none := by
  ext hello
  simp only [entryAt, Option.bind_eq_some_iff, Option.ite_none_right_eq_some, toOption_eq_some,
    reads.drop]
  constructor
  · rintro ⟨record, complete, typed, returned⟩
    rw [recordAt_byte complete (reads.long returned)] at typed
    exact ⟨typed, record, complete, returned⟩
  · rintro ⟨typed, record, complete, returned⟩
    rw [← recordAt_byte complete (reads.long returned)] at typed
    exact ⟨record, complete, typed, returned⟩

end Local

section Summary
variable (capture : Bytes)

/-- One round of the scan appends the entries of its position. -/
theorem summarizeMatch_eq (summary : HelloSummary) (position : Nat) :
    summarizeMatch capture summary position =
      .ok { clientHellos := summary.clientHellos ++
              (entryAt clientHello 0x01 capture position).toList
            serverHellos := summary.serverHellos ++
              (entryAt serverHello 0x02 capture position).toList } := by
  rw [clientHello_readsRecordAlone.entryAt_eq, serverHello_readsRecordAlone.entryAt_eq]
  by_cases short : (capture.drop position).length < 6
  · rw [summarizeMatch, if_pos short, List.getElem?_eq_none (by omega)]
    simp
  · have typed := List.getElem?_eq_getElem (show 5 < (capture.drop position).length by omega)
    rw [summarizeMatch, if_neg short, byteAt_of_lt (by omega), ok_bind, typed]
    generalize (capture.drop position)[5] = messageType
    by_cases client : messageType = 0x01
    · subst client
      rw [if_pos rfl, exceptValueError_of_raisesOnly summary
        ((clientHello_onlyValueErrors _).bind fun _ _ => raisesOnly_ok _)]
      cases clientHello (capture.drop position) <;> simp [Except.toOption]
    · rw [if_neg client]
      by_cases server : messageType = 0x02
      · subst server
        rw [if_pos rfl, exceptValueError_of_raisesOnly summary
          ((serverHello_onlyValueErrors (by omega)).bind fun _ _ => raisesOnly_ok _)]
        cases serverHello (capture.drop position) <;> simp [Except.toOption]
      · rw [if_neg server]
        simp [exceptValueError, client, server]

/-- The rounds of the scan append the entries of their positions. -/
theorem summarizeMatch_foldlM (positions : List Nat) (summary : HelloSummary) :
    positions.foldlM (summarizeMatch capture) summary =
      .ok { clientHellos := summary.clientHellos ++
              positions.filterMap (entryAt clientHello 0x01 capture)
            serverHellos := summary.serverHellos ++
              positions.filterMap (entryAt serverHello 0x02 capture) } := by
  have entries {A : Type} (entry : Nat → Option A) (position : Nat) (positions : List Nat) :
      (entry position).toList ++ positions.filterMap entry =
        (position :: positions).filterMap entry := by
    rw [List.filterMap_cons]
    cases entry position <;> rfl
  induction positions generalizing summary with
  | nil => simp
  | cons position positions ih =>
      rw [List.foldlM_cons, summarizeMatch_eq, ok_bind, ih]
      simp only [List.append_assoc, entries]

/-- The summary has the parses of the complete records at all markers and nothing else. -/
theorem summarizeHellos_eq :
    summarizeHellos capture =
      .ok { clientHellos := (markers capture).filterMap (entryAt clientHello 0x01 capture)
            serverHellos := (markers capture).filterMap (entryAt serverHello 0x02 capture) } := by
  rw [summarizeHellos, finditer_zero, summarizeMatch_foldlM]
  rfl

end Summary

end FaultInject.PcapHello
