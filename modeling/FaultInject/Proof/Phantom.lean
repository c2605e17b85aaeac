import FaultInject.Proof.Scan
import FaultInject.Protocol.TlsRecord
import Mathlib.Data.List.Sort

namespace FaultInject.PcapHello
open Python Codec Protocol TlsClientHello

/-- This is the Hello that starts the record, if it is a handshake record with such a message. -/
def ownEntry {A : Type} (parse : Bytes → Result A) (messageType : UInt8) (record : TlsRecord) :
    Option A :=
  if record.contentType = .handshake then entryAt parse messageType record.encode 0 else none

/-- This summary has the Hellos that start the records and nothing else. -/
def ownHellos (records : List TlsRecord) : HelloSummary :=
  { clientHellos := records.filterMap (ownEntry clientHello 0x01)
    serverHellos := records.filterMap (ownEntry serverHello 0x02) }

/-- A marker stands at this position. -/
def MarkerAt (capture : Bytes) (position : Nat) : Prop :=
  BytesAt capture position [0x16, 0x03, 0x01] ∨ BytesAt capture position [0x16, 0x03, 0x03]

/-- A Hello is complete at this position. -/
def HelloAt (capture : Bytes) (position : Nat) : Prop :=
  (entryAt clientHello 0x01 capture position).isSome ∨
    (entryAt serverHello 0x02 capture position).isSome

/-- A marker that starts no handshake record has a complete Hello. -/
structure PhantomAt (records : List TlsRecord) (position : Nat) : Prop where
  marker : MarkerAt (encodeRecords records) position
  inner : position ∉ handshakeStarts 0 records
  hello : HelloAt (encodeRecords records) position

/-- The summary has the Hellos at the positions in their order. The positions are the starts of the
handshake records and the phantoms. -/
structure ReportsAt (records : List TlsRecord) (positions : List Nat) (summary : HelloSummary) :
    Prop where
  ordered : positions.Pairwise (· < ·)
  position (position : Nat) :
    position ∈ positions ↔ position ∈ handshakeStarts 0 records ∨ PhantomAt records position
  clientHellos : summary.clientHellos =
    positions.filterMap (entryAt clientHello 0x01 (encodeRecords records))
  serverHellos : summary.serverHellos =
    positions.filterMap (entryAt serverHello 0x02 (encodeRecords records))
  ownClientHellos : (ownHellos records).clientHellos =
    (handshakeStarts 0 records).filterMap (entryAt clientHello 0x01 (encodeRecords records))
  ownServerHellos : (ownHellos records).serverHellos =
    (handshakeStarts 0 records).filterMap (entryAt serverHello 0x02 (encodeRecords records))

section Selection
variable {A B : Type} (keep : A → Bool) (entry : A → Option B)

/-- The entries of a part of the list are all entries exactly when no other element has one. -/
theorem filterMap_filter_eq_iff (values : List A) :
    values.filterMap entry = (values.filter keep).filterMap entry ↔
      ∀ value ∈ values, keep value = false → entry value = none := by
  induction values with
  | nil => simp
  | cons value values ih =>
      rw [List.forall_mem_cons, List.filterMap_cons, List.filter_cons]
      cases kept : keep value with
      | true =>
          rw [if_pos rfl, List.filterMap_cons]
          cases entry value <;> simp [ih]
      | false =>
          rw [if_neg (by decide)]
          cases found : entry value with
          | none => simp [ih]
          | some result =>
              have shorter : ((values.filter keep).filterMap entry).length ≤
                  (values.filterMap entry).length :=
                (List.filter_sublist.filterMap entry).length_le
              constructor
              · intro same
                have lengths := congrArg List.length same
                rw [List.length_cons] at lengths
                omega
              · intro both
                cases both.1 rfl

end Selection

section Records
variable {capture : Bytes} {cursor : Nat} {record : TlsRecord} {records : List TlsRecord}

/-- A record stands at its position in the capture. -/
theorem recordAt_of_drop {rest : Bytes} (here : capture.drop cursor = record.encode ++ rest) :
    recordAt capture cursor = some record.encode := by
  apply recordAt_eq_some.mpr
  refine ⟨record.header, record.body, rest, ?_, record.length_header, record.bodyFits, rfl⟩
  rw [here, TlsRecord.encode, List.append_assoc]

/-- The capture holds the later records behind the first record. -/
theorem drop_record (here : capture.drop cursor = encodeRecords (record :: records)) :
    capture.drop (cursor + record.encode.length) = encodeRecords records := by
  rw [← List.drop_drop, here, encodeRecords_cons, List.drop_left]

/-- The entries at the starts are the Hellos that start the records. -/
theorem filterMap_handshakeStarts {A : Type} (parse : Bytes → Result A) (messageType : UInt8)
    (here : capture.drop cursor = encodeRecords records) :
    (handshakeStarts cursor records).filterMap (entryAt parse messageType capture) =
      records.filterMap (ownEntry parse messageType) := by
  induction records generalizing cursor with
  | nil => rfl
  | cons record records ih =>
      have alone : recordAt record.encode 0 = some record.encode := by
        apply recordAt_of_drop
        rw [List.drop_zero, List.append_nil]
      have same : entryAt parse messageType capture cursor =
          entryAt parse messageType record.encode 0 := by
        rw [entryAt, entryAt, recordAt_of_drop here, alone]
      rw [handshakeStarts, List.filterMap_append, ih (drop_record here), List.filterMap_cons, ownEntry]
      split
      · rw [List.filterMap_cons, List.filterMap_nil, same]
        cases entryAt parse messageType record.encode 0 <;> rfl
      · rfl

/-- Every handshake record starts with a marker. -/
theorem mem_markers_of_mem_handshakeStarts {position : Nat}
    (here : capture.drop cursor = encodeRecords records)
    (member : position ∈ handshakeStarts cursor records) : position ∈ markers capture := by
  induction records generalizing cursor with
  | nil => cases member
  | cons record records ih =>
      rcases List.mem_append.mp member with first | behind
      · split at first
        · rename_i isHandshake
          cases List.mem_singleton.mp first
          have header : BytesAt capture position record.header := by
            refine ⟨vector 2 record.body ++ encodeRecords records, ?_⟩
            rw [here, encodeRecords_cons, TlsRecord.encode, List.append_assoc]
          have inside := header.end_le (List.cons_ne_nil _ _)
          have width := record.length_header
          apply List.mem_filter.mpr
          refine ⟨List.mem_range.mpr (by omega), ?_⟩
          rw [header.slice_eq (by rw [width]), TlsRecord.header, isHandshake]
          rcases record.legacyVersion isHandshake with same | same <;> rw [same] <;> rfl
        · cases first
      · exact ih (drop_record here) behind

theorem mem_markers {position : Nat} : position ∈ markers capture ↔ MarkerAt capture position := by
  rw [markers, List.mem_filter, List.mem_range, isHandshakeRecord, Bool.or_eq_true, beq_iff_eq,
    beq_iff_eq]
  constructor
  · rintro ⟨_, first | second⟩
    · exact .inl (first ▸ bytesAt_slice _ _ _)
    · exact .inr (second ▸ bytesAt_slice _ _ _)
  · rintro (first | second)
    · have inside := first.end_le (List.cons_ne_nil _ _)
      exact ⟨by simp at inside; omega, .inl (first.slice_eq rfl)⟩
    · have inside := second.end_le (List.cons_ne_nil _ _)
      exact ⟨by simp at inside; omega, .inr (second.slice_eq rfl)⟩

end Records

section Positions
variable (records : List TlsRecord)

/-- The scan stops at the position of a record or of a Hello. -/
def reportsAt (position : Nat) : Bool :=
  decide (position ∈ handshakeStarts 0 records) ||
    ((entryAt clientHello 0x01 (encodeRecords records) position).isSome ||
      (entryAt serverHello 0x02 (encodeRecords records) position).isSome)

def reportedPositions : List Nat := (markers (encodeRecords records)).filter (reportsAt records)

variable {records}

theorem reportsAt_eq_true {position : Nat} : reportsAt records position = true ↔
    position ∈ handshakeStarts 0 records ∨ HelloAt (encodeRecords records) position := by
  rw [reportsAt, Bool.or_eq_true, Bool.or_eq_true, decide_eq_true_eq, HelloAt]

theorem mem_reportedPositions {position : Nat} : position ∈ reportedPositions records ↔
    position ∈ handshakeStarts 0 records ∨ PhantomAt records position := by
  rw [reportedPositions, List.mem_filter, mem_markers, reportsAt_eq_true]
  constructor
  · rintro ⟨marker, report⟩
    by_cases own : position ∈ handshakeStarts 0 records
    · exact .inl own
    · exact .inr ⟨marker, own, report.resolve_left own⟩
  · rintro (own | phantom)
    · exact ⟨mem_markers.mp (mem_markers_of_mem_handshakeStarts List.drop_zero own), .inl own⟩
    · exact ⟨phantom.marker, .inr phantom.hello⟩

/-- The entries at all markers are those at the reported positions. -/
theorem filterMap_reportedPositions {A : Type} {entry : Nat → Option A}
    (hello : ∀ position, (entry position).isSome → HelloAt (encodeRecords records) position) :
    (markers (encodeRecords records)).filterMap entry =
      (reportedPositions records).filterMap entry := by
  apply (filterMap_filter_eq_iff _ entry _).mpr
  intro position _ silent
  apply Option.not_isSome_iff_eq_none.mp
  intro found
  rw [reportsAt_eq_true.mpr (.inr (hello position found))] at silent
  cases silent

/-- The reported positions that start a record are the starts of the handshake records. -/
theorem filter_reportedPositions : (reportedPositions records).filter (fun position =>
    decide (position ∈ handshakeStarts 0 records)) = handshakeStarts 0 records := by
  apply List.Pairwise.eq_of_mem_iff (r := (· < ·))
  · exact ((List.pairwise_lt_range.filter _).filter _).filter _
  · exact pairwise_handshakeStarts 0 records
  · intro position
    rw [List.mem_filter, decide_eq_true_eq, mem_reportedPositions]
    constructor
    · intro both
      exact both.2
    · intro own
      exact ⟨.inl own, own⟩

/-- The entries at the reported positions are those at the starts exactly when no phantom has
one. -/
theorem filterMap_reportedPositions_eq_iff {A : Type} (entry : Nat → Option A) :
    (reportedPositions records).filterMap entry = (handshakeStarts 0 records).filterMap entry ↔
      ∀ position, PhantomAt records position → entry position = none := by
  have others := filterMap_filter_eq_iff (fun position =>
    decide (position ∈ handshakeStarts 0 records)) entry (reportedPositions records)
  rw [filter_reportedPositions] at others
  rw [others]
  simp only [mem_reportedPositions, decide_eq_false_iff_not]
  constructor
  · exact fun silent position phantom => silent position (.inr phantom) phantom.inner
  · intro silent position reported inner
    exact silent position (reported.resolve_left inner)

theorem reportsAt_summary (records : List TlsRecord) :
    ∃ summary, summarizeHellos (encodeRecords records) = .ok summary ∧
      ReportsAt records (reportedPositions records) summary := by
  refine ⟨_, summarizeHellos_eq (encodeRecords records), ?_, fun _ => mem_reportedPositions, ?_, ?_,
    ?_, ?_⟩
  · exact (List.pairwise_lt_range.filter _).filter _
  · exact filterMap_reportedPositions fun _ found => .inl found
  · exact filterMap_reportedPositions fun _ found => .inr found
  · exact (filterMap_handshakeStarts clientHello 0x01 List.drop_zero).symm
  · exact (filterMap_handshakeStarts serverHello 0x02 List.drop_zero).symm

end Positions

/-- The summary reports the Hellos that start a record and the phantoms, in the order of their
positions. It reports nothing but the Hellos that start the records exactly when there is no
phantom. -/
theorem summarizeHellos_encodeRecords (records : List TlsRecord) :
    ∃ summary positions, summarizeHellos (encodeRecords records) = .ok summary ∧
      ReportsAt records positions summary ∧
      (ownHellos records).clientHellos.Sublist summary.clientHellos ∧
      (ownHellos records).serverHellos.Sublist summary.serverHellos ∧
      (summary = ownHellos records ↔ ∀ position, ¬PhantomAt records position) := by
  obtain ⟨summary, returned, reports⟩ := reportsAt_summary records
  have starts : (handshakeStarts 0 records).Sublist (reportedPositions records) := by
    rw [← filter_reportedPositions]
    exact List.filter_sublist
  refine ⟨summary, _, returned, reports, ?_, ?_, ?_⟩
  · rw [reports.ownClientHellos, reports.clientHellos]
    exact starts.filterMap _
  · rw [reports.ownServerHellos, reports.serverHellos]
    exact starts.filterMap _
  · have parts : summary = ownHellos records ↔
        summary.clientHellos = (ownHellos records).clientHellos ∧
          summary.serverHellos = (ownHellos records).serverHellos := by
      rw [← HelloSummary.mk.injEq]
    rw [parts, reports.clientHellos, reports.serverHellos, reports.ownClientHellos,
      reports.ownServerHellos, filterMap_reportedPositions_eq_iff,
      filterMap_reportedPositions_eq_iff]
    constructor
    · rintro ⟨clients, servers⟩ position phantom
      rcases phantom.hello with client | server
      · rw [clients position phantom] at client
        cases client
      · rw [servers position phantom] at server
        cases server
    · intro none
      exact ⟨fun position phantom => absurd phantom (none position),
        fun position phantom => absurd phantom (none position)⟩

theorem phantomBody_fits : sampleHello.length < 65536 := by decide

theorem applicationData_ne_handshake : ContentType.applicationData ≠ .handshake := by decide

theorem phantomVersion_width : ([0x03, 0x03] : Bytes).length = 2 := rfl

/-- The encrypted data of this record has the bytes of a ClientHello record. -/
def phantomRecord : TlsRecord where
  contentType := .applicationData
  version := [0x03, 0x03]
  body := sampleHello
  versionWidth := phantomVersion_width
  legacyVersion := fun same => absurd same applicationData_ne_handshake
  bodyFits := phantomBody_fits

/-- The summary reports a Hello inside encrypted data, without a handshake record. -/
theorem summarizeHellos_phantom : ¬∀ records : List TlsRecord,
    (∀ record ∈ records, record.contentType ≠ .handshake) →
      summarizeHellos (encodeRecords records) = .ok (ownHellos records) := by
  intro always
  have none := always [phantomRecord] (by
    intro record member
    rw [List.mem_singleton.mp member]
    exact applicationData_ne_handshake)
  have reported : (summarizeHellos (encodeRecords [phantomRecord])).toOption =
      some ⟨[([0x11EC, 0x001D], [0x11EC, 0x001D])], []⟩ := by decide +kernel
  rw [none] at reported
  cases reported

end FaultInject.PcapHello
