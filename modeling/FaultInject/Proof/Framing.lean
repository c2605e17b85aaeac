import FaultInject.Construction.TlsClientHello
import FaultInject.Protocol.ClientHello

namespace FaultInject.TlsClientHello
open Python Codec Protocol

/-- A field read returns exactly the number that the data carries in two bytes. -/
theorem readU16_eq_ok {data : Bytes} {offset value : Nat} :
    readU16 data offset = .ok value ↔
      value < 65536 ∧ BytesAt data offset (bigEndian 2 value) := by
  exact readField_eq_ok (by decide)

theorem readU16_of_bytesAt {data : Bytes} {offset value : Nat} (fits : value < 65536)
    (carried : BytesAt data offset (bigEndian 2 value)) : readU16 data offset = .ok value :=
  readU16_eq_ok.mpr ⟨fits, carried⟩

/-- These are the checks of a header with the given lengths. -/
structure HeaderAt (record : Bytes) (recordLength handshakeLength : Nat) (sessionIdLength : UInt8)
    (cipherSuitesLength : Nat) (compressionLength : UInt8) (extensionsLength : Nat) : Prop where
  contentType : BytesAt record 0 [0x16]
  recordFits : recordLength < 65536
  recordField : BytesAt record 3 (bigEndian 2 recordLength)
  recordInside : 5 + recordLength ≤ record.length
  messageType : BytesAt record 5 [0x01]
  handshakeField : BytesAt record 6 (bigEndian 3 handshakeLength)
  handshakeInside : 9 + handshakeLength ≤ 5 + recordLength
  sessionIdField : BytesAt record 43 [sessionIdLength]
  cipherSuitesFit : cipherSuitesLength < 65536
  cipherSuitesField :
    BytesAt record (44 + sessionIdLength.toNat) (bigEndian 2 cipherSuitesLength)
  compressionField : BytesAt record (46 + sessionIdLength.toNat + cipherSuitesLength)
    [compressionLength]
  extensionsFit : extensionsLength < 65536
  extensionsField : BytesAt record
    (47 + sessionIdLength.toNat + cipherSuitesLength + compressionLength.toNat)
    (bigEndian 2 extensionsLength)
  extensionsInside : 49 + sessionIdLength.toNat + cipherSuitesLength + compressionLength.toNat +
    extensionsLength ≤ 9 + handshakeLength

/-- The parser returns exactly when all header checks hold. -/
theorem clientHelloExtensions_eq_ok_iff_headerAt {record : Bytes} {start stop : Nat} :
    clientHelloExtensions record = .ok (start, stop) ↔
      ∃ recordLength handshakeLength sessionIdLength cipherSuitesLength compressionLength
        extensionsLength,
        HeaderAt record recordLength handshakeLength sessionIdLength cipherSuitesLength
          compressionLength extensionsLength ∧
        start = 49 + sessionIdLength.toNat + cipherSuitesLength + compressionLength.toNat ∧
        stop = start + extensionsLength := by
  simp only [clientHelloExtensions, guard_eq_ok, bind_eq_ok, byteAt_eq_ok, readU16_eq_ok,
    Except.ok.injEq, Prod.mk.injEq, ne_eq, not_not, Nat.not_lt, Nat.not_le, ge_iff_le, gt_iff_lt]
  constructor
  · rintro ⟨long, _, contentType, rfl, recordLength, ⟨recordFits, recordField⟩, recordInside, _,
      messageType, rfl, handshakeInside, _, sessionIdLength, sessionIdField, cipherSuitesLength,
      ⟨cipherSuitesFit, cipherSuitesField⟩, _, compressionLength, compressionField,
      extensionsLength, ⟨extensionsFit, extensionsField⟩, extensionsInside, rfl, rfl⟩
    have handshakeField := bigEndian_fromBytes (slice record 6 9) ▸ bytesAt_slice record 6 9
    rw [length_slice_of_le (by omega)] at handshakeField
    refine ⟨recordLength, fromBytes (slice record 6 9), sessionIdLength, cipherSuitesLength,
      compressionLength, extensionsLength, ?_, by omega, by omega⟩
    constructor
    case contentType => exact contentType
    case recordFits => exact recordFits
    case recordField => exact recordField
    case recordInside => omega
    case messageType => exact messageType
    case handshakeField => exact handshakeField
    case handshakeInside => omega
    case sessionIdField => exact sessionIdField
    case cipherSuitesFit => exact cipherSuitesFit
    case cipherSuitesField => exact cipherSuitesField.move (by omega)
    case compressionField => exact compressionField.move (by omega)
    case extensionsFit => exact extensionsFit
    case extensionsField => exact extensionsField.move (by omega)
    case extensionsInside => omega
  · rintro ⟨recordLength, handshakeLength, sessionIdLength, cipherSuitesLength,
      compressionLength, extensionsLength, header, rfl, rfl⟩
    obtain ⟨contentType, recordFits, recordField, recordInside, messageType, handshakeField,
      handshakeInside, sessionIdField, cipherSuitesFit, cipherSuitesField, compressionField,
      extensionsFit, extensionsField, extensionsInside⟩ := header
    have handshakeSlice : fromBytes (slice record 6 9) = handshakeLength := by
      rw [handshakeField.slice_eq (by simp), fromBytes_bigEndian 3 _ (by omega)]
    refine ⟨by omega, 0x16, contentType, rfl, recordLength, ⟨recordFits, recordField⟩,
      recordInside, 0x01, messageType, rfl, by omega, by omega, sessionIdLength, sessionIdField,
      cipherSuitesLength, ⟨cipherSuitesFit, ?_⟩, by omega, compressionLength, ?_,
      extensionsLength, ⟨extensionsFit, ?_⟩, by omega, by omega, by omega⟩
    · exact cipherSuitesField.move (by omega)
    · exact compressionField.move (by omega)
    · exact extensionsField.move (by omega)

/-- A framed record passes all header checks. -/
theorem headerAt_encode (framing : Framing) :
    HeaderAt framing.encode framing.fragment.length framing.body.length
      (UInt8.ofNat framing.preamble.sessionId.length) framing.preamble.cipherSuites.length
      (UInt8.ofNat framing.preamble.compressionMethods.length) framing.block.length := by
  obtain ⟨record, same⟩ : ∃ record, record = framing.encode := ⟨_, rfl⟩
  have whole : BytesAt record 0 framing.encode := by rw [same]; exact List.prefix_refl _
  have width : record.length = framing.recordEnd + framing.afterRecord.length := by
    rw [same, Framing.length_encode]
  rw [← same]
  have versionWidth := framing.preamble.versionWidth
  have randomWidth := framing.preamble.randomWidth
  have sessionIdFits := framing.preamble.sessionIdFits
  have compressionFits := framing.preamble.compressionFits
  have recordFits := framing.recordFits
  have sessionIdLength : (UInt8.ofNat framing.preamble.sessionId.length).toNat =
      framing.preamble.sessionId.length := UInt8.toNat_ofNat_of_lt' sessionIdFits
  have compressionLength : (UInt8.ofNat framing.preamble.compressionMethods.length).toNat =
      framing.preamble.compressionMethods.length := UInt8.toNat_ofNat_of_lt' compressionFits
  rw [Preamble.length_encode] at recordFits
  unfold Framing.encode at whole
  rw [bytesAt_cons, bytesAt_append, framing.versionWidth, vector, List.append_assoc,
    bytesAt_append, bytesAt_append] at whole
  obtain ⟨contentType, _, recordField, fragmentAt, _⟩ := whole
  unfold Framing.fragment at fragmentAt
  rw [bytesAt_cons, vector, List.append_assoc, bytesAt_append, bytesAt_append] at fragmentAt
  obtain ⟨messageType, handshakeField, bodyAt, _⟩ := fragmentAt
  simp only [Framing.body, Preamble.encode, vector, List.append_assoc, bytesAt_append,
    length_bigEndian, versionWidth, randomWidth] at bodyAt
  obtain ⟨_, _, sessionIdField, _, cipherSuitesField, _, compressionField, _, extensionsField,
    _, _⟩ := bodyAt
  constructor
  case contentType => exact contentType
  case recordFits => simp; omega
  case recordField => exact recordField
  case recordInside => rw [width, Framing.recordEnd]; omega
  case messageType => exact messageType
  case handshakeField => exact handshakeField
  case handshakeInside => rw [Framing.length_fragment]; omega
  case sessionIdField => exact sessionIdField
  case cipherSuitesFit => exact framing.preamble.cipherSuitesFit
  case cipherSuitesField => exact cipherSuitesField.move (by omega)
  case compressionField =>
    rw [bigEndian_one] at compressionField
    exact compressionField.move (by omega)
  case extensionsFit => exact framing.blockFits
  case extensionsField => exact extensionsField.move (by omega)
  case extensionsInside =>
    rw [sessionIdLength, compressionLength, Framing.length_body, Preamble.length_encode]
    omega

section Slices
variable {record : Bytes} {recordLength handshakeLength cipherSuitesLength extensionsLength : Nat}
  {sessionIdLength compressionLength : UInt8}

/-- The slices in front of the extensions form a preamble. -/
theorem HeaderAt.preamble
    (header : HeaderAt record recordLength handshakeLength sessionIdLength cipherSuitesLength
      compressionLength extensionsLength) :
    ∃ preamble : Preamble, BytesAt record 9 preamble.encode ∧ preamble.encode.length =
      38 + sessionIdLength.toNat + cipherSuitesLength + compressionLength.toNat := by
  obtain ⟨_, _, _, recordInside, _, _, handshakeInside, sessionIdField, cipherSuitesFit,
    cipherSuitesField, compressionField, _, _, extensionsInside⟩ := header
  let cipherStart := 46 + sessionIdLength.toNat
  let compressionStart := 47 + sessionIdLength.toNat + cipherSuitesLength
  have versionWidth : (slice record 9 11).length = 2 := length_slice_of_le (by omega)
  have randomWidth : (slice record 11 43).length = 32 := length_slice_of_le (by omega)
  have sessionIdWidth : (slice record 44 (44 + sessionIdLength.toNat)).length =
      sessionIdLength.toNat := length_slice_add (by omega)
  have cipherWidth : (slice record cipherStart (cipherStart + cipherSuitesLength)).length =
      cipherSuitesLength := length_slice_add (by omega)
  have compressionWidth :
      (slice record compressionStart (compressionStart + compressionLength.toNat)).length =
        compressionLength.toNat := length_slice_add (by omega)
  let preamble : Preamble :=
    { legacyVersion := slice record 9 11
      random := slice record 11 43
      sessionId := slice record 44 (44 + sessionIdLength.toNat)
      cipherSuites := slice record cipherStart (cipherStart + cipherSuitesLength)
      compressionMethods :=
        slice record compressionStart (compressionStart + compressionLength.toNat)
      versionWidth := versionWidth
      randomWidth := randomWidth
      sessionIdFits := by rw [sessionIdWidth]; exact sessionIdLength.toNat_lt
      cipherSuitesFit := by rw [cipherWidth]; exact cipherSuitesFit
      compressionFits := by rw [compressionWidth]; exact compressionLength.toNat_lt }
  refine ⟨preamble, ?_, ?_⟩
  · simp only [Preamble.encode, vector, List.append_assoc, bytesAt_append, length_bigEndian,
      preamble, sessionIdWidth, cipherWidth, versionWidth, randomWidth, compressionWidth,
      bigEndian_one, UInt8.ofNat_toNat, List.length_singleton]
    refine ⟨bytesAt_slice _ _ _, bytesAt_slice _ _ _, sessionIdField, bytesAt_slice _ _ _,
      cipherSuitesField.move (by omega), (bytesAt_slice _ _ _).move (by omega),
      compressionField.move (by omega), (bytesAt_slice _ _ _).move (by omega)⟩
  · rw [Preamble.length_encode, sessionIdWidth, cipherWidth, compressionWidth]

/-- A record that carries the parts of a framing is its encoding. -/
theorem framing_encode_eq (framing : Framing) (contentType : BytesAt record 0 [0x16])
    (version : BytesAt record 1 framing.recordVersion)
    (recordField : BytesAt record 3 (bigEndian 2 framing.fragment.length))
    (fragmentAt : BytesAt record 5 framing.fragment)
    (inside : 5 + framing.fragment.length ≤ record.length)
    (rest : framing.afterRecord = record.drop (5 + framing.fragment.length)) :
    framing.encode = record := by
  have recordAt : BytesAt record 0 framing.encode := by
    rw [Framing.encode, bytesAt_cons, bytesAt_append, framing.versionWidth, vector,
      List.append_assoc, bytesAt_append, bytesAt_append, rest]
    refine ⟨contentType, version, recordField, fragmentAt, ?_⟩
    simp only [length_bigEndian]
    exact List.prefix_refl _
  apply recordAt.eq_data
  rw [Framing.length_encode, Framing.recordEnd, rest, List.length_drop]
  omega

/-- The preamble and the slices behind it form a framing. -/
theorem HeaderAt.framing
    (header : HeaderAt record recordLength handshakeLength sessionIdLength cipherSuitesLength
      compressionLength extensionsLength) :
    ∃ framing : Framing, framing.encode = record ∧
      framing.blockStart =
        49 + sessionIdLength.toNat + cipherSuitesLength + compressionLength.toNat ∧
      framing.block.length = extensionsLength := by
  obtain ⟨preamble, preambleAt, preambleWidth⟩ := header.preamble
  obtain ⟨contentType, recordFits, recordField, recordInside, messageType, handshakeField,
    handshakeInside, _, _, _, _, extensionsFit, extensionsField, extensionsInside⟩ := header
  let blockStart := 49 + sessionIdLength.toNat + cipherSuitesLength + compressionLength.toNat
  have blockWidth : (slice record blockStart (blockStart + extensionsLength)).length =
      extensionsLength := length_slice_add (by omega)
  have afterBlockWidth : (slice record (blockStart + extensionsLength)
      (9 + handshakeLength)).length = 9 + handshakeLength - (blockStart + extensionsLength) :=
    length_slice_of_le (by omega)
  have afterMessageWidth : (slice record (9 + handshakeLength) (5 + recordLength)).length =
      5 + recordLength - (9 + handshakeLength) := length_slice_of_le (by omega)
  let framing : Framing :=
    { recordVersion := slice record 1 3
      preamble := preamble
      block := slice record blockStart (blockStart + extensionsLength)
      afterBlock := slice record (blockStart + extensionsLength) (9 + handshakeLength)
      afterMessage := slice record (9 + handshakeLength) (5 + recordLength)
      afterRecord := record.drop (5 + recordLength)
      versionWidth := length_slice_of_le (by omega)
      blockFits := by rw [blockWidth]; exact extensionsFit
      recordFits := by
        rw [preambleWidth, blockWidth, afterBlockWidth, afterMessageWidth]
        omega }
  have bodyWidth : framing.body.length = handshakeLength := by
    rw [Framing.length_body, preambleWidth, blockWidth, afterBlockWidth]
    omega
  have fragmentWidth : framing.fragment.length = recordLength := by
    rw [Framing.length_fragment, bodyWidth, afterMessageWidth]
    omega
  refine ⟨framing, ?_, ?_, blockWidth⟩
  · have bodyAt : BytesAt record 9 framing.body := by
      simp only [Framing.body, vector, List.append_assoc, bytesAt_append, length_bigEndian,
        framing, preambleWidth, blockWidth]
      exact ⟨preambleAt, extensionsField.move (by omega), (bytesAt_slice _ _ _).move (by omega),
        (bytesAt_slice _ _ _).move (by omega)⟩
    have fragmentAt : BytesAt record 5 framing.fragment := by
      rw [Framing.fragment, bytesAt_cons, vector, List.append_assoc, bytesAt_append,
        bytesAt_append, bodyWidth]
      refine ⟨messageType, handshakeField, bodyAt, ?_⟩
      simp only [length_bigEndian]
      exact bytesAt_slice record _ _
    rw [← fragmentWidth] at recordField recordInside
    apply framing_encode_eq framing contentType (bytesAt_slice record 1 3) recordField fragmentAt
      recordInside
    rw [fragmentWidth]
  · rw [Framing.blockStart, preambleWidth]
    omega

end Slices

/-- The parser returns exactly on framed records, with the two ends of their block. -/
theorem clientHelloExtensions_eq_ok {record : Bytes} {start stop : Nat} :
    clientHelloExtensions record = .ok (start, stop) ↔
      ∃ framing : Framing, framing.encode = record ∧ start = framing.blockStart ∧
        stop = framing.blockStart + framing.block.length := by
  rw [clientHelloExtensions_eq_ok_iff_headerAt]
  constructor
  · rintro ⟨_, _, _, _, _, _, header, rfl, rfl⟩
    obtain ⟨framing, same, starts, width⟩ := header.framing
    exact ⟨framing, same, starts.symm, by rw [starts, width]⟩
  · rintro ⟨framing, rfl, rfl, rfl⟩
    have sessionIdLength : (UInt8.ofNat framing.preamble.sessionId.length).toNat =
        framing.preamble.sessionId.length :=
      UInt8.toNat_ofNat_of_lt' framing.preamble.sessionIdFits
    have compressionLength : (UInt8.ofNat framing.preamble.compressionMethods.length).toNat =
        framing.preamble.compressionMethods.length :=
      UInt8.toNat_ofNat_of_lt' framing.preamble.compressionFits
    refine ⟨_, _, _, _, _, _, headerAt_encode framing, ?_, rfl⟩
    rw [sessionIdLength, compressionLength, Framing.blockStart, Preamble.length_encode]
    omega

theorem clientHelloExtensions_encode (framing : Framing) :
    clientHelloExtensions framing.encode =
      .ok (framing.blockStart, framing.blockStart + framing.block.length) :=
  clientHelloExtensions_eq_ok.mpr ⟨framing, rfl, rfl, rfl⟩

end FaultInject.TlsClientHello
