import FaultInject.Proof.ClientHello
import FaultInject.Protocol.ServerHello

namespace FaultInject.PcapHello
open Python Codec Protocol TlsClientHello

/-- These are the checks of a ServerHello header with the given lengths. -/
structure ServerHeaderAt (record : Bytes) (recordLength : Nat) (sessionIdLength : UInt8)
    (extensionsLength : Nat) : Prop where
  recordFits : recordLength < 65536
  recordField : BytesAt record 3 (bigEndian 2 recordLength)
  recordInside : 5 + recordLength ≤ record.length
  messageType : BytesAt record 5 [0x02]
  sessionIdField : BytesAt record 43 [sessionIdLength]
  extensionsFit : extensionsLength < 65536
  extensionsField :
    BytesAt record (47 + sessionIdLength.toNat) (bigEndian 2 extensionsLength)
  extensionsInside : 49 + sessionIdLength.toNat + extensionsLength ≤ 5 + recordLength

/-- The server parser returns exactly when the header checks hold and the loop returns. -/
theorem serverHello_eq_ok_iff_headerAt {record : Bytes} {result : Bool × Option Nat} :
    serverHello record = .ok result ↔
      ∃ recordLength sessionIdLength extensionsLength group,
        ServerHeaderAt record recordLength sessionIdLength extensionsLength ∧
        forExtensions record (49 + sessionIdLength.toNat)
          (49 + sessionIdLength.toNat + extensionsLength) serverHelloExtension none = .ok group ∧
        result = (slice record 11 43 == hrrRandom, group) := by
  simp only [serverHello, guard_eq_ok, bind_eq_ok, byteAt_eq_ok, readU16_eq_ok,
    Except.ok.injEq, ne_eq, not_not, Nat.not_lt, gt_iff_lt]
  constructor
  · rintro ⟨recordLength, ⟨recordFits, recordField⟩, recordInside, _, messageType, rfl, _,
      sessionIdLength, sessionIdField, extensionsLength, ⟨extensionsFit, extensionsField⟩,
      extensionsInside, group, looped, rfl⟩
    refine ⟨recordLength, sessionIdLength, extensionsLength, group, ?_, ?_, rfl⟩
    · constructor
      case recordFits => exact recordFits
      case recordField => exact recordField
      case recordInside => omega
      case messageType => exact messageType
      case sessionIdField => exact sessionIdField
      case extensionsFit => exact extensionsFit
      case extensionsField => exact extensionsField.move (by omega)
      case extensionsInside => omega
    · rw [← looped]
      congr 1 <;> omega
  · rintro ⟨recordLength, sessionIdLength, extensionsLength, group, header, looped, rfl⟩
    obtain ⟨recordFits, recordField, recordInside, messageType, sessionIdField, extensionsFit,
      extensionsField, extensionsInside⟩ := header
    refine ⟨recordLength, ⟨recordFits, recordField⟩, by omega, 0x02, messageType, rfl, by omega,
      sessionIdLength, sessionIdField, extensionsLength, ⟨extensionsFit, ?_⟩, by omega, group,
      ?_, rfl⟩
    · exact extensionsField.move (by omega)
    · rw [← looped]
      congr 1 <;> omega

/-- A framed record carries its fields at their offsets. -/
theorem serverFields_at (framing : ServerFraming) :
    BytesAt framing.encode 3 (bigEndian 2 framing.fragment.length) ∧
    BytesAt framing.encode 5 [0x02] ∧ BytesAt framing.encode 11 framing.random ∧
    BytesAt framing.encode 43 [UInt8.ofNat framing.sessionId.length] ∧
    BytesAt framing.encode (47 + framing.sessionId.length) (bigEndian 2 framing.block.length) ∧
    BytesAt framing.encode framing.blockStart framing.block := by
  have whole : BytesAt framing.encode 0 framing.encode := List.prefix_refl _
  conv at whole => rhs; unfold ServerFraming.encode
  rw [bytesAt_append, framing.headerWidth, vector, List.append_assoc, bytesAt_append,
    bytesAt_append] at whole
  obtain ⟨_, recordField, fragmentAt, _⟩ := whole
  conv at fragmentAt => rhs; unfold ServerFraming.fragment
  rw [bytesAt_cons] at fragmentAt
  obtain ⟨messageType, bodyAt⟩ := fragmentAt
  simp only [vector, List.append_assoc, bytesAt_append, length_bigEndian,
    framing.messageLengthWidth, framing.versionWidth, framing.randomWidth,
    framing.cipherSuiteWidth] at bodyAt
  obtain ⟨_, _, random, sessionIdField, _, _, extensionsField, block, _⟩ := bodyAt
  refine ⟨recordField, messageType, random, sessionIdField, ?_, ?_⟩
  · exact extensionsField.move (by omega)
  · exact block.move (by simp only [ServerFraming.blockStart]; omega)

/-- A framed record passes all header checks. -/
theorem serverHeaderAt_encode (framing : ServerFraming) :
    ServerHeaderAt framing.encode framing.fragment.length
      (UInt8.ofNat framing.sessionId.length) framing.block.length := by
  have sessionIdLength : (UInt8.ofNat framing.sessionId.length).toNat =
      framing.sessionId.length := UInt8.toNat_ofNat_of_lt' framing.sessionIdFits
  have recordFits := framing.recordFits
  obtain ⟨recordField, messageType, _, sessionIdField, extensionsField, _⟩ :=
    serverFields_at framing
  constructor
  case recordFits => rw [ServerFraming.length_fragment]; exact recordFits
  case recordField => exact recordField
  case recordInside => rw [ServerFraming.length_encode, ServerFraming.recordEnd]; omega
  case messageType => exact messageType
  case sessionIdField => exact sessionIdField
  case extensionsFit => omega
  case extensionsField => rw [sessionIdLength]; exact extensionsField
  case extensionsInside => rw [sessionIdLength, ServerFraming.length_fragment]; omega

/-- A record that carries the parts of a framing is its encoding. -/
theorem serverFraming_encode_eq (framing : ServerFraming) {record : Bytes}
    (header : BytesAt record 0 framing.header)
    (recordField : BytesAt record 3 (bigEndian 2 framing.fragment.length))
    (fragmentAt : BytesAt record 5 framing.fragment)
    (inside : 5 + framing.fragment.length ≤ record.length)
    (rest : framing.afterRecord = record.drop (5 + framing.fragment.length)) :
    framing.encode = record := by
  have recordAt : BytesAt record 0 framing.encode := by
    rw [ServerFraming.encode, bytesAt_append, framing.headerWidth, vector,
      List.append_assoc, bytesAt_append, bytesAt_append, rest]
    refine ⟨header, recordField, fragmentAt, ?_⟩
    simp only [length_bigEndian]
    exact List.prefix_refl _
  apply recordAt.eq_data
  rw [ServerFraming.length_encode, ServerFraming.recordEnd, rest, List.length_drop]
  omega

/-- The slices of a record that passes the header checks form a framing. -/
theorem ServerHeaderAt.framing {record : Bytes} {recordLength extensionsLength : Nat}
    {sessionIdLength : UInt8}
    (header : ServerHeaderAt record recordLength sessionIdLength extensionsLength) :
    ∃ framing : ServerFraming, framing.encode = record ∧
      framing.sessionId.length = sessionIdLength.toNat ∧
      framing.block.length = extensionsLength := by
  obtain ⟨recordFits, recordField, recordInside, messageType, sessionIdField, extensionsFit,
    extensionsField, extensionsInside⟩ := header
  have sessionIdSmall := sessionIdLength.toNat_lt
  let blockStart := 49 + sessionIdLength.toNat
  have sessionIdWidth : (slice record 44 (44 + sessionIdLength.toNat)).length =
      sessionIdLength.toNat := length_slice_add (by omega)
  have blockWidth : (slice record blockStart (blockStart + extensionsLength)).length =
      extensionsLength := length_slice_add (by omega)
  have afterBlockWidth : (slice record (blockStart + extensionsLength)
      (5 + recordLength)).length = 5 + recordLength - (blockStart + extensionsLength) :=
    length_slice_of_le (by omega)
  have messageLengthWidth : (slice record 6 9).length = 3 := length_slice_of_le (by omega)
  have versionWidth : (slice record 9 11).length = 2 := length_slice_of_le (by omega)
  have randomWidth : (slice record 11 43).length = 32 := length_slice_of_le (by omega)
  have cipherSuiteWidth : (slice record (44 + sessionIdLength.toNat)
      (47 + sessionIdLength.toNat)).length = 3 := by rw [length_slice_of_le (by omega)]; omega
  let framing : ServerFraming :=
    { header := slice record 0 3
      messageLength := slice record 6 9
      legacyVersion := slice record 9 11
      random := slice record 11 43
      sessionId := slice record 44 (44 + sessionIdLength.toNat)
      cipherSuite := slice record (44 + sessionIdLength.toNat) (47 + sessionIdLength.toNat)
      block := slice record blockStart (blockStart + extensionsLength)
      afterBlock := slice record (blockStart + extensionsLength) (5 + recordLength)
      afterRecord := record.drop (5 + recordLength)
      headerWidth := length_slice_of_le (by omega)
      messageLengthWidth := messageLengthWidth
      versionWidth := versionWidth
      randomWidth := randomWidth
      sessionIdFits := by rw [sessionIdWidth]; exact sessionIdSmall
      cipherSuiteWidth := cipherSuiteWidth
      recordFits := by
        rw [sessionIdWidth, blockWidth, afterBlockWidth]
        omega }
  have fragmentWidth : framing.fragment.length = recordLength := by
    rw [ServerFraming.length_fragment, sessionIdWidth, blockWidth, afterBlockWidth]
    omega
  refine ⟨framing, ?_, sessionIdWidth, blockWidth⟩
  have fragmentAt : BytesAt record 5 framing.fragment := by
    rw [ServerFraming.fragment, bytesAt_cons]
    simp only [vector, List.append_assoc, bytesAt_append, length_bigEndian, framing,
      messageLengthWidth, versionWidth, randomWidth, sessionIdWidth, cipherSuiteWidth,
      blockWidth, bigEndian_one, UInt8.ofNat_toNat, List.length_singleton]
    refine ⟨messageType, bytesAt_slice _ _ _, bytesAt_slice _ _ _, bytesAt_slice _ _ _,
      sessionIdField, bytesAt_slice _ _ _, (bytesAt_slice _ _ _).move (by omega),
      extensionsField.move (by omega), (bytesAt_slice _ _ _).move (by omega),
      (bytesAt_slice _ _ _).move (by omega)⟩
  rw [← fragmentWidth] at recordField recordInside
  apply serverFraming_encode_eq framing (bytesAt_slice record 0 3) recordField fragmentAt
    recordInside
  rw [fragmentWidth]

/-- The server parser returns exactly when the loop returns on the items of a framing. -/
theorem serverHello_eq_ok {record : Bytes} {result : Bool × Option Nat} :
    serverHello record = .ok result ↔
      ∃ (framing : ServerFraming) (items : List (Item .u16)) (group : Option Nat),
        framing.encode = record ∧ framing.block = encodeAll items ∧
        items.foldlM (fun group item => serverHelloExtension group item.tag item.value) none =
          .ok group ∧
        result = (framing.random == hrrRandom, group) := by
  rw [serverHello_eq_ok_iff_headerAt]
  constructor
  · rintro ⟨recordLength, sessionIdLength, extensionsLength, group, header, looped, rfl⟩
    obtain ⟨framing, rfl, sessionIdWidth, blockWidth⟩ := header.framing
    obtain ⟨_, _, random, _, _, block⟩ := serverFields_at framing
    have inside := framing.block_end
    rw [← sessionIdWidth, ← blockWidth] at looped
    obtain ⟨items, tiles, folded⟩ :=
      (forExtensions_eq_ok inside (Nat.le_add_right _ _)).mp looped
    refine ⟨framing, items, group, rfl, block.unique tiles.1 (Nat.add_left_cancel tiles.2),
      folded, ?_⟩
    rw [random.slice_eq (by rw [framing.randomWidth])]
  · rintro ⟨framing, items, group, rfl, block, folded, rfl⟩
    obtain ⟨_, _, random, _, _, blockAt⟩ := serverFields_at framing
    have sessionIdLength : (UInt8.ofNat framing.sessionId.length).toNat =
        framing.sessionId.length := UInt8.toNat_ofNat_of_lt' framing.sessionIdFits
    have tiles : Tiles framing.encode framing.blockStart
        (framing.blockStart + framing.block.length) items := by
      rw [block] at blockAt ⊢
      exact ⟨blockAt, rfl⟩
    refine ⟨_, _, _, group, serverHeaderAt_encode framing, ?_, ?_⟩
    · rw [sessionIdLength]
      exact (forExtensions_eq_ok framing.block_end (Nat.le_add_right _ _)).mpr
        ⟨items, tiles, folded⟩
    · rw [random.slice_eq (by rw [framing.randomWidth])]

/-- The body of the loop reads a typed extension. -/
theorem serverHelloExtension_toItem (group : Option Nat) (extension : ServerExtension) :
    serverHelloExtension group extension.toItem.tag extension.toItem.value =
      .ok (extension.group.or group) := by
  cases extension with
  | selectedGroup code =>
      have read : readU16 code.encode 0 = .ok code.val :=
        readU16_of_bytesAt code.isLt (List.prefix_refl _)
      simp [serverHelloExtension, ServerExtension.toItem, ServerExtension.group, tlsKeyShare, read]
  | serverShare code keyExchange fits =>
      have read : readU16 (code.encode ++ vector 2 keyExchange) 0 = .ok code.val :=
        readU16_of_bytesAt code.isLt (List.prefix_append _ _)
      simp [serverHelloExtension, ServerExtension.toItem, ServerExtension.group, tlsKeyShare, read]
  | other item notShares => exact if_neg notShares

/-- The loop over distinct extensions returns the group of the one key share. -/
theorem serverHelloExtension_foldlM {extensions : List ServerExtension}
    (distinct : extensions.Pairwise fun first second => first.toItem.tag ≠ second.toItem.tag)
    (group : Option Nat) :
    (extensions.map ServerExtension.toItem).foldlM (fun group item =>
        serverHelloExtension group item.tag item.value) group =
      .ok ((extensions.findSome? ServerExtension.group).or group) := by
  induction distinct generalizing group with
  | nil => rfl
  | @cons extension extensions others _ ih =>
      rw [List.map_cons, List.foldlM_cons, serverHelloExtension_toItem, ok_bind, ih,
        List.findSome?_cons]
      cases found : extension.group with
      | none => rfl
      | some code =>
          have absent : extensions.findSome? ServerExtension.group = none := by
            rw [List.findSome?_eq_none_iff]
            intro other member
            have tag : extension.toItem.tag = 0x0033 := by
              by_contra differs
              rw [ServerExtension.group_eq_none.mpr differs] at found
              cases found
            rw [ServerExtension.group_eq_none, ← tag]
            exact (others other member).symm
          rw [absent]
          rfl

/-- The server parser reads the record of a ServerHello. -/
theorem serverHello_encode (hello : ServerHello) :
    serverHello hello.encode = .ok (hello.random == hrrRandom, hello.group) := by
  refine serverHello_eq_ok.mpr ⟨hello.framing, hello.extensions.map ServerExtension.toItem,
    hello.group, hello.encode_framing, rfl, ?_, rfl⟩
  rw [serverHelloExtension_foldlM hello.distinct, Option.or_none]
  rfl

/-- The client parser reads the record of a ClientHello with distinct extensions. -/
theorem clientHello_encode (hello : DistinctClientHello) :
    clientHello hello.encode =
      .ok (hello.groups.getD [], (hello.shares.getD []).map Item.tag) := by
  have whole := hello.toClientHello.encode_framing []
  rw [List.append_nil] at whole
  rw [← whole, clientHello_framing (hello.toClientHello.framing []) rfl,
    hello.advertisedGroups_eq, hello.keyShares_eq]

/-- The share search points at the entries of a ClientHello with distinct extensions. -/
theorem findKeyShare_encode (hello : DistinctClientHello) :
    ∃ shares, findKeyShare hello.encode = .ok shares ∧
      List.Forall₂ (PointsAt hello.encode) shares (hello.shares.getD []) := by
  have whole := hello.toClientHello.encode_framing []
  rw [List.append_nil] at whole
  rw [← whole, ← hello.keyShares_eq]
  exact findKeyShare_framing (hello.toClientHello.framing []) rfl

/-- The parsers undo the encoding of both hello messages. -/
theorem parsers_undo_encoding :
    (∀ hello : DistinctClientHello,
      clientHello hello.encode =
        .ok (hello.groups.getD [], (hello.shares.getD []).map Item.tag) ∧
      ∃ shares, findKeyShare hello.encode = .ok shares ∧
        List.Forall₂ (PointsAt hello.encode) shares (hello.shares.getD [])) ∧
    ∀ hello : ServerHello,
      serverHello hello.encode = .ok (hello.random == hrrRandom, hello.group) :=
  ⟨fun hello => ⟨clientHello_encode hello, findKeyShare_encode hello⟩, serverHello_encode⟩

end FaultInject.PcapHello
