import FaultInject.Construction.SshKexinit
import FaultInject.Protocol.KexInit

namespace FaultInject.SshKexinit
open Python Codec Protocol

section Packet
variable {cookie names rest padding : Bytes}

/-- These are the bounds on the fields of a packet with raw names. -/
structure PacketFits (cookie names rest padding : Bytes) : Prop where
  cookieWidth : cookie.length = 16
  paddingFits : padding.length < 256
  packetFits : 22 + names.length + rest.length + padding.length < 2 ^ 32

/-- A packet carries its fields at their offsets. -/
theorem fields_at (fits : PacketFits cookie names rest padding) :
    let packet := sshPacket (kexInitPayload cookie names rest) padding
    BytesAt packet 0 (bigEndian 4 (22 + names.length + rest.length + padding.length)) ∧
    BytesAt packet 4 [UInt8.ofNat padding.length] ∧ BytesAt packet 5 [20] ∧
    BytesAt packet 6 cookie ∧ BytesAt packet 22 (bigEndian 4 names.length) ∧
    BytesAt packet 26 names ∧ BytesAt packet (26 + names.length) rest ∧
    BytesAt packet (26 + names.length + rest.length) padding := by
  intro packet
  have cookieWidth := fits.cookieWidth
  have whole : BytesAt packet 0 (sshPacket (kexInitPayload cookie names rest) padding) :=
    List.prefix_refl _
  generalize packet = packet at whole ⊢
  rw [sshPacket, length_kexInitPayload] at whole
  simp only [kexInitPayload, vector, bytesAt_append, length_bigEndian, List.length_append,
    List.length_singleton, cookieWidth] at whole
  obtain ⟨length, paddingLength, ⟨messageNumber, cookieAt, ⟨namesLength, namesAt⟩, restAt⟩,
    paddingAt⟩ := whole
  have total : 1 + (5 + 16 + names.length + rest.length) + padding.length =
      22 + names.length + rest.length + padding.length := by omega
  rw [total] at length
  refine ⟨length, paddingLength, messageNumber, cookieAt, namesLength, namesAt, ?_, ?_⟩
  · exact restAt.move (by omega)
  · exact paddingAt.move (by omega)

/-- The bounds of a packet are the ends of its name list, its payload and its padding. -/
theorem kexinitAlgorithmBounds_packet (fits : PacketFits cookie names rest padding) :
    kexinitAlgorithmBounds (sshPacket (kexInitPayload cookie names rest) padding) =
      .ok (some (26, 26 + names.length, 26 + names.length + rest.length,
        26 + names.length + rest.length + padding.length)) := by
  obtain ⟨length, paddingLength, messageNumber, _, namesLength, _⟩ := fields_at fits
  have cookieWidth := fits.cookieWidth
  have paddingFits := fits.paddingFits
  have packetFits := fits.packetFits
  have paddingByte : (UInt8.ofNat padding.length).toNat = padding.length :=
    UInt8.toNat_ofNat_of_lt' paddingFits
  rw [kexinitAlgorithmBounds, if_neg (by
      simp only [length_sshPacket, length_kexInitPayload]
      omega),
    length.slice_eq (by rw [length_bigEndian]), fromBytes_bigEndian 4 _ packetFits,
    byteAt_eq_ok.mpr paddingLength, ok_bind, paddingByte]
  dsimp only
  rw [if_neg (by simp only [length_sshPacket, length_kexInitPayload]; omega),
    byteAt_eq_ok.mpr messageNumber, ok_bind, if_neg (by decide),
    namesLength.slice_eq (by rw [length_bigEndian]), fromBytes_bigEndian 4 _ (by omega),
    if_neg (by omega)]
  simp only [Except.ok.injEq, Option.some.injEq, Prod.mk.injEq]
  refine ⟨trivial, trivial, by omega, by omega⟩

end Packet

section Names
variable (packet : KexInit)

theorem packetFits (packet : KexInit) :
    PacketFits packet.cookie (nameList packet.algorithms) packet.rest packet.padding :=
  ⟨packet.cookieWidth, packet.paddingFits, packet.packetFits⟩

/-- The reader returns the names of a packet. -/
theorem kexinitAlgorithms_encode : kexinitAlgorithms packet.encode = .ok packet.names := by
  obtain ⟨_, _, _, _, _, namesAt, _⟩ := fields_at (packetFits packet)
  rw [kexinitAlgorithms, KexInit.encode, kexinitAlgorithmBounds_packet (packetFits packet), ok_bind]
  dsimp only
  rw [namesAt.slice_eq rfl]
  by_cases empty : packet.algorithms = []
  · rw [KexInit.names, empty]
    rfl
  · have visible : nameList packet.algorithms ≠ [] := by
      intro none
      have text := List.map_eq_nil_iff.mp none
      exact empty (nameText_eq_empty.mp (String.toList_eq_nil_iff.mp text))
    rw [if_pos visible, nameList, decodeAscii_asciiBytes (nameText_isAscii _), ok_bind, nameText,
      split_join]
    · rfl
    · simpa using empty
    · intro part member
      obtain ⟨name, _, rfl⟩ := List.mem_map.mp member
      exact name.noComma

/-- The stripper writes the packet without the algorithm. -/
theorem stripKexinitAlgorithm_packet (algorithm : String) :
    stripKexinitAlgorithm packet.encode algorithm = .ok (packet.without algorithm).encode := by
  obtain ⟨_, _, messageNumber, cookieAt, _, namesAt, restAt, paddingAt⟩ :=
    fields_at (packetFits packet)
  have cookieWidth := packet.cookieWidth
  have paddingFits := packet.paddingFits
  have fits := (packet.without algorithm).packetFits
  have retained : encodeAscii (join ',' (packet.names.filter fun name => name != algorithm)) =
      .ok (nameList (packet.without algorithm).algorithms) := by
    rw [← packet.names_without algorithm]
    exact encodeAscii_of_isAscii (nameText_isAscii _)
  have headAt : BytesAt packet.encode 5 ([20] ++ packet.cookie) :=
    bytesAt_append.mpr ⟨messageNumber, cookieAt⟩
  have read := kexinitAlgorithms_encode packet
  rw [stripKexinitAlgorithm, KexInit.encode, kexinitAlgorithmBounds_packet (packetFits packet),
    ok_bind]
  dsimp only
  rw [← KexInit.encode, read, ok_bind, retained, ok_bind]
  rw [KexInit.encode] at headAt ⊢
  rw [namesAt.slice_eq rfl, restAt.slice_eq rfl, paddingAt.slice_eq rfl,
    headAt.slice_eq (by rw [List.length_append, cookieWidth]; rfl)]
  by_cases same : nameList (packet.without algorithm).algorithms = nameList packet.algorithms
  · rw [if_pos same, KexInit.encode, same]
    rfl
  · have rest : (packet.without algorithm).rest = packet.rest := rfl
    have padding : (packet.without algorithm).padding = packet.padding := rfl
    rw [rest, padding] at fits
    rw [if_neg same, toBytes_of_lt (by omega), ok_bind, toBytes_of_lt (by
      simp only [List.length_append, List.length_singleton, length_bigEndian]
      omega), ok_bind, singleByte, if_pos paddingFits, ok_bind]
    simp only [KexInit.encode, sshPacket, kexInitPayload, vector, KexInit.without,
      List.append_assoc]

/-- The stripper decodes, filters and encodes again. It keeps a packet without the algorithm. -/
theorem stripKexinitAlgorithm_encode (algorithm : String) :
    ∃ out, stripKexinitAlgorithm packet.encode algorithm = .ok out ∧
      out = (packet.without algorithm).encode ∧
      kexinitAlgorithms packet.encode = .ok packet.names ∧
      kexinitAlgorithms out = .ok (packet.names.filter fun name => name != algorithm) ∧
      (algorithm ∈ packet.names ∨ out = packet.encode) := by
  refine ⟨_, stripKexinitAlgorithm_packet packet algorithm, rfl, kexinitAlgorithms_encode packet,
    ?_, ?_⟩
  · rw [kexinitAlgorithms_encode, packet.names_without]
  · by_cases present : algorithm ∈ packet.names
    · exact .inl present
    · have same : packet.algorithms.filter (fun name => name.text != algorithm) =
          packet.algorithms := by
        rw [List.filter_eq_self]
        intro name member
        have differs : name.text ≠ algorithm := by
          rintro rfl
          exact present (List.mem_map_of_mem member)
        simpa using differs
      right
      simp only [KexInit.encode, KexInit.without, same]

end Names

section Errors
variable {packet : Bytes}

/-- The bounds of any accepted packet lie in order inside the packet. -/
theorem kexinitAlgorithmBounds_inside {start stop payloadEnd packetEnd : Nat}
    (returned : kexinitAlgorithmBounds packet = .ok (some (start, stop, payloadEnd, packetEnd))) :
    start = 26 ∧ start ≤ stop ∧ stop ≤ payloadEnd ∧ payloadEnd ≤ packetEnd ∧
      packetEnd ≤ packet.length ∧ packetEnd < 4 + 2 ^ 32 := by
  simp only [kexinitAlgorithmBounds, early_none_eq_ok, bind_eq_ok, Except.ok.injEq,
    Option.some.injEq, Prod.mk.injEq, Nat.not_lt] at returned
  obtain ⟨long, paddingLength, _, inside, _, _, _, ordered, rfl, rfl, rfl, rfl⟩ := returned
  have small := fromBytes_lt (slice packet 0 4)
  rw [length_slice_of_le (by omega)] at small
  refine ⟨rfl, ?_⟩
  omega

/-- The tests of a payload read only bytes that the packet has. -/
theorem payload_onlyValueErrors {A : Type} {least : Nat} (room : 6 ≤ least)
    {far other late : UInt8 → Prop} [DecidablePred far] [DecidablePred other] [DecidablePred late]
    (found : UInt8 → A) :
    OnlyValueErrors (if packet.length < least then .ok none else do
      let paddingLength ← byteAt packet 4
      if far paddingLength then .ok none else do
      let messageNumber ← byteAt packet 5
      if other messageNumber then .ok none else
      if late paddingLength then .ok none else
      .ok (some (found paddingLength))) := by
  refine RaisesOnly.early fun long => ?_
  refine (byteAt_onlyValueErrors (by omega)).bind fun paddingLength _ => ?_
  refine RaisesOnly.early fun _ => ?_
  refine (byteAt_onlyValueErrors (by omega)).bind fun messageNumber _ => ?_
  refine RaisesOnly.early fun _ => ?_
  exact RaisesOnly.early fun _ => raisesOnly_ok _

theorem kexinitAlgorithmBounds_onlyValueErrors (packet : Bytes) :
    OnlyValueErrors (kexinitAlgorithmBounds packet) :=
  payload_onlyValueErrors (by decide : 6 ≤ 26) _

/-- A returned name list was decoded from the bytes between its bounds. -/
theorem kexinitAlgorithms_eq_ok {start stop payloadEnd packetEnd : Nat} {names : List String}
    (bounds : kexinitAlgorithmBounds packet = .ok (some (start, stop, payloadEnd, packetEnd)))
    (returned : kexinitAlgorithms packet = .ok names) :
    (∀ name ∈ names, IsAscii name) ∧
      (join ',' names).toList.length = (slice packet start stop).length := by
  rw [kexinitAlgorithms, bounds, ok_bind] at returned
  dsimp only at returned
  split at returned
  · obtain ⟨text, decoded, split⟩ := bind_eq_ok.mp returned
    cases split
    obtain ⟨ascii, coded⟩ := decodeAscii_eq_ok decoded
    refine ⟨fun name member => isAscii_of_mem_split ascii member, ?_⟩
    rw [join_split, ← coded, length_asciiBytes]
  · rename_i empty
    cases returned
    rw [not_not.mp empty]
    exact ⟨fun _ member => absurd member List.not_mem_nil, rfl⟩

theorem decodeAscii_onlyValueErrors (data : Bytes) : OnlyValueErrors (decodeAscii data) := by
  unfold decodeAscii
  split
  · exact raisesOnly_ok _
  · exact (raisesOnly_error _).mpr rfl

theorem kexinitAlgorithms_onlyValueErrors (packet : Bytes) :
    OnlyValueErrors (kexinitAlgorithms packet) := by
  refine (kexinitAlgorithmBounds_onlyValueErrors packet).bind fun bounds _ => ?_
  split
  · exact (raisesOnly_error _).mpr rfl
  · dsimp only
    split
    · exact (decodeAscii_onlyValueErrors _).bind fun _ _ => raisesOnly_ok _
    · exact raisesOnly_ok _

/-- The stripper raises only value errors. -/
theorem stripKexinitAlgorithm_onlyValueErrors (packet : Bytes) (algorithm : String) :
    OnlyValueErrors (stripKexinitAlgorithm packet algorithm) := by
  refine (kexinitAlgorithmBounds_onlyValueErrors packet).bind fun bounds located => ?_
  split
  · exact (raisesOnly_error _).mpr rfl
  · rename_i start stop payloadEnd packetEnd
    obtain ⟨rfl, ordered, payload, padding, inside, small⟩ := kexinitAlgorithmBounds_inside located
    refine (kexinitAlgorithms_onlyValueErrors packet).bind fun names read => ?_
    obtain ⟨ascii, width⟩ := kexinitAlgorithms_eq_ok located read
    have shorter : (join ',' (names.filter fun name => name != algorithm)).toList.length ≤
        (join ',' names).toList.length := length_join_le List.filter_sublist
    have retained : IsAscii (join ',' (names.filter fun name => name != algorithm)) :=
      isAscii_join (by decide) fun name member => ascii name (List.mem_of_mem_filter member)
    rw [length_slice_of_le (by omega)] at width
    dsimp only
    rw [encodeAscii_of_isAscii retained, ok_bind]
    split
    · exact raisesOnly_ok _
    · refine (toBytes_onlyValueErrors (by rw [length_asciiBytes]; omega)).bind fun length coded => ?_
      obtain ⟨_, rfl⟩ := toBytes_eq_ok.mp coded
      refine (toBytes_onlyValueErrors ?_).bind fun _ _ => ?_
      · simp only [List.length_append, length_bigEndian, length_asciiBytes]
        rw [length_slice_of_le (by omega), length_slice_of_le (by omega),
          length_slice_of_le (by omega)]
        omega
      · refine RaisesOnly.bind ?_ fun _ _ => raisesOnly_ok _
        unfold singleByte
        split
        · exact raisesOnly_ok _
        · exact (raisesOnly_error _).mpr rfl

/-- A located public value lies inside the packet. -/
theorem findKexEcdhInit_inside {offset length : Nat}
    (returned : findKexEcdhInit packet = .ok (some (offset, length))) :
    offset + length ≤ packet.length := by
  simp only [findKexEcdhInit, early_none_eq_ok, bind_eq_ok, Except.ok.injEq,
    Option.some.injEq, Prod.mk.injEq] at returned
  obtain ⟨_, paddingLength, _, inside, _, _, _, ordered, rfl, rfl⟩ := returned
  omega

theorem findKexEcdhInit_onlyValueErrors (packet : Bytes) :
    OnlyValueErrors (findKexEcdhInit packet) :=
  payload_onlyValueErrors (by decide : 6 ≤ 10) _

/-- The forger raises only value errors. -/
theorem forgeSshPqComponent_onlyValueErrors (packet : Bytes) :
    OnlyValueErrors (forgeSshPqComponent packet) := by
  refine (findKexEcdhInit_onlyValueErrors packet).bind fun located found => ?_
  split
  · exact (raisesOnly_error _).mpr rfl
  · rename_i offset length
    have inside := findKexEcdhInit_inside found
    refine RaisesOnly.guard rfl fun long => ?_
    apply flipByte_foldlM_onlyValueErrors
    intro index member
    have bounds := mem_range_one.mp member
    simp only [sntrup761PublickeyBytes, x25519Bytes] at bounds long
    omega

end Errors

end FaultInject.SshKexinit
