import FaultInject.Codec.Complement
import FaultInject.Proof.SshKexinit

namespace FaultInject.SshKexinit
open Python Codec

/-- The packet carries a public value of this length between its header and its padding. -/
structure CarriesPublicValue (packet : Bytes) (packetLength : Nat) (paddingLength : UInt8)
    (blobLength : Nat) : Prop where
  packetLengthField : fromBytes (slice packet 0 4) = packetLength
  paddingLengthField : byteAt packet 4 = .ok paddingLength
  messageNumberField : byteAt packet 5 = .ok sshMsgKexEcdhInit
  blobLengthField : fromBytes (slice packet 6 10) = blobLength
  insidePayload : 10 + blobLength + paddingLength.toNat ≤ 4 + packetLength
  insidePacket : 4 + packetLength ≤ packet.length

section Forge
variable {packet forged : Bytes}

/-- The finder locates exactly the carried public value. -/
theorem findKexEcdhInit_eq_ok {offset blobLength : Nat} :
    findKexEcdhInit packet = .ok (some (offset, blobLength)) ↔ offset = 10 ∧
      ∃ packetLength paddingLength,
        CarriesPublicValue packet packetLength paddingLength blobLength := by
  simp only [findKexEcdhInit, early_none_eq_ok, bind_eq_ok, Except.ok.injEq, Option.some.injEq,
    Prod.mk.injEq]
  constructor
  · rintro ⟨long, paddingLength, paddingAt, inside, messageNumber, messageAt, isInit, ordered, rfl,
      rfl⟩
    cases of_not_not isInit
    exact ⟨rfl, _, paddingLength, rfl, paddingAt, messageAt, rfl, by omega, by omega⟩
  · rintro ⟨rfl, packetLength, paddingLength, carried⟩
    have lengthField := carried.packetLengthField
    have blobField := carried.blobLengthField
    have payload := carried.insidePayload
    have inside := carried.insidePacket
    refine ⟨by omega, paddingLength, carried.paddingLengthField, by omega, _,
      carried.messageNumberField, not_not.mpr rfl, by omega, rfl, blobField⟩

/-- The forger complements the first 1158 bytes of a public value that is long enough. -/
theorem forgeSshPqComponent_eq_ok :
    forgeSshPqComponent packet = .ok forged ↔ ∃ blobLength,
      findKexEcdhInit packet = .ok (some (10, blobLength)) ∧ 1158 + 32 ≤ blobLength ∧
      forged = complement packet 10 1158 := by
  have flips {blobLength : Nat} (found : findKexEcdhInit packet = .ok (some (10, blobLength)))
      (long : 1158 + 32 ≤ blobLength) :
      (range 10 (10 + sntrup761PublickeyBytes) 1).foldlM flipByte packet =
        .ok (complement packet 10 1158) := by
    have inside := findKexEcdhInit_inside found
    have within : 10 + 1158 ≤ packet.length := by omega
    rw [range_one]
    exact flipByte_foldlM_range' within
  rw [forgeSshPqComponent, bind_eq_ok]
  constructor
  · intro ⟨located, found, returned⟩
    cases located with
    | none => cases returned
    | some place =>
        obtain ⟨offset, blobLength⟩ := place
        obtain ⟨rfl, _⟩ := findKexEcdhInit_eq_ok.mp found
        obtain ⟨short, returned⟩ := guard_eq_ok.mp returned
        have long : 1158 + 32 ≤ blobLength := Nat.not_lt.mp short
        rw [flips found long] at returned
        exact ⟨blobLength, found, long, (Except.ok.inj returned).symm⟩
  · rintro ⟨blobLength, found, long, rfl⟩
    exact ⟨_, found, guard_eq_ok.mpr ⟨Nat.not_lt.mpr long, flips found long⟩⟩

/-- A change behind the header keeps the carried public value. -/
theorem CarriesPublicValue.complement {packetLength blobLength start width : Nat}
    {paddingLength : UInt8}
    (carried : CarriesPublicValue packet packetLength paddingLength blobLength)
    (behind : 10 ≤ start) :
    CarriesPublicValue (Codec.complement packet start width) packetLength paddingLength
      blobLength where
  packetLengthField := by
    rw [slice_complement packet (by omega)]
    exact carried.packetLengthField
  paddingLengthField := by
    rw [byteAt_complement packet (by omega)]
    exact carried.paddingLengthField
  messageNumberField := by
    rw [byteAt_complement packet (by omega)]
    exact carried.messageNumberField
  blobLengthField := by
    rw [slice_complement packet behind]
    exact carried.blobLengthField
  insidePayload := carried.insidePayload
  insidePacket := by
    rw [length_complement]
    exact carried.insidePacket

/-- A forged packet differs from the packet exactly in the first 1158 bytes of its public value. At
least 32 bytes of the value follow them before the padding. The forged packet carries its value at
the same place, and forging it again restores the packet. -/
theorem forgeSshPqComponent_frame (returned : forgeSshPqComponent packet = .ok forged) :
    ∃ packetLength paddingLength blobLength,
      CarriesPublicValue packet packetLength paddingLength blobLength ∧
      10 + 1158 + 32 ≤ 10 + blobLength ∧ forged.length = packet.length ∧
      (∀ index, 10 ≤ index ∧ index < 10 + 1158 →
        forged[index]? = packet[index]?.map (· ^^^ 0xFF)) ∧
      (∀ index, forged[index]? = packet[index]? ↔ ¬(10 ≤ index ∧ index < 10 + 1158)) ∧
      CarriesPublicValue forged packetLength paddingLength blobLength ∧
      findKexEcdhInit packet = .ok (some (10, blobLength)) ∧
      findKexEcdhInit forged = findKexEcdhInit packet ∧ forgeSshPqComponent forged = .ok packet := by
  obtain ⟨blobLength, found, long, rfl⟩ := forgeSshPqComponent_eq_ok.mp returned
  obtain ⟨_, packetLength, paddingLength, carried⟩ := findKexEcdhInit_eq_ok.mp found
  have kept : CarriesPublicValue (complement packet 10 1158) packetLength paddingLength blobLength :=
    carried.complement (Nat.le_refl 10)
  have refound := findKexEcdhInit_eq_ok.mpr ⟨rfl, packetLength, paddingLength, kept⟩
  have payload := carried.insidePayload
  have inside := carried.insidePacket
  refine ⟨packetLength, paddingLength, blobLength, carried, by omega, length_complement _ _ _, ?_, ?_,
    kept, found, refound.trans found.symm, ?_⟩
  · intro index within
    rw [getElem?_complement]
    apply congrArg fun flip => packet[index]?.map flip
    funext byte
    exact complementAt_inside within
  · intro index
    exact getElem?_complement_eq_self (by omega)
  · apply forgeSshPqComponent_eq_ok.mpr
    exact ⟨blobLength, refound, long, (complement_complement _ _ _).symm⟩

end Forge

/-- This packet has a public value of 1190 bytes and four bytes of padding. -/
def ecdhInitPacket : Bytes :=
  bigEndian 4 1200 ++ [4, sshMsgKexEcdhInit] ++ bigEndian 4 1190 ++ List.replicate 1194 0

theorem carriesPublicValue_ecdhInitPacket : CarriesPublicValue ecdhInitPacket 1200 4 1190 :=
  ⟨by decide +kernel, by decide +kernel, by decide +kernel, by decide +kernel, by decide,
    by decide +kernel⟩

/-- The public value of the packet is forged. -/
theorem forgeSshPqComponent_ecdhInitPacket :
    forgeSshPqComponent ecdhInitPacket = .ok (complement ecdhInitPacket 10 1158) := by
  have found := findKexEcdhInit_eq_ok.mpr ⟨rfl, _, _, carriesPublicValue_ecdhInitPacket⟩
  exact forgeSshPqComponent_eq_ok.mpr ⟨_, found, Nat.le_refl _, rfl⟩

theorem forgeSshPqComponent_frame_sample : ∃ forged,
    forgeSshPqComponent ecdhInitPacket = .ok forged ∧ forged.length = 1204 ∧
      forgeSshPqComponent forged = .ok ecdhInitPacket := by
  have width : ecdhInitPacket.length = 1204 := by decide +kernel
  obtain ⟨_, _, _, _, _, kept, _, _, _, _, _, restored⟩ :=
    forgeSshPqComponent_frame forgeSshPqComponent_ecdhInitPacket
  exact ⟨_, forgeSshPqComponent_ecdhInitPacket, kept.trans width, restored⟩

end FaultInject.SshKexinit
