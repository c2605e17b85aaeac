import FaultInject.Proof.KexinitTail

/-
This file compares the stripped packets with the alignment rule of SSH binary packets.
-/

namespace FaultInject.SshKexinit
open Python Codec Protocol

/-- The data is one packet of whole blocks of eight bytes with at least four bytes of padding. The
padding length is a byte, so it is at most 255. -/
structure ValidBinaryPacket (data : Bytes) : Prop where
  whole : 4 + fromBytes (slice data 0 4) = data.length
  aligned : 8 ∣ data.length
  padded : ∃ paddingLength, byteAt data 4 = .ok paddingLength ∧ 4 ≤ paddingLength.toNat ∧
    1 + paddingLength.toNat ≤ fromBytes (slice data 0 4)

/-- These are the bytes that the name list loses with the algorithm. Every occurrence takes one
comma with it, unless no other name stays. -/
def removedLength (names : List String) (algorithm : String) : Nat :=
  names.count algorithm * (algorithm.toList.length + 1) -
    if names.all (fun name => name == algorithm) then 1 else 0

section Length

/-- Every name is counted with one comma. -/
def separatedLength : List String → Nat
  | [] => 0
  | name :: names => name.toList.length + 1 + separatedLength names

/-- The joined text has one comma less than it has names. -/
theorem length_join_add_one {names : List String} (nonempty : names ≠ []) :
    (join ',' names).toList.length + 1 = separatedLength names := by
  simp only [join, String.toList_ofList]
  induction names with
  | nil => exact absurd rfl nonempty
  | cons name names ih =>
      rw [separatedLength, List.map_cons]
      cases names with
      | nil =>
          rw [List.map_nil, List.intercalate_singleton]
          rfl
      | cons next names =>
          have others := ih (List.cons_ne_nil next names)
          rw [List.intercalate_cons_of_ne_nil (by simp), List.length_append, List.length_append,
            List.length_singleton, ← others]
          omega

/-- Every removed name takes its own length and one comma. -/
theorem separatedLength_filter (names : List String) (algorithm : String) :
    separatedLength names = separatedLength (names.filter fun name => name != algorithm) +
      names.count algorithm * (algorithm.toList.length + 1) := by
  induction names with
  | nil => simp [separatedLength]
  | cons name names ih =>
      by_cases same : name = algorithm
      · subst same
        rw [separatedLength, ih, List.filter_cons_of_neg (by simp), List.count_cons_self,
          Nat.succ_mul]
        omega
      · rw [separatedLength, ih, List.filter_cons_of_pos (by simpa using same), separatedLength,
          List.count_cons_of_ne same]
        omega

/-- The text without a listed algorithm is shorter by the removed length. -/
theorem length_join_filter {names : List String} {algorithm : String}
    (listed : algorithm ∈ names) :
    (join ',' (names.filter fun name => name != algorithm)).toList.length +
      removedLength names algorithm = (join ',' names).toList.length := by
  have before := length_join_add_one (List.ne_nil_of_mem listed)
  have total := separatedLength_filter names algorithm
  have counted := List.count_pos_iff.mpr listed
  have positive := Nat.mul_le_mul counted (Nat.le_add_left 1 algorithm.toList.length)
  rw [removedLength]
  by_cases alone : names.all (fun name => name == algorithm)
  · have none : names.filter (fun name => name != algorithm) = [] := by
      rw [List.filter_eq_nil_iff]
      intro name member
      simpa using List.all_eq_true.mp alone name member
    have empty : (join ',' []).toList.length = 0 := rfl
    rw [none, separatedLength] at total
    rw [none, if_pos alone]
    omega
  · have some : names.filter (fun name => name != algorithm) ≠ [] := by
      intro none
      rw [List.filter_eq_nil_iff] at none
      apply alone
      apply List.all_eq_true.mpr
      intro name member
      simpa using none name member
    have after := length_join_add_one some
    rw [if_neg alone]
    omega

end Length

section Alignment
variable {packet : Bytes} {start stop payloadEnd packetEnd : Nat}

/-- The padding length of a located packet separates the ends of its payload and of the packet. -/
theorem kexinitAlgorithmBounds_padding
    (located : kexinitAlgorithmBounds packet = .ok (some (start, stop, payloadEnd, packetEnd))) :
    ∃ paddingLength, byteAt packet 4 = .ok paddingLength ∧
      payloadEnd + paddingLength.toNat = packetEnd ∧
      packetEnd = 4 + fromBytes (slice packet 0 4) := by
  simp only [kexinitAlgorithmBounds, early_none_eq_ok, bind_eq_ok, Except.ok.injEq,
    Option.some.injEq, Prod.mk.injEq, Nat.not_lt] at located
  obtain ⟨_, paddingLength, read, inside, _, _, _, ordered, rfl, rfl, rfl, rfl⟩ := located
  exact ⟨paddingLength, read, by omega, rfl⟩

/-- A returned name list has bounds. -/
theorem exists_bounds_of_kexinitAlgorithms {names : List String}
    (read : kexinitAlgorithms packet = .ok names) :
    ∃ start stop payloadEnd packetEnd,
      kexinitAlgorithmBounds packet = .ok (some (start, stop, payloadEnd, packetEnd)) := by
  obtain ⟨bounds, located, _⟩ := bind_eq_ok.mp read
  cases bounds with
  | none =>
      rw [kexinitAlgorithms, located] at read
      cases read
  | some bounds => exact ⟨_, _, _, _, located⟩

/-- A packet is valid exactly when its parts fill whole blocks and the padding is long enough. -/
theorem validBinaryPacket_sshPacket {payload padding : Bytes} (small : padding.length < 256)
    (fits : 1 + payload.length + padding.length < 2 ^ 32) :
    ValidBinaryPacket (sshPacket payload padding) ↔
      8 ∣ 5 + payload.length + padding.length ∧ 4 ≤ padding.length := by
  have width := length_sshPacket payload padding
  have whole : BytesAt (sshPacket payload padding) 0
      (bigEndian 4 (1 + payload.length + padding.length) ++
        ([UInt8.ofNat padding.length] ++ (payload ++ padding))) := List.prefix_refl _
  obtain ⟨lengthAt, behind⟩ := bytesAt_append.mp whole
  obtain ⟨paddingLengthAt, _⟩ := bytesAt_append.mp behind
  generalize sshPacket payload padding = packet at lengthAt paddingLengthAt width ⊢
  have lengthField : fromBytes (slice packet 0 4) = 1 + payload.length + padding.length := by
    rw [lengthAt.slice_eq (by rw [length_bigEndian]), fromBytes_bigEndian 4 _ fits]
  have paddingField : byteAt packet 4 = .ok (UInt8.ofNat padding.length) :=
    byteAt_eq_ok.mpr (paddingLengthAt.move (by rw [length_bigEndian]))
  have paddingByte : (UInt8.ofNat padding.length).toNat = padding.length :=
    UInt8.toNat_ofNat_of_lt' small
  constructor
  · intro valid
    obtain ⟨paddingLength, read, enough, _⟩ := valid.padded
    rw [paddingField] at read
    cases read
    rw [paddingByte] at enough
    exact ⟨width ▸ valid.aligned, enough⟩
  · intro ⟨aligned, enough⟩
    refine ⟨by omega, width ▸ aligned, _, paddingField, ?_, ?_⟩
    · rw [paddingByte]
      exact enough
    · omega

/-- The stripper writes a shorter name list and copies all other fields, the padding included. -/
theorem stripKexinitAlgorithm_of_mem {names : List String} {algorithm : String}
    (located : kexinitAlgorithmBounds packet = .ok (some (start, stop, payloadEnd, packetEnd)))
    (read : kexinitAlgorithms packet = .ok names) (listed : algorithm ∈ names) :
    ∃ payload, stripKexinitAlgorithm packet algorithm =
        .ok (sshPacket payload (slice packet payloadEnd packetEnd)) ∧
      payload.length + removedLength names algorithm + 5 = payloadEnd := by
  obtain ⟨rfl, _, payload, padding, inside, small⟩ := kexinitAlgorithmBounds_inside located
  obtain ⟨paddingLength, _, ends, _⟩ := kexinitAlgorithmBounds_padding located
  have paddingSmall := paddingLength.toNat_lt
  obtain ⟨ascii, width⟩ := kexinitAlgorithms_eq_ok located read
  have retained : IsAscii (join ',' (names.filter fun name => name != algorithm)) :=
    isAscii_join (by decide) fun name member => ascii name (List.mem_of_mem_filter member)
  have differs := asciiBytes_retained_ne located read listed
  let replacement := asciiBytes (join ',' (names.filter fun name => name != algorithm))
  have shorter := length_join_filter listed
  rw [length_slice_of_le (by omega)] at width
  rw [stripKexinitAlgorithm, located, ok_bind]
  dsimp only
  rw [read, ok_bind, encodeAscii_of_isAscii retained, ok_bind, if_neg differs,
    toBytes_of_lt (by rw [length_asciiBytes]; omega), ok_bind, toBytes_of_lt (by
      simp only [List.length_append, length_bigEndian, length_asciiBytes]
      rw [length_slice_of_le (by omega), length_slice_of_le (by omega),
        length_slice_of_le (by omega)]
      omega), ok_bind, singleByte, if_pos (by rw [length_slice_of_le (by omega)]; omega), ok_bind]
  refine ⟨slice packet 5 22 ++ bigEndian 4 replacement.length ++ replacement ++
    slice packet stop payloadEnd, congrArg Except.ok ?_, ?_⟩
  · rw [sshPacket]
    simp only [List.append_assoc, replacement]
  · simp only [List.length_append, length_bigEndian, replacement, length_asciiBytes]
    rw [length_slice_of_le (by omega), length_slice_of_le (by omega)]
    omega

/-- The stripped packet of a valid packet is valid exactly when the removed bytes fill whole
blocks. -/
theorem stripKexinitAlgorithm_valid_iff {names : List String} {algorithm : String}
    (valid : ValidBinaryPacket packet) (read : kexinitAlgorithms packet = .ok names)
    (listed : algorithm ∈ names) :
    ∃ stripped, stripKexinitAlgorithm packet algorithm = .ok stripped ∧
      (ValidBinaryPacket stripped ↔ 8 ∣ removedLength names algorithm) := by
  obtain ⟨start, stop, payloadEnd, packetEnd, located⟩ := exists_bounds_of_kexinitAlgorithms read
  obtain ⟨_, _, _, ordered, inside, small⟩ := kexinitAlgorithmBounds_inside located
  obtain ⟨paddingLength, paddingAt, ends, whole⟩ := kexinitAlgorithmBounds_padding located
  obtain ⟨_, again, enough, _⟩ := valid.padded
  rw [paddingAt] at again
  cases again
  have paddingSmall := paddingLength.toNat_lt
  obtain ⟨payload, returned, width⟩ := stripKexinitAlgorithm_of_mem located read listed
  have paddingWidth : (slice packet payloadEnd packetEnd).length = packetEnd - payloadEnd :=
    length_slice_of_le inside
  have aligned : 8 ∣ packetEnd := whole ▸ valid.whole ▸ valid.aligned
  refine ⟨_, returned, ?_⟩
  rw [validBinaryPacket_sshPacket (by omega) (by omega), paddingWidth]
  omega

end Alignment

/-- This packet lists two methods, has no other name and ends with this padding. -/
def twoMethods (names : String) (padding : Nat) : Bytes :=
  sshPacket (kexInitPayload (List.replicate 16 0) (asciiBytes names) (List.replicate 41 0))
    (List.replicate padding 0)

/-- The removal of the hybrid method takes 35 bytes and leaves a part of a block. -/
theorem stripKexinitAlgorithm_misaligned :
    ValidBinaryPacket (twoMethods "sntrup761x25519-sha512@openssh.com,curve25519-sha256" 9) ∧
      kexinitAlgorithms (twoMethods "sntrup761x25519-sha512@openssh.com,curve25519-sha256" 9) =
        .ok ["sntrup761x25519-sha512@openssh.com", "curve25519-sha256"] ∧
      ∃ stripped, stripKexinitAlgorithm
          (twoMethods "sntrup761x25519-sha512@openssh.com,curve25519-sha256" 9)
          "sntrup761x25519-sha512@openssh.com" = .ok stripped ∧
        stripped.length = 93 ∧ ¬ValidBinaryPacket stripped := by
  have valid : ValidBinaryPacket
      (twoMethods "sntrup761x25519-sha512@openssh.com,curve25519-sha256" 9) :=
    ⟨by decide +kernel, by decide +kernel, 9, by decide +kernel, by decide, by decide +kernel⟩
  have length : (stripKexinitAlgorithm
      (twoMethods "sntrup761x25519-sha512@openssh.com,curve25519-sha256" 9)
      "sntrup761x25519-sha512@openssh.com").map List.length = .ok 93 := by decide +kernel
  obtain ⟨stripped, returned, width⟩ := map_eq_ok.mp length
  refine ⟨valid, by decide +kernel, stripped, returned, width, ?_⟩
  intro still
  have aligned := still.aligned
  rw [width] at aligned
  omega

/-- The removal of a method of 23 bytes takes three whole blocks. -/
theorem stripKexinitAlgorithm_valid_iff_sample : ∃ stripped,
    stripKexinitAlgorithm (twoMethods "mlkem768nistp256-sha256,curve25519-sha256" 4)
        "mlkem768nistp256-sha256" = .ok stripped ∧
      (ValidBinaryPacket stripped ↔
        8 ∣ removedLength ["mlkem768nistp256-sha256", "curve25519-sha256"]
          "mlkem768nistp256-sha256") :=
  stripKexinitAlgorithm_valid_iff
    ⟨by decide +kernel, by decide +kernel, 4, by decide +kernel, by decide, by decide +kernel⟩
    (by decide +kernel) (by decide)

end FaultInject.SshKexinit
