import FaultInject.Proof.SshKexinit

namespace FaultInject.SshKexinit
open Python Codec Protocol

section Chunk
variable {packet : Bytes} {start stop payloadEnd packetEnd : Nat}

/-- The bounds of a located packet do not depend on the bytes behind it. -/
theorem kexinitAlgorithmBounds_append
    (located : kexinitAlgorithmBounds packet = .ok (some (start, stop, payloadEnd, packetEnd)))
    (rest : Bytes) :
    kexinitAlgorithmBounds (packet ++ rest) = .ok (some (start, stop, payloadEnd, packetEnd)) := by
  simp only [kexinitAlgorithmBounds, early_none_eq_ok, bind_eq_ok, Nat.not_lt] at located ⊢
  obtain ⟨long, paddingLength, paddingAt, inside, messageNumber, messageAt, isKexinit, ordered,
    bounds⟩ := located
  rw [slice_append (by omega), slice_append (by omega), List.length_append]
  refine ⟨by omega, paddingLength, ?_, ?_, messageNumber, ?_, isKexinit, ordered, bounds⟩
  · exact byteAt_eq_ok.mpr ((byteAt_eq_ok.mp paddingAt).append rest)
  · omega
  · exact byteAt_eq_ok.mpr ((byteAt_eq_ok.mp messageAt).append rest)

/-- The names of a located packet do not depend on the bytes behind it. -/
theorem kexinitAlgorithms_append
    (located : kexinitAlgorithmBounds packet = .ok (some (start, stop, payloadEnd, packetEnd)))
    (rest : Bytes) : kexinitAlgorithms (packet ++ rest) = kexinitAlgorithms packet := by
  obtain ⟨_, _, payload, padding, inside, _⟩ := kexinitAlgorithmBounds_inside located
  rw [kexinitAlgorithms, kexinitAlgorithms, located, kexinitAlgorithmBounds_append located rest,
    ok_bind, ok_bind]
  dsimp only
  rw [slice_append (by omega)]

/-- The list without a listed name is never encoded as the original list. -/
theorem asciiBytes_retained_ne {algorithm : String} {names : List String}
    (located : kexinitAlgorithmBounds packet = .ok (some (start, stop, payloadEnd, packetEnd)))
    (read : kexinitAlgorithms packet = .ok names) (listed : algorithm ∈ names) :
    asciiBytes (join ',' (names.filter fun name => name != algorithm)) ≠ slice packet start stop := by
  intro same
  have ascii := (kexinitAlgorithms_eq_ok located read).1
  have retained : IsAscii (join ',' (names.filter fun name => name != algorithm)) :=
    isAscii_join (by decide) fun name member => ascii name (List.mem_of_mem_filter member)
  rw [kexinitAlgorithms, located, ok_bind] at read
  dsimp only at read
  split at read
  · rename_i visible
    rw [← same, decodeAscii_asciiBytes retained, ok_bind] at read
    have parts : split (join ',' (names.filter fun name => name != algorithm)) ',' = names :=
      Except.ok.inj read
    have free (name : String) (member : name ∈ names) : ',' ∉ name.toList := by
      rw [← parts] at member
      exact notMem_of_mem_split member
    by_cases none : names.filter (fun name => name != algorithm) = []
    · rw [none] at same
      exact visible same.symm
    · -- The text splits into the retained names, and the algorithm is not one of them.
      rw [split_join none fun name member => free name (List.mem_of_mem_filter member)] at parts
      rw [← parts] at listed
      simpa using (List.mem_filter.mp listed).2
  · cases read
    cases listed

/-- The stripper drops the bytes behind the packet when it removes a listed name. -/
theorem stripKexinitAlgorithm_append {algorithm : String} {names : List String} {stripped : Bytes}
    (located : kexinitAlgorithmBounds packet = .ok (some (start, stop, payloadEnd, packetEnd)))
    (read : kexinitAlgorithms packet = .ok names) (listed : algorithm ∈ names)
    (returned : stripKexinitAlgorithm packet algorithm = .ok stripped) (rest : Bytes) :
    stripKexinitAlgorithm (packet ++ rest) algorithm = .ok stripped := by
  obtain ⟨rfl, _, payload, padding, inside, _⟩ := kexinitAlgorithmBounds_inside located
  have ascii := (kexinitAlgorithms_eq_ok located read).1
  have retained : IsAscii (join ',' (names.filter fun name => name != algorithm)) :=
    isAscii_join (by decide) fun name member => ascii name (List.mem_of_mem_filter member)
  have differs := asciiBytes_retained_ne located read listed
  rw [stripKexinitAlgorithm, located, ok_bind] at returned
  rw [stripKexinitAlgorithm, kexinitAlgorithmBounds_append located rest, ok_bind]
  dsimp only at returned ⊢
  rw [read, ok_bind, encodeAscii_of_isAscii retained, ok_bind, if_neg differs] at returned
  rw [kexinitAlgorithms_append located rest, read, ok_bind, encodeAscii_of_isAscii retained, ok_bind,
    slice_append (by omega), if_neg differs, slice_append (by omega), slice_append (by omega),
    slice_append (by omega)]
  exact returned

/-- A chunk that starts with a packet keeps the bytes behind the packet exactly when there are
none. -/
theorem stripKexinitAlgorithm_append_iff {algorithm : String} {names : List String}
    {stripped : Bytes}
    (whole : kexinitAlgorithmBounds packet = .ok (some (start, stop, payloadEnd, packet.length)))
    (read : kexinitAlgorithms packet = .ok names) (listed : algorithm ∈ names)
    (returned : stripKexinitAlgorithm packet algorithm = .ok stripped) (rest : Bytes) :
    stripKexinitAlgorithm (packet ++ rest) algorithm = .ok (stripped ++ rest) ↔ rest = [] := by
  rw [stripKexinitAlgorithm_append whole read listed returned rest]
  constructor
  · intro same
    have lengths : stripped = stripped ++ rest := Except.ok.inj same
    exact List.self_eq_append_right.mp lengths
  · rintro rfl
    rw [List.append_nil]

end Chunk

/-- This packet lists the names `a` and `b` and nothing else. -/
def samplePacket : Bytes :=
  [0, 0, 0, 29, 4, 20] ++ List.replicate 16 0 ++ [0, 0, 0, 3, 0x61, 0x2c, 0x62, 0, 0, 0, 0]

/-- This is the packet without the name `a`. -/
def strippedPacket : Bytes :=
  [0, 0, 0, 27, 4, 20] ++ List.replicate 16 0 ++ [0, 0, 0, 1, 0x62, 0, 0, 0, 0]

theorem samplePacket_bounds :
    kexinitAlgorithmBounds samplePacket = .ok (some (26, 29, 29, samplePacket.length)) := rfl

theorem samplePacket_names : kexinitAlgorithms samplePacket = .ok ["a", "b"] := by rfl

theorem samplePacket_stripped : stripKexinitAlgorithm samplePacket "a" = .ok strippedPacket := by
  rfl

theorem stripKexinitAlgorithm_append_iff_sample :
    stripKexinitAlgorithm (samplePacket ++ []) "a" = .ok (strippedPacket ++ []) :=
  (stripKexinitAlgorithm_append_iff samplePacket_bounds samplePacket_names (by decide)
    samplePacket_stripped []).mpr rfl

/-- A chunk with one byte behind the packet loses that byte. -/
theorem stripKexinitAlgorithm_loses_tail : ¬∀ (packet rest stripped : Bytes) (algorithm : String)
    (names : List String) (start stop payloadEnd : Nat),
      kexinitAlgorithmBounds packet = .ok (some (start, stop, payloadEnd, packet.length)) →
        kexinitAlgorithms packet = .ok names → algorithm ∈ names →
          stripKexinitAlgorithm packet algorithm = .ok stripped →
            stripKexinitAlgorithm (packet ++ rest) algorithm = .ok (stripped ++ rest) := by
  intro always
  have kept := always samplePacket [30] strippedPacket "a" _ 26 29 29 samplePacket_bounds
    samplePacket_names (by decide) samplePacket_stripped
  have lost := stripKexinitAlgorithm_append samplePacket_bounds samplePacket_names (by decide)
    samplePacket_stripped [30]
  have same := Except.ok.inj (lost.symm.trans kept)
  exact absurd same (by decide)

end FaultInject.SshKexinit
