import FaultInject.Proof.Strip

namespace FaultInject.TlsClientHello
open Python Codec Protocol

/-- The record starts with a ClientHello. Its extension block holds these extensions between the
two offsets, and its length field has this value. -/
structure HelloAt (record : Bytes) (extensions : List Extension) (start stop recordLength : Nat) :
    Prop where
  header : clientHelloExtensions record = .ok (start, stop)
  block : slice record start stop = encodeExtensions extensions
  length : readU16 record 3 = .ok recordLength

/-- The bytes behind the extension block follow the rewritten block. The record covers as many of
them as before and is shorter by what the removal drops. -/
def KeepsTail (record result : Bytes) (extensions : List Extension) (group start stop recordLength : Nat) :
    Prop :=
  ∃ newStop newLength,
    HelloAt result (extensions.map (Extension.without group)) start newStop newLength ∧
      result.drop newStop = record.drop stop ∧
      5 + newLength - newStop = 5 + recordLength - stop ∧
      result.length + removedBytes group extensions = record.length

/-- A framing holds its extensions at its block offset. -/
theorem helloAt_encode (framing : Framing) {extensions : List Extension}
    (block : framing.block = encodeExtensions extensions) :
    HelloAt framing.encode extensions framing.blockStart
      (framing.blockStart + framing.block.length) framing.fragment.length where
  header := clientHelloExtensions_encode framing
  block := (framing.block_at.slice_eq rfl).trans block
  length := readU16_of_bytesAt (by
    have fits := framing.recordFits
    simp only [Framing.length_fragment, Framing.length_body]
    omega) framing.length_at

/-- A record that starts with a ClientHello is a framing of its extensions. -/
theorem HelloAt.framing {record : Bytes} {extensions : List Extension}
    {start stop recordLength : Nat} (hello : HelloAt record extensions start stop recordLength) :
    ∃ framing : Framing, framing.encode = record ∧ framing.block = encodeExtensions extensions ∧
      start = framing.blockStart ∧ stop = framing.blockStart + framing.block.length ∧
      5 + recordLength = framing.recordEnd := by
  obtain ⟨header, block, length⟩ := hello
  obtain ⟨framing, rfl, rfl, rfl⟩ := clientHelloExtensions_eq_ok.mp header
  rw [framing.block_at.slice_eq rfl] at block
  have same := (helloAt_encode framing block).length.symm.trans length
  cases same
  exact ⟨framing, rfl, block, rfl, rfl, rfl⟩

/-- The block ends inside the record. -/
theorem blockEnd_le_recordEnd (framing : Framing) :
    framing.blockStart + framing.block.length ≤ framing.recordEnd := by
  simp only [Framing.blockStart, Framing.recordEnd, Framing.length_fragment, Framing.length_body]
  omega

/-- Every accepted record starts with a ClientHello of typed extensions. -/
theorem stripHybrid_helloAt {record result : Bytes} {group : Nat}
    (returned : stripHybrid record group = .ok result) :
    ∃ extensions start stop recordLength, HelloAt record extensions start stop recordLength := by
  obtain ⟨framing, extensions, rfl, block⟩ := stripHybrid_accepts returned
  exact ⟨extensions, _, _, _, helloAt_encode framing block⟩

/-- The rewritten framing keeps the tail exactly when its record ends with the block. -/
theorem replaceBlock_keepsTail_iff (framing : Framing) {extensions : List Extension} {group : Nat}
    (block : framing.block = encodeExtensions extensions)
    (shorter : (encodeExtensions (extensions.map (Extension.without group))).length ≤
      framing.block.length) :
    KeepsTail framing.encode (framing.replaceBlock _ shorter).encode extensions group
        framing.blockStart (framing.blockStart + framing.block.length) framing.fragment.length ↔
      framing.blockStart + framing.block.length = framing.recordEnd := by
  let rewritten := framing.replaceBlock _ shorter
  have inside := blockEnd_le_recordEnd framing
  have rewrittenAt : HelloAt rewritten.encode (extensions.map (Extension.without group))
      rewritten.blockStart (rewritten.blockStart + rewritten.block.length)
      rewritten.fragment.length := helloAt_encode rewritten rfl
  have rewrittenEnd : rewritten.blockStart + rewritten.block.length = rewritten.recordEnd := by
    simp only [rewritten, Framing.blockStart, Framing.recordEnd, Framing.length_fragment,
      Framing.length_body, Framing.replaceBlock, List.length_nil]
    omega
  constructor
  · rintro ⟨newStop, newLength, result, _, covered, _⟩
    have ends := rewrittenAt.header.symm.trans result.header
    have lengths := rewrittenAt.length.symm.trans result.length
    cases lengths
    simp only [Except.ok.injEq, Prod.mk.injEq] at ends
    have width : rewritten.recordEnd = 5 + rewritten.fragment.length := rfl
    have total : framing.recordEnd = 5 + framing.fragment.length := rfl
    omega
  · intro closed
    have removed := length_encodeExtensions_without group extensions
    have behind : framing.behindBlock = framing.afterRecord := by
      rw [← framing.drop_blockEnd, closed, framing.drop_recordEnd]
    refine ⟨_, _, rewrittenAt, ?_, ?_, ?_⟩
    · rw [framing.drop_blockEnd, behind, rewrittenEnd]
      exact rewritten.drop_recordEnd
    · have width : rewritten.recordEnd = 5 + rewritten.fragment.length := rfl
      have total : framing.recordEnd = 5 + framing.fragment.length := rfl
      omega
    · have start : rewritten.blockStart = framing.blockStart := rfl
      have trailing : rewritten.afterRecord = framing.afterRecord := rfl
      have total : rewritten.encode.length = _ := Framing.length_encode rewritten
      rw [trailing, ← rewrittenEnd, start] at total
      have width : rewritten.block.length + removedBytes group extensions =
          framing.block.length := by rw [block]; exact removed
      show rewritten.encode.length + _ = _
      rw [total, Framing.length_encode, ← closed]
      omega

/-- The stripper keeps the bytes behind the extension block exactly when the record ends with
that block. -/
theorem stripHybrid_keepsTail_iff {record result : Bytes} {extensions : List Extension}
    {group start stop recordLength : Nat} (returned : stripHybrid record group = .ok result)
    (hello : HelloAt record extensions start stop recordLength)
    (mentioned : extensions.any (Extension.mentions group) = true) :
    KeepsTail record result extensions group start stop recordLength ↔ stop = 5 + recordLength := by
  obtain ⟨framing, rfl, block, rfl, rfl, width⟩ := hello.framing
  rw [stripHybrid_framing framing group block, if_pos mentioned] at returned
  cases returned
  have same : recordLength = framing.fragment.length := Nat.add_left_cancel width
  rw [width, same]
  exact replaceBlock_keepsTail_iff framing block _

/-- This extension lists the groups 0x11EC and 0x001D. -/
def sampleGroups : List Extension := [.supportedGroups [0x11EC, 0x001D] (by decide)]

/-- This record ends with its extension block, and one byte follows it. -/
def closedHello : Framing := sampleFraming (encodeExtensions sampleGroups) [] [0x14] (by decide)

/-- A second handshake message follows the ClientHello in this record. -/
def coalescedHello : Framing :=
  sampleFraming (encodeExtensions sampleGroups) [0x00, 0x00, 0x00, 0x00] [] (by decide)

theorem stripHybrid_keepsTail_iff_sample : ∃ result,
    stripHybrid closedHello.encode 0x11EC = .ok result ∧
      KeepsTail closedHello.encode result sampleGroups 0x11EC 52 62 57 := by
  have returned := @stripHybrid_framing closedHello 0x11EC sampleGroups rfl
  have hello : HelloAt closedHello.encode sampleGroups 52 62 57 := helloAt_encode closedHello rfl
  exact ⟨_, returned, (stripHybrid_keepsTail_iff returned hello (by decide)).mpr rfl⟩

/-- A second handshake message in the record is lost. -/
theorem stripHybrid_loses_tail : ¬∀ (record result : Bytes) (extensions : List Extension)
    (group start stop recordLength : Nat), stripHybrid record group = .ok result →
      HelloAt record extensions start stop recordLength →
        extensions.any (Extension.mentions group) = true →
          KeepsTail record result extensions group start stop recordLength := by
  intro always
  have mentioned : sampleGroups.any (Extension.mentions 0x11EC) = true := by decide
  have returned := @stripHybrid_framing coalescedHello 0x11EC sampleGroups rfl
  rw [if_pos mentioned] at returned
  have kept := always _ _ _ _ _ _ _ returned (helloAt_encode coalescedHello rfl) mentioned
  have closed := (replaceBlock_keepsTail_iff coalescedHello rfl _).mp kept
  exact absurd closed (by decide)

end FaultInject.TlsClientHello
