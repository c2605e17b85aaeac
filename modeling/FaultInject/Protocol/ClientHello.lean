import FaultInject.Codec.Tlv

/-
This file states the wire format of a ClientHello record.
-/

namespace FaultInject.Protocol
open Python Codec

/-- The preamble holds the fields of a ClientHello before its extensions. -/
structure Preamble where
  legacyVersion : Bytes
  random : Bytes
  sessionId : Bytes
  cipherSuites : Bytes
  compressionMethods : Bytes
  versionWidth : legacyVersion.length = 2
  randomWidth : random.length = 32
  sessionIdFits : sessionId.length < 256
  cipherSuitesFit : cipherSuites.length < 65536
  compressionFits : compressionMethods.length < 256

def Preamble.encode (preamble : Preamble) : Bytes :=
  preamble.legacyVersion ++ (preamble.random ++ (vector 1 preamble.sessionId ++
    (vector 2 preamble.cipherSuites ++ vector 1 preamble.compressionMethods)))

@[simp] theorem Preamble.length_encode (preamble : Preamble) :
    preamble.encode.length = 38 + preamble.sessionId.length + preamble.cipherSuites.length +
      preamble.compressionMethods.length := by
  simp only [encode, List.length_append, length_vector, preamble.versionWidth,
    preamble.randomWidth]
  omega

/-- A framing is a record that starts with a ClientHello. Bytes may follow the
extension block in the message, the message in the record, and the record. -/
structure Framing where
  recordVersion : Bytes
  preamble : Preamble
  block : Bytes
  afterBlock : Bytes
  afterMessage : Bytes
  afterRecord : Bytes
  versionWidth : recordVersion.length = 2
  blockFits : block.length < 65536
  recordFits : 6 + preamble.encode.length + block.length + afterBlock.length +
    afterMessage.length < 65536

namespace Framing
variable (framing : Framing)

/-- The body is the ClientHello without its handshake header. -/
def body : Bytes := framing.preamble.encode ++ (vector 2 framing.block ++ framing.afterBlock)

/-- The fragment is the content of the record. -/
def fragment : Bytes := 0x01 :: (vector 3 framing.body ++ framing.afterMessage)

def encode : Bytes :=
  0x16 :: (framing.recordVersion ++ (vector 2 framing.fragment ++ framing.afterRecord))

/-- This is the offset of the extension block. -/
def blockStart : Nat := 11 + framing.preamble.encode.length

/-- This is the offset of the first byte behind the record. -/
def recordEnd : Nat := 5 + framing.fragment.length

@[simp] theorem length_body : framing.body.length =
    framing.preamble.encode.length + 2 + framing.block.length + framing.afterBlock.length := by
  simp only [body, List.length_append, length_vector]
  omega

@[simp] theorem length_fragment : framing.fragment.length =
    4 + framing.body.length + framing.afterMessage.length := by
  simp only [fragment, List.length_cons, List.length_append, length_vector]
  omega

@[simp] theorem length_encode :
    framing.encode.length = framing.recordEnd + framing.afterRecord.length := by
  simp only [encode, recordEnd, List.length_cons, List.length_append, length_vector,
    framing.versionWidth]
  omega

/-- These bytes stand in front of the extension block. -/
def beforeBlock : Bytes :=
  0x16 :: (framing.recordVersion ++ (bigEndian 2 framing.fragment.length ++
    (0x01 :: (bigEndian 3 framing.body.length ++
      (framing.preamble.encode ++ bigEndian 2 framing.block.length)))))

/-- These bytes stand behind the extension block. -/
def behindBlock : Bytes := framing.afterBlock ++ (framing.afterMessage ++ framing.afterRecord)

theorem length_beforeBlock : framing.beforeBlock.length = framing.blockStart := by
  simp only [beforeBlock, blockStart, List.length_cons, List.length_append, length_bigEndian,
    framing.versionWidth]
  omega

theorem encode_block : framing.encode =
    framing.beforeBlock ++ (framing.block ++ framing.behindBlock) := by
  simp [encode, fragment, body, vector, beforeBlock, behindBlock]

/-- The record carries its extension block at the block offset. -/
theorem block_at : BytesAt framing.encode framing.blockStart framing.block := by
  rw [encode_block, ← length_beforeBlock]
  exact bytesAt_of_append _ framing.block _

/-- The record carries its type and version at its start. -/
theorem version_at : BytesAt framing.encode 0 (0x16 :: framing.recordVersion) :=
  List.prefix_append (0x16 :: framing.recordVersion) _

/-- The record carries its length behind its version. -/
theorem length_at : BytesAt framing.encode 3 (bigEndian 2 framing.fragment.length) := by
  have whole : framing.encode = (0x16 :: framing.recordVersion) ++
      (bigEndian 2 framing.fragment.length ++ (framing.fragment ++ framing.afterRecord)) := by
    simp [encode, vector]
  rw [whole]
  convert bytesAt_of_append _ (bigEndian 2 framing.fragment.length) _ using 1
  simp [framing.versionWidth]

/-- The record carries the preamble behind its two headers. -/
theorem preamble_at : BytesAt framing.encode 9 framing.preamble.encode := by
  have whole : framing.encode = (0x16 :: (framing.recordVersion ++
      (bigEndian 2 framing.fragment.length ++ (0x01 :: bigEndian 3 framing.body.length)))) ++
      (framing.preamble.encode ++ (vector 2 framing.block ++ (framing.afterBlock ++
        (framing.afterMessage ++ framing.afterRecord)))) := by
    simp [encode, fragment, body, vector]
  rw [whole]
  convert bytesAt_of_append _ framing.preamble.encode _ using 1
  simp [framing.versionWidth]

/-- The bytes behind the record follow its last byte. -/
theorem drop_recordEnd : framing.encode.drop framing.recordEnd = framing.afterRecord := by
  have whole : framing.encode = (0x16 :: (framing.recordVersion ++
      vector 2 framing.fragment)) ++ framing.afterRecord := by
    simp [encode]
  rw [whole]
  apply List.drop_left'
  simp only [recordEnd, List.length_cons, List.length_append, length_vector, framing.versionWidth]
  omega

/-- The bytes behind the block follow its last byte. -/
theorem drop_blockEnd :
    framing.encode.drop (framing.blockStart + framing.block.length) = framing.behindBlock := by
  rw [encode_block, ← List.append_assoc, ← length_beforeBlock]
  exact List.drop_left' (List.length_append ..)

theorem block_end : framing.blockStart + framing.block.length ≤ framing.encode.length := by
  simp only [blockStart, length_encode, recordEnd, length_fragment, length_body]
  omega

/-- These bytes follow the record instead. -/
def withAfterRecord (rest : Bytes) : Framing := { framing with afterRecord := rest }

/-- This block of the same length stands in the record instead. -/
def withBlock (block : Bytes) (same : block.length = framing.block.length) : Framing :=
  { framing with
    block := block
    blockFits := by rw [same]; exact framing.blockFits
    recordFits := by rw [same]; exact framing.recordFits }

/-- Another block of the same length leaves every other byte of the record. -/
theorem encode_withBlock (block : Bytes) (same : block.length = framing.block.length) :
    (framing.withBlock block same).encode = framing.beforeBlock ++ (block ++ framing.behindBlock) := by
  have fragments : (framing.withBlock block same).fragment.length = framing.fragment.length := by
    simp only [length_fragment, length_body, withBlock, same]
  have bodies : (framing.withBlock block same).body.length = framing.body.length := by
    simp only [length_body, withBlock, same]
  rw [encode_block, beforeBlock, fragments, bodies]
  simp only [withBlock, behindBlock, beforeBlock, same]

/-- The replacement frames a shorter block and drops the bytes that follow it in the record. -/
def replaceBlock (block : Bytes) (shorter : block.length ≤ framing.block.length) : Framing :=
  { framing with
    block := block
    afterBlock := []
    afterMessage := []
    blockFits := Nat.lt_of_le_of_lt shorter framing.blockFits
    recordFits := by
      have fits := framing.recordFits
      simp only [List.length_nil]
      omega }

end Framing

/-- This preamble has one cipher suite and an empty session id. -/
def samplePreamble : Preamble where
  legacyVersion := [0x03, 0x03]
  random := List.replicate 32 0
  sessionId := []
  cipherSuites := [0x13, 0x01]
  compressionMethods := [0x00]
  versionWidth := rfl
  randomWidth := rfl
  sessionIdFits := by decide
  cipherSuitesFit := by decide
  compressionFits := by decide

/-- This record carries the block, and the given bytes follow the message and the record. -/
def sampleFraming (block afterMessage afterRecord : Bytes)
    (fits : 47 + block.length + 0 + afterMessage.length < 65536) : Framing where
  recordVersion := [0x03, 0x01]
  preamble := samplePreamble
  block := block
  afterBlock := []
  afterMessage := afterMessage
  afterRecord := afterRecord
  versionWidth := rfl
  blockFits := by omega
  recordFits := fits

end FaultInject.Protocol
