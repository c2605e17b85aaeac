import FaultInject.Codec.Numbers

/-
This file states the wire format of a ServerHello record. A HelloRetryRequest
has the same format.
-/

namespace FaultInject.Protocol
open Python Codec

/-- A server framing is a record that starts with the fields of a ServerHello.
Bytes may follow the extension block in the record, and the record. -/
structure ServerFraming where
  header : Bytes
  messageLength : Bytes
  legacyVersion : Bytes
  random : Bytes
  sessionId : Bytes
  cipherSuite : Bytes
  block : Bytes
  afterBlock : Bytes
  afterRecord : Bytes
  headerWidth : header.length = 3
  messageLengthWidth : messageLength.length = 3
  versionWidth : legacyVersion.length = 2
  randomWidth : random.length = 32
  sessionIdFits : sessionId.length < 256
  cipherSuiteWidth : cipherSuite.length = 3
  recordFits : 44 + sessionId.length + block.length + afterBlock.length < 65536

namespace ServerFraming
variable (framing : ServerFraming)

/-- The fragment is the content of the record. -/
def fragment : Bytes :=
  0x02 :: (framing.messageLength ++ (framing.legacyVersion ++ (framing.random ++
    (vector 1 framing.sessionId ++ (framing.cipherSuite ++ (vector 2 framing.block ++
      framing.afterBlock))))))

def encode : Bytes := framing.header ++ (vector 2 framing.fragment ++ framing.afterRecord)

/-- This is the offset of the extension block. -/
def blockStart : Nat := 49 + framing.sessionId.length

/-- This is the offset of the first byte behind the record. -/
def recordEnd : Nat := 5 + framing.fragment.length

@[simp] theorem length_fragment : framing.fragment.length =
    44 + framing.sessionId.length + framing.block.length + framing.afterBlock.length := by
  simp only [fragment, List.length_cons, List.length_append, length_vector,
    framing.messageLengthWidth, framing.versionWidth, framing.randomWidth,
    framing.cipherSuiteWidth]
  omega

@[simp] theorem length_encode :
    framing.encode.length = framing.recordEnd + framing.afterRecord.length := by
  simp only [encode, recordEnd, List.length_append, length_vector, framing.headerWidth]
  omega

theorem block_end : framing.blockStart + framing.block.length ≤ framing.encode.length := by
  simp only [blockStart, length_encode, recordEnd, length_fragment]
  omega

/-- These bytes follow the record instead. -/
def withAfterRecord (rest : Bytes) : ServerFraming := { framing with afterRecord := rest }

end ServerFraming

/-- The key share of a retry request is a group. The key share of a ServerHello
is a group and a key exchange value. -/
inductive ServerExtension where
  | selectedGroup (group : Number 2)
  | serverShare (group : Number 2) (keyExchange : Bytes) (fits : 4 + keyExchange.length < 65536)
  | other (item : Item .u16) (notShares : item.tag ≠ 0x0033)

namespace ServerExtension

theorem keyShareTag_fits : 0x0033 < 256 ^ Layout.u16.tagWidth := by decide

theorem selectedGroup_fits (group : Number 2) :
    group.encode.length < 256 ^ Layout.u16.lengthWidth := by
  rw [Number.length_encode]
  decide

theorem serverShare_fits (group : Number 2) {keyExchange : Bytes}
    (fits : 4 + keyExchange.length < 65536) :
    (group.encode ++ vector 2 keyExchange).length < 256 ^ Layout.u16.lengthWidth := by
  rw [List.length_append, Number.length_encode, length_vector, ← Nat.add_assoc]
  exact fits

def toItem : ServerExtension → Item .u16
  | selectedGroup group => ⟨0x0033, group.encode, keyShareTag_fits, selectedGroup_fits group⟩
  | serverShare group keyExchange fits =>
      ⟨0x0033, group.encode ++ vector 2 keyExchange, keyShareTag_fits, serverShare_fits group fits⟩
  | other item _ => item

/-- This is the group of a key share. -/
def group : ServerExtension → Option Nat
  | selectedGroup group => some group.val
  | serverShare group _ _ => some group.val
  | other _ _ => none

/-- The extensions with a group are the key shares. -/
theorem group_eq_none {extension : ServerExtension} :
    extension.group = none ↔ extension.toItem.tag ≠ 0x0033 := by
  cases extension with
  | selectedGroup code => simp [group, toItem]
  | serverShare code keyExchange fits => simp [group, toItem]
  | other item notShares => simp [group, toItem, notShares]

end ServerExtension

def encodeServerExtensions (extensions : List ServerExtension) : Bytes :=
  encodeAll (extensions.map ServerExtension.toItem)

/-- A ServerHello is the only message of its record and has distinct extensions. -/
structure ServerHello where
  recordVersion : Bytes
  legacyVersion : Bytes
  random : Bytes
  sessionIdEcho : Bytes
  cipherSuite : Bytes
  compressionMethod : UInt8
  extensions : List ServerExtension
  recordVersionWidth : recordVersion.length = 2
  legacyVersionWidth : legacyVersion.length = 2
  randomWidth : random.length = 32
  sessionIdFits : sessionIdEcho.length < 256
  cipherSuiteWidth : cipherSuite.length = 2
  recordFits : 44 + sessionIdEcho.length + (encodeServerExtensions extensions).length < 65536
  distinct : extensions.Pairwise fun first second => first.toItem.tag ≠ second.toItem.tag

namespace ServerHello
variable (hello : ServerHello)

/-- The body is the ServerHello without its handshake header. -/
def body : Bytes :=
  hello.legacyVersion ++ (hello.random ++ (vector 1 hello.sessionIdEcho ++
    (hello.cipherSuite ++ (hello.compressionMethod ::
      vector 2 (encodeServerExtensions hello.extensions)))))

/-- This is the record of the ServerHello. Every length field counts what follows it. -/
def encode : Bytes := 0x16 :: (hello.recordVersion ++ vector 2 (0x02 :: vector 3 hello.body))

/-- This is the group of the key share extension. -/
def group : Option Nat := hello.extensions.findSome? ServerExtension.group

/-- The record of a ServerHello forms a framing without gaps. -/
def framing : ServerFraming where
  header := 0x16 :: hello.recordVersion
  messageLength := bigEndian 3 hello.body.length
  legacyVersion := hello.legacyVersion
  random := hello.random
  sessionId := hello.sessionIdEcho
  cipherSuite := hello.cipherSuite ++ [hello.compressionMethod]
  block := encodeServerExtensions hello.extensions
  afterBlock := []
  afterRecord := []
  headerWidth := by rw [List.length_cons, hello.recordVersionWidth]
  messageLengthWidth := length_bigEndian _ _
  versionWidth := hello.legacyVersionWidth
  randomWidth := hello.randomWidth
  sessionIdFits := hello.sessionIdFits
  cipherSuiteWidth := by
    rw [List.length_append, hello.cipherSuiteWidth, List.length_singleton]
  recordFits := hello.recordFits

theorem encode_framing : hello.framing.encode = hello.encode := by
  simp [ServerFraming.encode, ServerFraming.fragment, framing, encode, body, vector]

end ServerHello

end FaultInject.Protocol
