import FaultInject.Codec.Tlv

/-
This file states a sequence of complete TLS records.
-/

namespace FaultInject.Protocol
open Python Codec

inductive ContentType where
  | changeCipherSpec
  | handshake
  | applicationData
  deriving DecidableEq, Repr

def ContentType.code : ContentType → UInt8
  | changeCipherSpec => 0x14
  | handshake => 0x16
  | applicationData => 0x17

/-- A record has an arbitrary body. A handshake record has one of two legacy versions. -/
structure TlsRecord where
  contentType : ContentType
  version : Bytes
  body : Bytes
  versionWidth : version.length = 2
  legacyVersion : contentType = .handshake → version = [0x03, 0x01] ∨ version = [0x03, 0x03]
  bodyFits : body.length < 65536

namespace TlsRecord

/-- The header in front of the length field has the content type and the version. -/
def header (record : TlsRecord) : Bytes := record.contentType.code :: record.version

def encode (record : TlsRecord) : Bytes := record.header ++ vector 2 record.body

@[simp] theorem length_header (record : TlsRecord) : record.header.length = 3 := by
  rw [header, List.length_cons, record.versionWidth]

theorem length_encode_pos (record : TlsRecord) : 0 < record.encode.length := by
  rw [encode, List.length_append, length_header]
  omega

end TlsRecord

/-- The records follow each other without gaps. -/
def encodeRecords (records : List TlsRecord) : Bytes := records.flatMap TlsRecord.encode

@[simp] theorem encodeRecords_nil : encodeRecords [] = [] := rfl

@[simp] theorem encodeRecords_cons (record : TlsRecord) (records : List TlsRecord) :
    encodeRecords (record :: records) = record.encode ++ encodeRecords records := rfl

/-- These are the positions of the handshake records. The first record stands at the cursor. -/
def handshakeStarts : Nat → List TlsRecord → List Nat
  | _, [] => []
  | cursor, record :: records =>
      (if record.contentType = .handshake then [cursor] else []) ++
        handshakeStarts (cursor + record.encode.length) records

/-- No handshake record starts in front of the cursor. -/
theorem le_of_mem_handshakeStarts {cursor position : Nat} {records : List TlsRecord}
    (member : position ∈ handshakeStarts cursor records) : cursor ≤ position := by
  induction records generalizing cursor with
  | nil => cases member
  | cons record records ih =>
      rcases List.mem_append.mp member with here | behind
      · split at here
        · exact Nat.le_of_eq (List.mem_singleton.mp here).symm
        · cases here
      · have later := ih behind
        omega

/-- The handshake records start in order. -/
theorem pairwise_handshakeStarts (cursor : Nat) (records : List TlsRecord) :
    (handshakeStarts cursor records).Pairwise (· < ·) := by
  induction records generalizing cursor with
  | nil => exact List.Pairwise.nil
  | cons record records ih =>
      have visible := record.length_encode_pos
      rw [handshakeStarts]
      split
      · apply List.Pairwise.cons _ (ih _)
        intro position member
        have later := le_of_mem_handshakeStarts member
        omega
      · exact ih _

end FaultInject.Protocol
