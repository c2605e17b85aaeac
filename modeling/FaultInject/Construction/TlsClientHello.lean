import FaultInject.Codec.Tlv
import FaultInject.Python.Text

namespace FaultInject.TlsClientHello
open Python Codec

def tlsHandshake : UInt8 := 0x16
def tlsClientHello : UInt8 := 0x01
def tlsSupportedGroups : Nat := 0x000A
def tlsKeyShare : Nat := 0x0033
def x25519Bytes : Nat := 32

/-- Each entry maps a group to the offset and the length of its PQ component. -/
def pqComponents : List (Nat × (Nat × Nat)) :=
  [(0x11EC, (0, 1184)), (0x6399, (x25519Bytes, 1184))]

def truncatedField : Error := .valueError "truncated TLS field"

def readU16 (data : Bytes) (offset : Nat) : Result Nat :=
  readField truncatedField data offset 2

/-- This is the loop header over the extension block. -/
def extensionWalker : Walker .u16 Error :=
  ⟨truncatedField, .valueError "truncated TLS extension"⟩

/-- This is the loop header over the key share entries. -/
def entryWalker : Walker .u16 Error :=
  ⟨truncatedField, .valueError "truncated KeyShareEntry"⟩

/-- The result holds the two ends of the extension block. -/
def clientHelloExtensions (record : Bytes) : Result (Nat × Nat) :=
  if record.length < 9 then .error (.valueError "not a TLS handshake record") else do
  let contentType ← byteAt record 0
  if contentType ≠ tlsHandshake then .error (.valueError "not a TLS handshake record") else do
  let recordLength ← readU16 record 3
  let recordEnd := 5 + recordLength
  if recordEnd > record.length then .error (.valueError "not a complete TLS ClientHello") else do
  let messageType ← byteAt record 5
  if messageType ≠ tlsClientHello then
    .error (.valueError "not a complete TLS ClientHello") else do
  let handshakeEnd := 9 + fromBytes (slice record 6 9)
  if handshakeEnd > recordEnd then .error (.valueError "truncated ClientHello") else do
  let cursor := 9 + 2 + 32
  if cursor ≥ handshakeEnd then .error (.valueError "truncated ClientHello random") else do
  let sessionIdLength ← byteAt record cursor
  let cursor := cursor + (1 + sessionIdLength.toNat)
  let cipherSuitesLength ← readU16 record cursor
  let cursor := cursor + (2 + cipherSuitesLength)
  if cursor ≥ handshakeEnd then
    .error (.valueError "truncated ClientHello compression methods") else do
  let compressionLength ← byteAt record cursor
  let cursor := cursor + (1 + compressionLength.toNat)
  let extensionsLength ← readU16 record cursor
  let cursor := cursor + 2
  let extensionsEnd := cursor + extensionsLength
  if extensionsEnd > handshakeEnd then
    .error (.valueError "truncated ClientHello extensions") else
  .ok (cursor, extensionsEnd)

/-- The body of the extension loop appends the group, the offset and the length of each entry. -/
def keyShareExtension (record : Bytes) (shares : List (Nat × Nat × Nat))
    (cursor extensionType extensionLength : Nat) : Result (List (Nat × Nat × Nat)) :=
  let extensionStart := cursor + 4
  let extensionEnd := extensionStart + extensionLength
  if extensionType = tlsKeyShare then do
    let vectorLength ← readU16 record extensionStart
    let keyShareEnd := extensionStart + 2 + vectorLength
    let entryCursor := extensionStart + 2
    if keyShareEnd ≠ extensionEnd then .error (.valueError "invalid key_share vector length")
    else
      entryWalker.walk record keyShareEnd
        (fun shares cursor groupId valueLength =>
          .ok (shares ++ [(groupId, cursor + 4, valueLength)]))
        entryCursor shares
  else .ok shares

def findKeyShare (record : Bytes) : Result (List (Nat × Nat × Nat)) := do
  let (cursor, extensionsEnd) ← clientHelloExtensions record
  extensionWalker.walk record extensionsEnd (keyShareExtension record) cursor []

/-- This is the `supported_groups` branch of the strip loop. -/
def stripSupportedGroups (hybridGroupId : Nat) (payload : Bytes) (changed : Bool) :
    Result (Bytes × Bool) :=
  if payload.length < 2 then .error (.valueError "truncated supported_groups vector") else do
  let groupsLength ← readU16 payload 0
  if groupsLength ≠ payload.length - 2 ∨ groupsLength % 2 ≠ 0 then
    .error (.valueError "invalid supported_groups vector length") else do
  let groups := (range 2 payload.length 2).map fun index => slice payload index (index + 2)
  let retainedGroups := groups.filter fun group => fromBytes group != hybridGroupId
  if retainedGroups.length ≠ groups.length then do
    let length ← toBytes (retainedGroups ++ retainedGroups).length 2
    .ok (length ++ retainedGroups.flatten, true)
  else .ok (payload, changed)

/-- The body of the entry loop retains the whole entry of every other group. -/
def stripEntry (hybridGroupId : Nat) (payload : Bytes) :
    List Bytes × Bool → Nat → Nat → Nat → Result (List Bytes × Bool) :=
  fun (retainedShares, changed) shareCursor groupId valueLength =>
    let shareEnd := shareCursor + 4 + valueLength
    if groupId ≠ hybridGroupId then
      .ok (retainedShares ++ [slice payload shareCursor shareEnd], changed)
    else .ok (retainedShares, true)

/-- This is the `key_share` branch of the strip loop. -/
def stripKeyShare (hybridGroupId : Nat) (payload : Bytes) (changed : Bool) :
    Result (Bytes × Bool) :=
  if payload.length < 2 then .error (.valueError "truncated key_share vector") else do
  let sharesLength ← readU16 payload 0
  if sharesLength ≠ payload.length - 2 then
    .error (.valueError "invalid key_share vector length") else do
  let (retainedShares, changed) ← entryWalker.walk payload payload.length
    (stripEntry hybridGroupId payload) 2 ([], changed)
  let length ← toBytes retainedShares.flatten.length 2
  .ok (length ++ retainedShares.flatten, changed)

/-- This is the branch of the extension loop on the extension type. -/
def stripPayload (hybridGroupId extensionType : Nat) (payload : Bytes) (changed : Bool) :
    Result (Bytes × Bool) :=
  if extensionType = tlsSupportedGroups then stripSupportedGroups hybridGroupId payload changed
  else if extensionType = tlsKeyShare then stripKeyShare hybridGroupId payload changed
  else .ok (payload, changed)

/-- The body of the extension loop rewrites one extension. -/
def stripExtension (hybridGroupId : Nat) (record : Bytes) :
    Bytes × Bool → Nat → Nat → Nat → Result (Bytes × Bool) :=
  fun (extensions, changed) cursor extensionType extensionLength => do
    let extensionStart := cursor + 4
    let payload := slice record extensionStart (extensionStart + extensionLength)
    let (payload, changed) ← stripPayload hybridGroupId extensionType payload changed
    let typeField ← toBytes extensionType 2
    let lengthField ← toBytes payload.length 2
    .ok (extensions ++ typeField ++ lengthField ++ payload, changed)

def stripHybrid (record : Bytes) (hybridGroupId : Nat) : Result Bytes := do
  let (extensionsStart, extensionsEnd) ← clientHelloExtensions record
  let (extensions, changed) ← extensionWalker.walk record extensionsEnd
    (stripExtension hybridGroupId record) extensionsStart ([], false)
  if ¬changed then .ok record else do
  let clientHelloPrefix := slice record 9 (extensionsStart - 2)
  let extensionsLength ← toBytes extensions.length 2
  let clientHello := clientHelloPrefix ++ extensionsLength ++ extensions
  let clientHelloLength ← toBytes clientHello.length 3
  let handshake := [tlsClientHello] ++ clientHelloLength ++ clientHello
  let recordLength ← readU16 record 3
  let recordEnd := 5 + recordLength
  let handshakeLength ← toBytes handshake.length 2
  .ok (slice record 0 3 ++ handshakeLength ++ handshake ++ record.drop recordEnd)

def forgePqComponent (record : Bytes) (groupId : Nat) : Result Bytes :=
  match pqComponents.lookup groupId with
  | none => .error (.keyError (toString groupId))
  | some (pqOffset, pqLength) => do
    let shares ← findKeyShare record
    match shares.find? fun share => share.1 = groupId with
    | none => .error (.valueError s!"key_share group 0x{formatHex 4 groupId} not found")
    | some (_, valueOffset, valueLength) =>
      if pqOffset + pqLength > valueLength then
        .error (.valueError "key_share is shorter than the fixed hybrid component boundary")
      else
        let start := valueOffset + pqOffset
        (range start (start + pqLength) 1).foldlM flipByte record

end FaultInject.TlsClientHello
