import FaultInject.Python.Text

namespace FaultInject.SshKexinit
open Python

def sshMsgKexEcdhInit : UInt8 := 30
def sshMsgKexinit : UInt8 := 20
def sntrup761PublickeyBytes : Nat := 1158
def x25519Bytes : Nat := 32

/-- The result holds the offset and the length of the public value. -/
def findKexEcdhInit (packet : Bytes) : Result (Option (Nat × Nat)) :=
  if packet.length < 10 then .ok none else do
  let packetLength := fromBytes (slice packet 0 4)
  let paddingLength ← byteAt packet 4
  let packetEnd := 4 + packetLength
  let payloadEnd : Int := packetEnd - paddingLength.toNat
  if packetEnd > packet.length ∨ payloadEnd < 10 then .ok none else do
  let messageNumber ← byteAt packet 5
  if messageNumber ≠ sshMsgKexEcdhInit then .ok none else do
  let blobLength := fromBytes (slice packet 6 10)
  let blobOffset : Nat := 10
  if (blobOffset + blobLength : Int) > payloadEnd then .ok none else
  .ok (some (blobOffset, blobLength))

def forgeSshPqComponent (packet : Bytes) : Result Bytes := do
  match ← findKexEcdhInit packet with
  | none => .error (.valueError "SSH KEX_ECDH_INIT packet not found")
  | some (blobOffset, blobLength) =>
    if blobLength < sntrup761PublickeyBytes + x25519Bytes then
      .error (.valueError "SSH public-value blob is shorter than sntrup761x25519")
    else
      (range blobOffset (blobOffset + sntrup761PublickeyBytes) 1).foldlM flipByte packet

/-- The result holds the ends of the name list, of the payload, and of the packet. -/
def kexinitAlgorithmBounds (packet : Bytes) : Result (Option (Nat × Nat × Nat × Nat)) :=
  if packet.length < 26 then .ok none else do
  let packetLength := fromBytes (slice packet 0 4)
  let paddingLength ← byteAt packet 4
  let packetEnd := 4 + packetLength
  let payloadEnd : Int := packetEnd - paddingLength.toNat
  if packetEnd > packet.length ∨ payloadEnd < 26 then .ok none else do
  let messageNumber ← byteAt packet 5
  if messageNumber ≠ sshMsgKexinit then .ok none else do
  let algorithmsLength := fromBytes (slice packet 22 26)
  let algorithmsStart : Nat := 26
  let algorithmsEnd := algorithmsStart + algorithmsLength
  if (algorithmsEnd : Int) > payloadEnd then .ok none else
  -- The checks above make the end of the payload nonnegative.
  .ok (some (algorithmsStart, algorithmsEnd, payloadEnd.toNat, packetEnd))

def kexinitAlgorithms (packet : Bytes) : Result (List String) := do
  match ← kexinitAlgorithmBounds packet with
  | none => .error (.valueError "SSH KEXINIT packet not found")
  | some (algorithmsStart, algorithmsEnd, _, _) =>
    let encoded := slice packet algorithmsStart algorithmsEnd
    if encoded ≠ [] then do
      let text ← decodeAscii encoded
      .ok (split text ',')
    else .ok []

/-- This is `bytes([value])`. -/
def singleByte (value : Nat) : Result Bytes :=
  if value < 256 then .ok [UInt8.ofNat value]
  else .error (.valueError "bytes must be in range(0, 256)")

def stripKexinitAlgorithm (packet : Bytes) (algorithm : String) : Result Bytes := do
  match ← kexinitAlgorithmBounds packet with
  | none => .error (.valueError "SSH KEXINIT packet not found")
  | some (algorithmsStart, algorithmsEnd, payloadEnd, packetEnd) => do
    let names ← kexinitAlgorithms packet
    let retained := names.filter fun name => name != algorithm
    let original := slice packet algorithmsStart algorithmsEnd
    let replacement ← encodeAscii (join ',' retained)
    if replacement = original then .ok packet else do
    let replacementLength ← toBytes replacement.length 4
    let payload := slice packet 5 22 ++ replacementLength ++ replacement
    let payload := payload ++ slice packet algorithmsEnd payloadEnd
    let padding := slice packet payloadEnd packetEnd
    let packetLength := 1 + payload.length + padding.length
    let packetLengthField ← toBytes packetLength 4
    let paddingLengthField ← singleByte padding.length
    .ok (packetLengthField ++ paddingLengthField ++ payload ++ padding)

end FaultInject.SshKexinit
