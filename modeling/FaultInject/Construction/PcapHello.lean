import FaultInject.Construction.TlsClientHello

namespace FaultInject.PcapHello
open Python Codec TlsClientHello

/-- A HelloRetryRequest carries this fixed random. -/
def hrrRandom : Bytes :=
  [0xcf, 0x21, 0xad, 0x74, 0xe5, 0x9a, 0x61, 0x11, 0xbe, 0x1d, 0x8c, 0x02, 0x1e, 0x65, 0xb8, 0x91,
    0xc2, 0xa2, 0x11, 0x16, 0x7a, 0xbb, 0x8c, 0x5e, 0x07, 0x9e, 0x09, 0xe2, 0xc8, 0xa8, 0x33, 0x9c]

def groupNames : List (Nat × String) :=
  [(0x001D, "X25519"), (0x11EC, "X25519MLKEM768"), (0x6399, "X25519Kyber768Draft00")]

/-- A client entry has the groups and the shares.
A server entry has the retry flag and the selected group. -/
structure HelloSummary where
  clientHellos : List (List Nat × List Nat) := []
  serverHellos : List (Bool × Option Nat) := []
  deriving DecidableEq, Repr

def HelloSummary.hrrCount (summary : HelloSummary) : Nat :=
  summary.serverHellos.countP fun hello => hello.1

def HelloSummary.serverHelloCount (summary : HelloSummary) : Nat :=
  summary.serverHellos.countP fun hello => !hello.1

def HelloSummary.finalGroup (summary : HelloSummary) : Option Nat :=
  (((summary.serverHellos.filter fun hello => !hello.1).map Prod.snd).getLast?).join

def groupName (code : Option Nat) : Option String :=
  code.map fun code => (groupNames.lookup code).getD s!"0x{formatHex 4 code}"

/-- This is `for ext_type, payload in _extensions(data, start, end)`. -/
def forExtensions {S : Type} (data : Bytes) (start stop : Nat)
    (body : S → Nat → Bytes → Result S) (state : S) : Result S :=
  extensionWalker.walk data stop
    (fun state cursor extType extLen =>
      body state extType (slice data (cursor + 4) (cursor + 4 + extLen)))
    start state

/-- This loop steps over the entries by their declared lengths. -/
def shareCodes (payload : Bytes) (cursor : Nat) (shares : List Nat) : Result (List Nat) :=
  if cursor < payload.length then do
    let group ← readU16 payload cursor
    let valueLength ← readU16 payload (cursor + 2)
    shareCodes payload (cursor + (4 + valueLength)) (shares ++ [group])
  else .ok shares
termination_by payload.length - cursor

/-- The body of the extension loop keeps the last group list and collects all shares. -/
def clientHelloExtension :
    List Nat × List Nat → Nat → Bytes → Result (List Nat × List Nat) :=
  fun (groups, shares) extType payload =>
    if extType = tlsSupportedGroups then do
      let groups ← (range 2 payload.length 2).mapM fun index => readU16 payload index
      .ok (groups, shares)
    else if extType = tlsKeyShare then do
      let shares ← shareCodes payload 2 shares
      .ok (groups, shares)
    else .ok (groups, shares)

def clientHello (record : Bytes) : Result (List Nat × List Nat) := do
  let (start, stop) ← clientHelloExtensions record
  forExtensions record start stop clientHelloExtension ([], [])

def serverHelloExtension (group : Option Nat) (extType : Nat) (payload : Bytes) :
    Result (Option Nat) :=
  if extType = tlsKeyShare then do
    let code ← readU16 payload 0
    .ok (some code)
  else .ok group

def serverHello (record : Bytes) : Result (Bool × Option Nat) := do
  let recordLength ← readU16 record 3
  let recordEnd := 5 + recordLength
  if recordEnd > record.length then .error (.valueError "not a complete ServerHello") else do
  let messageType ← byteAt record 5
  if messageType ≠ 0x02 then .error (.valueError "not a complete ServerHello") else do
  if recordEnd < 47 then .error (.valueError "not a complete ServerHello") else do
  let random := slice record 11 43
  let sessionIdLength ← byteAt record 43
  let cursor := 44 + sessionIdLength.toNat
  let cursor := cursor + 3
  let extensionsLength ← readU16 record cursor
  let extensionsEnd := cursor + 2 + extensionsLength
  if extensionsEnd > recordEnd then
    .error (.valueError "truncated ServerHello extensions") else do
  let group ← forExtensions record (cursor + 2) extensionsEnd serverHelloExtension none
  .ok (random == hrrRandom, group)

/-- This is a match of the pattern `\x16\x03[\x01\x03]`. -/
def isHandshakeRecord (marker : Bytes) : Bool :=
  marker == [0x16, 0x03, 0x01] || marker == [0x16, 0x03, 0x03]

/-- The search returns the match positions and continues behind each match. -/
def finditer (capture : Bytes) (position : Nat) : List Nat :=
  if position < capture.length then
    if isHandshakeRecord (slice capture position (position + 3)) then
      position :: finditer capture (position + 3)
    else finditer capture (position + 1)
  else []
termination_by capture.length - position

/-- This is one round of the scan. -/
def summarizeMatch (capture : Bytes) (summary : HelloSummary) (start : Nat) :
    Result HelloSummary :=
  let record := capture.drop start
  if record.length < 6 then .ok summary
  else
    exceptValueError (do
      let messageType ← byteAt record 5
      if messageType = 0x01 then do
        let hello ← clientHello record
        .ok { summary with clientHellos := summary.clientHellos ++ [hello] }
      else if messageType = 0x02 then do
        let hello ← serverHello record
        .ok { summary with serverHellos := summary.serverHellos ++ [hello] }
      else .ok summary)
      (.ok summary)

def summarizeHellos (capture : Bytes) : Result HelloSummary :=
  (finditer capture 0).foldlM (summarizeMatch capture) {}

def clientPrecondition (summary : HelloSummary) : Bool :=
  match summary.clientHellos with
  | [] => false
  | (groups, shares) :: _ =>
    decide (0x001D ∈ groups ∧ 0x11EC ∈ groups) && shares == [0x001D]

end FaultInject.PcapHello
