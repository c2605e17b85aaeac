import FaultInject.Construction.Harness
import FaultInject.Python.IntLiteral

namespace FaultInject.VerifyApplied
open Python Record Harness

/-- This is a finished program with its decoded output. -/
structure Completed where
  returncode : Int
  stdout : String
  stderr : String

/-- These values come from the program `tshark` and the preserved baselines. -/
structure Evidence where
  /-- This runs the program with the arguments on a capture. -/
  tshark : List String → Option File → Result Completed
  /-- This is a file of the baseline of an implementation. -/
  baseline : String → Option File

/-- These are the printed lines. A failed program gives its message. -/
def Evidence.lines (evidence : Evidence) (arguments : List String) (pcap : Option File) :
    Result (List String) := do
  let result ← evidence.tshark arguments pcap
  if result.returncode ≠ 0 then
    let message := stripSpaces result.stderr
    throw (.runtimeError (if message = "" then "tshark could not read pcap" else message))
  else return splitlines result.stdout

/-- These are the values between the commas. -/
def values (raw : String) : List String := (split raw ',').filter (· != "")

/-- This set is a list whose order and repetitions do not count. -/
def supportedGroups (evidence : Evidence) (pcap : Option File) : Result (List String) := do
  let lines ← evidence.lines
    ["-Y", "tls.handshake.extensions_supported_group", "-T", "fields", "-e",
      "tls.handshake.extensions_supported_group"] pcap
  return lines.flatMap values

def ids (raw : String) : Result (List Int) := (values raw).mapM intLiteral

/-- These are the groups and the key shares of a line. -/
def lineGroups (line : String) : Result (List Int × List Int) := do
  let (groups, shares) := splitOnce line '\t'
  return (← ids groups, ← ids shares)

/-- These arguments ask for the groups and the key shares of each ClientHello. -/
def helloQuery : List String :=
  ["-Y", "tls.handshake.type==1", "-T", "fields", "-e", "tls.handshake.extensions_supported_group",
    "-e", "tls.handshake.extensions_key_share_group"]

def clientHelloGroups (evidence : Evidence) (pcap : Option File) :
    Result (List (List Int × List Int)) := do
  let lines ← evidence.lines helloQuery pcap
  (lines.filter fun line => '\t' ∈ line.toList).mapM lineGroups

def verifyGroupList (evidence : Evidence) (runPcap baselinePcap : Option File) : Result Bool := do
  let runGroups ← supportedGroups evidence runPcap
  let baselineGroups ← supportedGroups evidence baselinePcap
  .ok (runGroups ≠ [] ∧ baselineGroups ≠ [] ∧
    ¬(runGroups ⊆ baselineGroups ∧ baselineGroups ⊆ runGroups))

def verifySshGroupList (runLog baselineLog : Result File) : Result Bool := do
  let runFile ← runLog
  let runText ← runFile.readText
  let runGroup ← parseGroup "openssh" runText
  let baselineFile ← baselineLog
  let baselineText ← baselineFile.readText
  let baselineGroup ← parseGroup "openssh" baselineText
  .ok (runGroup.isSome && baselineGroup.isSome && runGroup != baselineGroup)

/-- These are the fields `key=value` of a line. A later field replaces an earlier one. -/
def lineFields (line : String) : Dict String String :=
  ((splitWords line).filter fun field => '=' ∈ field.toList).foldl
    (fun fields field =>
      let (key, value) := splitOnce field '='
      fields.set key value)
    .empty

/-- This is the test of a line in `verify_binding`. -/
def isBindingMutation (line : String) : Bool :=
  let fields := lineFields line
  let before := fields.get? "before_sha256"
  let after := fields.get? "after_sha256"
  fields.get? "event" == some "binding_mutation" && before.any (· != "") && after.any (· != "") &&
    before != after

def verifyBinding (proxyLog : Result File) : Result Bool := do
  let file ← proxyLog
  let text ← file.readText
  .ok ((splitlines text).any isBindingMutation)

/-- This is the test of a line in `verify_condition`. -/
def isStripMutation (line : String) : Bool :=
  let fields := lineFields line
  fields.get? "event" == some "strip_mutation" &&
    fields.get? "before_sha256" != fields.get? "after_sha256"

def verifyCondition (evidence : Evidence) (record : RunRecord) (outputDir : Directory) :
    Result Bool :=
  if record.condition = "silent-downgrade" then do
    let pcap ← record.artifacts.getItem "pcap" "pcap"
    let groups ← clientHelloGroups evidence (outputDir.get? pcap)
    .ok (groups.any fun (advertised, keyShares) =>
      advertised.any (fun group => group ∈ [0x11EC, 0x6399]) && keyShares.head? == some 0x001D)
  else if record.condition = "onpath-strip" then do
    let proxyLog ← record.artifacts.getItem "proxy_log" "proxy_log"
    let file ← outputDir.file proxyLog
    let text ← file.readText
    .ok ((splitlines text).any isStripMutation)
  else .ok true

def mark (record : RunRecord) (verified : Bool) : RunRecord :=
  { record with manipulationVerified := verified }

end FaultInject.VerifyApplied
