import FaultInject.Construction.Directory
import FaultInject.Construction.MitmProxy
import FaultInject.Transition.Run

namespace FaultInject.Harness
open Python Record

/-- This is `pattern in text`. -/
def isIn (pattern text : String) : Bool :=
  text.toList.tails.any fun tail => pattern.toList.isPrefixOf tail

def detectHrr (clientLogText : String) : Bool :=
  isIn "HelloRetryRequest" clientLogText || isIn "03 03 cf 21 ad 74 e5 9a 61 11" clientLogText

/-- This is the match of one group pattern behind a marker. -/
def groupBehind (marker : String) (more : Char → Bool) (tail : List Char) : Option String :=
  if marker.toList.isPrefixOf tail then
    match (tail.drop marker.length).dropWhile isSpace with
    | first :: rest => some (String.ofList (first :: rest.takeWhile more))
    | [] => none
  else none

/-- These are the markers of the pattern and the characters behind the first one of the group. -/
def groupPattern (impl : String) : Result (List String × (Char → Bool)) :=
  match impl with
  | "openssl" => .ok (["Negotiated TLS1.3 group:", "Peer Temp Key:"],
      fun character => !isSpace character && character != ',')
  | "boringssl" => .ok (["ECDHE group:"], fun character => !isSpace character)
  | "openssh" => .ok (["kex: algorithm:"], fun character => !isSpace character)
  | _ => .error (.keyError impl)

def parseGroup (impl clientLogText : String) : Result (Option String) := do
  let (markers, more) ← groupPattern impl
  let group := clientLogText.toList.tails.findSome? fun tail =>
    markers.findSome? fun marker => groupBehind marker more tail
  .ok (if group = some "<NULL>" then none else group)

/-- This is `_SUCCESS_MARK[impl](text)`. -/
def successMark (impl text : String) : Result Bool :=
  match impl with
  | "openssl" => .ok (isIn "Negotiated TLS1.3 group:" text ||
      (isIn "New, TLSv1.3" text && isIn "DONE" text))
  | "boringssl" => .ok (isIn "Connected." text && isIn "Version: TLSv1.3" text)
  | "openssh" => .ok (isIn "using \"publickey\"" text)
  | _ => .error (.keyError impl)

def parseHandshake (impl clientLogText : String) (exitCode : Int) : Result String := do
  let success ← if exitCode = 0 then successMark impl clientLogText else .ok false
  .ok (if success then "success" else "failure")

def collectMetrics (impl clientLogText : String) (exitCode : Int) : Result Metrics := do
  let group ← parseGroup impl clientLogText
  let isHybrid := group.any fun name => name ∈ hybridGroups
  let handshake ← parseHandshake impl clientLogText exitCode
  .ok {
    negotiatedGroup := group
    isHybrid := isHybrid
    downgradeVisible := group.isSome && !isHybrid
    handshakeResult := handshake }

/-- This is the value of a hexadecimal digit. -/
def hexValue (character : Char) : Option Nat :=
  if character.isDigit then some (character.toNat - '0'.toNat)
  else if 'a' ≤ character ∧ character ≤ 'f' then some (character.toNat - 'a'.toNat + 10)
  else if 'A' ≤ character ∧ character ≤ 'F' then some (character.toNat - 'A'.toNat + 10)
  else none

/-- This is the match of the length pattern of a ServerHello. -/
def serverHelloLength (tail : List Char) : Option Nat :=
  let marker := "Handshake [length ".toList
  if marker.isPrefixOf tail then
    let rest := tail.drop marker.length
    let digits := rest.takeWhile fun character => (hexValue character).isSome
    if digits ≠ [] ∧ "], ServerHello".toList.isPrefixOf (rest.drop digits.length) then
      some (digits.foldl (fun total digit => 16 * total + (hexValue digit).getD 0) 0)
    else none
  else none

def serverHelloIsHybrid (clientLogText : String) : Option Bool :=
  (clientLogText.toList.tails.findSome? serverHelloLength).map fun length =>
    decide (length ≥ 0x0400)

/-- The source states that the standard audit tools never flag a downgrade. -/
def auditFlagsDowngrade (_advertisedHybrid _negotiatedIsHybrid : Bool) : Bool := false

def collectMetricsV11 (impl clientLogText : String) (exitCode : Int) (advertisedHybrid : Bool) :
    Result Metrics := do
  let base ← collectMetrics impl clientLogText exitCode
  let bySize := if base.negotiatedGroup.isNone then serverHelloIsHybrid clientLogText else none
  let base := match bySize with
    | some hybrid => { base with isHybrid := hybrid, downgradeVisible := !hybrid }
    | none => base
  .ok { base with
    hrrPresent := some (detectHrr clientLogText)
    advertisedHybrid := some advertisedHybrid
    downgradeFlagged := some (auditFlagsDowngrade advertisedHybrid base.isHybrid) }

/-- The mutation of the proxy has access to the files of the run. -/
abbrev Mutator := MitmProxy.Mutate Directory

structure ScenarioSpec where
  impl : String
  faultType : String
  repetition : Int
  condition : String
  serverCmd : List String
  clientCmd : List String
  listenPort : Nat
  env : Dict String String
  manipulationVerified : Bool := false
  captureTraffic : Bool := false
  serverListenPort : Option Nat := none
  proxyUpstreamPort : Option Nat := none
  proxyMutate : Option Mutator := none
  proxyLog : Option String := none
  advertisedHybrid : Option Bool := none
  serverEnv : Option (Dict String String) := none

/-- This is what the started programs do in a scenario that ends in time. -/
structure Outcome where
  serverOutput : File
  captureOutput : File
  pcap : File
  /-- These are the events at the proxy until its thread is joined. -/
  events : List MitmProxy.Event
  clientText : String
  returncode : Int

/-- The proxy runs on the files. Some lists of events cannot happen. -/
def proxyFiles (spec : ScenarioSpec) (events : List MitmProxy.Event) (runDir : Directory) :
    Option (Result Directory) :=
  match spec.proxyUpstreamPort, spec.proxyMutate with
  | some _, some mutate =>
    (Transition.run (MitmProxy.step mutate) (.initial runDir) events).map fun state =>
      match state.phase with
      | .raised _ => .error (.runtimeError "proxy failed")
      | _ => .ok state.world
  | _, _ => some (.ok runDir)

/-- These are the entries of the artifacts. -/
def scenarioArtifacts (spec : ScenarioSpec) (identifier : String) : Dict String String :=
  let artifacts := (Dict.empty.set "client_log" s!"{identifier}-client.log").set
    "server_log" s!"{identifier}-server.log"
  let artifacts := if spec.captureTraffic then
      (artifacts.set "pcap" s!"{identifier}.pcapng").set "capture_log" s!"{identifier}-capture.log"
    else artifacts
  match spec.proxyLog with
  | some name => artifacts.set "proxy_log" name
  | none => artifacts

/-- These are the files of the server and of the capture. -/
def scenarioFiles (spec : ScenarioSpec) (identifier : String) (outcome : Outcome)
    (runDir : Directory) : Directory :=
  let runDir := (runDir.set s!"{identifier}-server.log" outcome.serverOutput).set
    s!"{identifier}-capture.log" outcome.captureOutput
  if spec.captureTraffic then runDir.set s!"{identifier}.pcapng" outcome.pcap else runDir

/-- These are the names of the files of a scenario other than its record. -/
def outputNames (spec : ScenarioSpec) (identifier : String) : List String :=
  [s!"{identifier}-server.log", s!"{identifier}-capture.log", s!"{identifier}.pcapng",
    s!"{identifier}-client.log"] ++ spec.proxyLog.toList

/-- These are the metrics of the record. -/
def scenarioMetrics (spec : ScenarioSpec) (outcome : Outcome) : Result Metrics :=
  match spec.advertisedHybrid with
  | some advertised => collectMetricsV11 spec.impl outcome.clientText outcome.returncode advertised
  | none => collectMetrics spec.impl outcome.clientText outcome.returncode

/-- This is the part of `run_scenario` behind the started programs. -/
def scenarioRecord (spec : ScenarioSpec) (identifier : String) (outcome : Outcome)
    (runDir : Directory) : Result (RunRecord × Directory) := do
  let runDir := runDir.set s!"{identifier}-client.log" (.text outcome.clientText)
  let metrics ← scenarioMetrics spec outcome
  let record : RunRecord := {
    runId := identifier
    implementation := spec.impl
    faultType := spec.faultType
    repetition := spec.repetition
    condition := spec.condition
    metrics := metrics
    manipulationVerified := spec.manipulationVerified
    artifacts := scenarioArtifacts spec identifier }
  .ok (record, Directory.toJsonPath runDir record)

def runScenario (spec : ScenarioSpec) (outcome : Outcome) (runDir : Directory) :
    Option (Result (RunRecord × Directory)) :=
  let identifier := runId spec.impl spec.faultType spec.repetition spec.condition
  (proxyFiles spec outcome.events (scenarioFiles spec identifier outcome runDir)).map fun proxied =>
    proxied >>= scenarioRecord spec identifier outcome

end FaultInject.Harness
