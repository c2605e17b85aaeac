import FaultInject.Construction.V15
import FaultInject.Python.Hex

namespace FaultInject.V16
open Python Record Harness PcapHello FaultInject.Matrix V12 V15
open Analyze (repetitionRange)

/-- This is the constant `V16`. -/
def v16Root : String := s!"{phase2Root}/v16"

def addr : String := s!"127.0.0.1:{v12Port}"

def defaultClients : List (String × List String) :=
  [("openssl-3.5.5",
      [clientBin, "s_client", "-tls1_3", "-provider", "default", "-connect", addr]),
    ("curl-system-openssl",
      ["curl", "-sk", "--tlsv1.3", "-o", "/dev/null", s!"https://{addr}/"]),
    ("boringssl", [s!"{phase2Root}/build/boringssl/tool/bssl", "client", "-connect", addr,
      "-min-version", "tls1.3"]),
    ("go", [s!"{v15Root}/goclient", "-connect", addr]),
    ("nss", ["tstclnt", "-d", s!"sql:{v15Root}/nssdb", "-h", "127.0.0.1", "-p",
      toString v12Port, "-o", "-Q", "-V", "tls1.3:tls1.3"]),
    ("rustls", [s!"{v15Root}/rustclient", addr])]

def surveyServer : List String :=
  [opensslServer, "s_server", "-tls1_3", "-www", "-provider", "default", "-accept",
    toString v12Port, "-cert", pem]

/-- The argument is `os.environ`. -/
def realServers (environ : Dict String String) : List (String × List String) :=
  [("nginx", ["nginx", "-c", s!"{v16Root}/nginx.conf", "-g", "daemon off;"]),
    ("caddy", [(environ.get? "FAULTINJECT_V16_CADDY").getD "caddy", "run", "--config",
      s!"{v16Root}/Caddyfile", "--adapter", "caddyfile"])]

/-- This is `_clean_env`. -/
def cleanEnvironment (environ : Dict String String) : Dict String String :=
  ((environ.without libraryVariables).set "XDG_DATA_HOME" s!"{v16Root}/caddy-data").set
    "XDG_CONFIG_HOME" s!"{v16Root}/caddy-config"

/-- A default client of OpenSSL runs with its own libraries. -/
def clientEnvironment (environ : Dict String String) (client : String) :
    Result (Dict String String) :=
  if client = "openssl-3.5.5" then nativeEnvironment "3.5.5" environ
  else .ok (cleanEnvironment environ)

def surveySpec (environ : Dict String String) (client : String) (repetition : Int) :
    Result ScenarioSpec := do
  let clientEnv ← clientEnvironment environ client
  let clientCmd ← Dict.item defaultClients client
  let serverEnv ← nativeEnvironment "3.5.6" environ
  .ok {
    impl := "openssl"
    faultType := "client-default"
    repetition := repetition
    condition := client
    serverCmd := surveyServer
    clientCmd := clientCmd
    listenPort := v12Port
    env := clientEnv
    captureTraffic := true
    serverEnv := some serverEnv }

/-- The time that a capture takes is not modelled. -/
def serverSpec (environ : Dict String String) (server client : String) (repetition : Int) :
    Result ScenarioSpec := do
  let values ← Dict.item clients client
  let serverCmd ← Dict.item (realServers environ) server
  let env ← nativeEnvironment "3.5.5" environ
  .ok {
    impl := "openssl"
    faultType := "server-software"
    repetition := repetition
    condition := s!"{server}-{client}"
    serverCmd := serverCmd
    clientCmd := clientCommand values.groups
    listenPort := v12Port
    env := env
    captureTraffic := true
    serverEnv := some (cleanEnvironment environ) }

def directSpec (environ : Dict String String) (server client : String) (repetition : Int) :
    Result ScenarioSpec := do
  let clientEnv ← clientEnvironment environ client
  let serverCmd ← Dict.item (realServers environ) server
  let clientCmd ← Dict.item defaultClients client
  .ok {
    impl := "openssl"
    faultType := "default-direct"
    repetition := repetition
    condition := s!"{server}--{client}"
    serverCmd := serverCmd
    clientCmd := clientCmd
    listenPort := v12Port
    env := clientEnv
    captureTraffic := true
    serverEnv := some (cleanEnvironment environ) }

def v16Specs (environ : Dict String String) (repetitions : Int) : Result (List ScenarioSpec) :=
  (((repetitionRange repetitions.toNat).flatMap fun rep =>
      (defaultClients.map Prod.fst).map fun client => surveySpec environ client rep) ++
    (repetitionRange repetitions.toNat).flatMap fun rep =>
      ((realServers environ).map Prod.fst).flatMap fun server =>
        (clients.map Prod.fst).map fun client => serverSpec environ server client rep).mapM id

def v16DirectSpecs (environ : Dict String String) (repetitions : Int) :
    Result (List ScenarioSpec) :=
  ((repetitionRange repetitions.toNat).flatMap fun rep =>
    ((realServers environ).map Prod.fst).flatMap fun server =>
      (defaultClients.map Prod.fst).map fun client => directSpec environ server client rep).mapM id

/-- This is `server, client = condition.split("--", 1)`. -/
def splitDirect (condition : String) : Result (String × String) :=
  match splitFirst "--".toList condition.toList with
  | some (server, client) => .ok (String.ofList server, String.ofList client)
  | none => .error (.valueError "not enough values to unpack (expected 2, got 1)")

/-- These are the names in the condition of a specification. The survey has one server. -/
def conditionNames (faultType condition : String) : Result (Option String × String) :=
  if faultType = "server-software" then
    (splitCondition condition).map fun names => (some names.1, names.2)
  else if faultType = "default-direct" then
    (splitDirect condition).map fun names => (some names.1, names.2)
  else .ok (none, condition)

/-- This is the summary of the capture if there is a capture file. -/
def captureSummary (runDir : Directory) (record : RunRecord) : Result (Option HelloSummary) :=
  match runDir.artifactFile record "pcap" with
  | some pcap => (summarizeHellos pcap.readBytes).map some
  | none => .ok none

/-- These are the groups and the shares of the first ClientHello. -/
def firstHello (summary : Option HelloSummary) : List Nat × List Nat :=
  match summary with
  | some summary => summary.clientHellos.headD ([], [])
  | none => ([], [])

/-- A summary is never false, also when its capture is empty. -/
def summaryMetrics (metrics : Metrics) (summary : Option HelloSummary) : Metrics :=
  match summary with
  | some summary => { metrics with
      hrrPcapPresent := some (decide (summary.hrrCount > 0))
      serverHelloCount := some summary.serverHelloCount
      finalNegotiatedGroup := groupName summary.finalGroup }
  | none => metrics

/-- These are the names of a list of groups. -/
def groupNamesOf (groups : List Nat) : List String :=
  groups.filterMap fun group => groupName (some group)

/-- This is the value of `client_precondition_verified`. -/
def verifiedV16 (spec : ScenarioSpec) (client : String) (summary : Option HelloSummary) :
    Result Bool :=
  if spec.faultType = "server-software" then
    match summary with
    | some summary => clientPreconditionV15 summary client
    | none => .ok false
  else .ok (!(firstHello summary).1.isEmpty)

def evaluateV16 (host : String → Option Bytes) (record : RunRecord) (runDir : Directory)
    (spec : ScenarioSpec) : Result (RunRecord × Directory) := do
  let summary ← captureSummary runDir record
  let (groups, shares) := firstHello summary
  let binary ← firstArgument
    (if spec.faultType ∈ ["client-default", "default-direct"] then spec.clientCmd
      else spec.serverCmd)
  let part := if spec.faultType = "client-default" then "client-survey"
    else if spec.faultType = "default-direct" then "default-direct"
    else "server-software"
  let (server, client) ← conditionNames spec.faultType spec.condition
  let verified ← verifiedV16 spec client summary
  let metrics := { summaryMetrics record.metrics summary with
    clientPreconditionVerified := some verified
    downgradeFlagged := none }
  let evaluated := { record with
    metrics := metrics
    manipulationVerified := verified
    provenance := .ofEntries ([
      ("part", .str part),
      ("client_hello_groups", .list ((groupNamesOf groups).map .str)),
      ("client_hello_key_shares", .list ((groupNamesOf shares).map .str)),
      ("server_cmd", .list (spec.serverCmd.map .str)),
      ("client_cmd", .list (spec.clientCmd.map .str)),
      ("binary_sha256", .optionStr (sha256File host binary))] ++
      server.toList.map (fun server => ("server", .str server)) ++
      [("client", .str client)]) }
  .ok (evaluated, runDir.toJsonPath evaluated)

/-- Both runs of this version evaluate with the specification. -/
def evaluatedJobs (host : String → Option Bytes) (specs : List ScenarioSpec) :
    List (Result Job) :=
  specs.map fun spec => .ok {
    spec := spec
    evaluate := fun record runDir => evaluateV16 host record runDir spec }

def runV16 (host : String → Option Bytes) (environ : Dict String String) (outDir : String)
    (repetitions : Int) : Plan where
  guard := freshGuard outDir
  inventory := none
  jobs := (v16Specs environ repetitions).map (evaluatedJobs host)

def runV16Direct (host : String → Option Bytes) (environ : Dict String String) (outDir : String)
    (repetitions : Int) : Plan where
  guard := freshGuard outDir
  inventory := none
  jobs := (v16DirectSpecs environ repetitions).map (evaluatedJobs host)

/-- This is `_records`. -/
def recordsOf (runDir : Directory) : Result (List RunRecord) :=
  runDir.jsonPaths.mapM runDir.fromJson

/-- This is the match of the whole text with the pattern `0x([0-9a-f])a\1a`. -/
def isGreaseName (group : String) : Bool :=
  match group.toList with
  | ['0', 'x', digit, 'a', again, 'a'] => decide (digit ∈ hexDigits) && again == digit
  | _ => false

/-- This is `_grease`. -/
def grease (groups : List String) : String :=
  join ',' (groups.map fun group => if isGreaseName group then "GREASE" else group)

/-- These are the counts of one server and one client. -/
structure SoftwareCounts where
  n : Nat := 0
  pre : Nat := 0
  hrr : Nat := 0
  hybrid : Nat := 0
  classical : Nat := 0
  other : Nat := 0

def SoftwareCounts.add (counts : SoftwareCounts) (metrics : Metrics) : SoftwareCounts :=
  let final := metrics.finalNegotiatedGroup
  let counts := { counts with
    n := counts.n + 1
    pre := counts.pre + (metrics.clientPreconditionVerified == some true).toNat
    hrr := counts.hrr + (metrics.hrrPcapPresent == some true).toNat }
  if final = some "X25519MLKEM768" then { counts with hybrid := counts.hybrid + 1 }
  else if final = some "X25519" then { counts with classical := counts.classical + 1 }
  else { counts with other := counts.other + 1 }

/-- A row of the survey has a client, its groups and its shares. -/
abbrev SurveyKey := String × String × String

structure Tables where
  survey : Dict SurveyKey Nat := .empty
  servers : Dict (String × String) SoftwareCounts := .empty
  direct : Dict (String × String) SoftwareCounts := .empty

/-- This is `p.get("part") == part`. -/
def hasPart (record : RunRecord) (part : String) : Bool :=
  (record.provenance.get? "part").any (Value.isText part)

def surveyKey (record : RunRecord) : Result SurveyKey := do
  let client ← (← record.provenance.getItem "client" "client").text
  let groups ← (← record.provenance.getItem "client_hello_groups" "client_hello_groups").texts
  let shares ←
    (← record.provenance.getItem "client_hello_key_shares" "client_hello_key_shares").texts
  .ok (client, grease groups, grease shares)

def softwareKey (record : RunRecord) : Result (String × String) := do
  let server ← (← record.provenance.getItem "server" "server").text
  let client ← (← record.provenance.getItem "client" "client").text
  .ok (server, client)

/-- The record is counted in the table of its part. -/
def addRecord (tables : Tables) (record : RunRecord) : Result Tables :=
  if hasPart record "client-survey" then do
    let key ← surveyKey record
    .ok { tables with survey := tables.survey.update key 0 (· + 1) }
  else if hasPart record "server-software" then do
    let key ← softwareKey record
    .ok { tables with servers := tables.servers.update key {} (·.add record.metrics) }
  else if hasPart record "default-direct" then do
    let key ← softwareKey record
    .ok { tables with direct := tables.direct.update key {} (·.add record.metrics) }
  else .ok tables

def tablesOf (records : List RunRecord) : Result Tables := records.foldlM addRecord {}

/-- This is `first <= second` for two tuples of texts. -/
def textsLe : List String → List String → Bool
  | [], _ => true
  | _ :: _, [] => false
  | first :: firsts, second :: seconds =>
      if first = second then textsLe firsts seconds else decide (first ≤ second)

/-- This is `sorted(table.items())` for keys of texts. -/
def sortedItems {K V : Type} (texts : K → List String) (table : Dict K V) : List (K × V) :=
  table.entries.insertionSort fun first second => textsLe (texts first.1) (texts second.1)

/-- This is `text or '-'`. -/
def orDash (text : String) : String := if text = "" then "-" else text

def surveyRow (item : SurveyKey × Nat) : String :=
  let ((client, groups, shares), runs) := item
  s!"| {client} | {orDash groups} | {orDash shares} | {runs} |"

def softwareRow (item : (String × String) × SoftwareCounts) : String :=
  let ((server, client), counts) := item
  s!"| {server} | {client} | {counts.pre}/{counts.n} | {counts.hrr} | {counts.hybrid} | " ++
    s!"{counts.classical} | {counts.other} |"

def surveyLines (tables : Tables) : List String :=
  ["| client (default config) | supported_groups (order) | key_share | runs |",
    "|---|---|---|---:|"] ++
    (sortedItems (fun key => [key.1, key.2.1, key.2.2]) tables.survey).map surveyRow

/-- These are the lines of one server table with the heading of its clients. -/
def softwareLines (heading : String) (table : Dict (String × String) SoftwareCounts) :
    List String :=
  ["", s!"| server (default config) | {heading} | precondition/n | HRR (PCAP) | " ++
      "hybrid | classical | other |",
    "|---|---|---:|---:|---:|---:|---:|"] ++
    (sortedItems (fun key => [key.1, key.2]) table).map softwareRow

def renderV16 (runDir : Directory) : Result String := do
  let records ← recordsOf runDir
  let tables ← tablesOf records
  .ok ("\n".intercalate (surveyLines tables ++ softwareLines "client" tables.servers ++
    softwareLines "client (default config)" tables.direct))

end FaultInject.V16
