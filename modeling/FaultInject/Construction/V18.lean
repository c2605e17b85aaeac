import FaultInject.Construction.V16

namespace FaultInject.V18
open Python Record Harness PcapHello FaultInject.Matrix V12 V15 V16
open Analyze (repetitionRange)

/-- This is the constant `V18`. -/
def v18Root : String := s!"{phase2Root}/v18"

def localAddr : String := "127.0.0.1"

def hybridMarkers : List String := ["MLKEM", "KYBER"]

structure Candidate where
  command : List String
  binary : String
  version : List String
  kind : String

def candidates : List (String × Candidate) :=
  [("gnutls", {
      command := ["timeout", "20", "gnutls-cli", "--insecure", "--priority",
        "NORMAL:-VERS-ALL:+VERS-TLS1.3", "-p", toString v12Port, localAddr]
      binary := "/usr/bin/gnutls-cli"
      version := ["gnutls-cli", "--version"]
      kind := "independent" }),
    ("botan", {
      command := ["timeout", "20", "botan", "tls_client", localAddr, s!"--port={v12Port}",
        "--ignore-cert-error", "--tls-version=tls1.3"]
      binary := "/usr/bin/botan"
      version := ["botan", "version"]
      kind := "independent" }),
    ("wolfssl", {
      command := [s!"{v18Root}/wolfssl_client", localAddr, toString v12Port]
      binary := s!"{v18Root}/wolfssl_client"
      version := [s!"{v18Root}/wolfssl_client", "--version"]
      kind := "independent" }),
    ("mbedtls", {
      command := [s!"{v18Root}/mbedtls_client", localAddr, toString v12Port]
      binary := s!"{v18Root}/mbedtls_client"
      version := [s!"{v18Root}/mbedtls_client", "--version"]
      kind := "independent" }),
    ("s2n-tls", {
      command := [s!"{v18Root}/s2n-tls/build-awslc/bin/s2nc", "-i", localAddr, toString v12Port]
      binary := s!"{v18Root}/s2n-tls/build-awslc/bin/s2nc"
      version := [s!"{v18Root}/s2n-tls/build-awslc/bin/s2nc", "--help"]
      kind := "independent" }),
    ("java", {
      command := ["java", "-cp", v18Root, "JavaTlsClient", localAddr, toString v12Port]
      binary := "/usr/bin/java"
      version := ["java", "-version"]
      kind := "independent" }),
    ("node-openssl", {
      command := ["node", s!"{v18Root}/node_tls_client.js", localAddr, toString v12Port]
      binary := "/usr/bin/node"
      version := ["node", "--version"]
      kind := "openssl-control" }),
    ("python-openssl", {
      command := ["python3", s!"{v18Root}/python_tls_client.py", localAddr, toString v12Port]
      binary := "/usr/bin/python3"
      version := ["python3", "--version"]
      kind := "openssl-control" })]

def e8Servers : List String :=
  ["openssl-S1", "openssl-S1-serverpref", "nss", "boringssl", "go"]

def e8Clients : List String := ["botan"]

def serverSelectionTypes : List (String × String) :=
  [("openssl-3.5.6-default", "server-order"),
    ("openssl-S1", "key-share-priority"),
    ("openssl-S1-serverpref", "key-share-priority"),
    ("nss", "key-share-priority"),
    ("boringssl", "client-order"),
    ("go", "server-order")]

/-- This is `_is_hybrid`. The names of groups are ASCII. -/
def isHybridName (name : Option String) : Bool :=
  name.any fun name => hybridMarkers.any fun marker =>
    isIn marker (String.ofList (name.toList.map Char.toUpper))

def classify (groups shares : List String) : String :=
  let advertised := groups.any fun group => isHybridName (some group)
  let sent := shares.any fun share => isHybridName (some share)
  match groups with
  | [] => "unparsed"
  | first :: _ =>
    if !advertised then "no-hybrid-advertisement"
    else if sent then
      if isHybridName (some first) then "C1-hybrid-first-share"
      else "hybrid-share-noncanonical-order"
    else if isHybridName (some first) then "C2-hybrid-first-share-omitted"
    else "C3-classical-first-share"

def surveySpec (environ : Dict String String) (client : String) (repetition : Int) :
    Result ScenarioSpec := do
  let candidate ← Dict.item candidates client
  let serverEnv ← nativeEnvironment "3.5.6" environ
  .ok {
    impl := "openssl"
    faultType := "client-default-v18"
    repetition := repetition
    condition := client
    serverCmd := surveyServer
    clientCmd := candidate.command
    listenPort := v12Port
    env := cleanEnvironment environ
    captureTraffic := true
    serverEnv := some serverEnv }

def e8Spec (environ : Dict String String) (server client : String) (repetition : Int) :
    Result ScenarioSpec := do
  let serverCmd ← Dict.item (servers environ) server
  let candidate ← Dict.item candidates client
  let serverEnv ← serverEnvironment environ server
  .ok {
    impl := "openssl"
    faultType := "actual-client-e8"
    repetition := repetition
    condition := s!"{server}--{client}"
    serverCmd := serverCmd
    clientCmd := candidate.command
    listenPort := v12Port
    env := cleanEnvironment environ
    captureTraffic := true
    serverEnv := some serverEnv }

/-- This is `inventory()`. The version commands of the present binaries are run. -/
def inventory (host : String → Option Bytes) (versions : List String → String) : Value :=
  .object (candidates.map fun (name, candidate) => (name, .object [
    ("kind", .str candidate.kind),
    ("binary", .str candidate.binary),
    ("binary_sha256", .optionStr (sha256File host candidate.binary)),
    ("command", .list (candidate.command.map .str)),
    ("version_command", .list (candidate.version.map .str)),
    ("version_output", .optionStr
      ((host candidate.binary).map fun _ => versions candidate.version))]))

def inventoryName : String := "v1.8-candidate-inventory.json"

/-- This is `write_inventory`. -/
def candidateInventory (host : String → Option Bytes) : Inventory where
  name := inventoryName
  text versions := Json.dumps 0 (inventory host versions)

/-- This is the default value of the argument `server`. -/
def defaultServer : String := "openssl-3.5.6-default"

/-- The evaluation replaces the metrics of the client log by those of the capture. -/
def evaluatedMetrics (metrics : Metrics) (summary : Option HelloSummary) : Metrics :=
  let metrics := summaryMetrics metrics summary
  let final := metrics.finalNegotiatedGroup
  { metrics with
    negotiatedGroup := final
    isHybrid := isHybridName final
    downgradeVisible := final.any (· ≠ "") && !isHybridName final
    handshakeResult := if metrics.serverHelloCount.any (· ≠ 0) then "success" else "failure"
    clientPreconditionVerified := some !(firstHello summary).1.isEmpty
    downgradeFlagged := none }

def evaluateV18 (host : String → Option Bytes) (environ : Dict String String)
    (record : RunRecord) (runDir : Directory) (client : String)
    (server : String := defaultServer) : Result (RunRecord × Directory) := do
  let summary ← captureSummary runDir record
  let groups := groupNamesOf (firstHello summary).1
  let shares := groupNamesOf (firstHello summary).2
  let candidate ← Dict.item candidates client
  let serverCmd ← if server = defaultServer then .ok surveyServer
    else Dict.item (servers environ) server
  let evaluated := { record with
    metrics := evaluatedMetrics record.metrics summary
    manipulationVerified := !groups.isEmpty
    provenance := .ofEntries [
      ("part", .str "candidate-client-survey"),
      ("client", .str client),
      ("client_kind", .str candidate.kind),
      ("client_cmd", .list (candidate.command.map .str)),
      ("binary", .str candidate.binary),
      ("binary_sha256", .optionStr (sha256File host candidate.binary)),
      ("client_hello_groups", .list (groups.map .str)),
      ("client_hello_key_shares", .list (shares.map .str)),
      ("classification", .str (classify groups shares)),
      ("server", .str server),
      ("server_selection_type", .str ((serverSelectionTypes.lookup server).getD "unknown")),
      ("server_cmd", .list (serverCmd.map .str))] }
  .ok (evaluated, runDir.toJsonPath evaluated)

/-- These labels have records that match their pattern. -/
def existingLabels (runDir : Directory) (pattern : String → String) (selected : List String) :
    List String :=
  selected.filter fun label => !(runDir.glob (pattern label)).isEmpty

/-- The selected labels must not have records. -/
def labelGuard (outDir : String) (pattern : String → String) (selected : List String)
    (runDir : Directory) : Result Unit :=
  match existingLabels runDir pattern selected with
  | [] => .ok ()
  | existing =>
    let labels := ", ".intercalate existing
    .error (.runtimeError s!"{outDir} already has records for: {labels}")

def surveyPattern (client : String) : String := s!"openssl_client-default-v18_r*_{client}.json"

def runV18 (host : String → Option Bytes) (environ : Dict String String) (outDir : String)
    (repetitions : Int) (clients : Option (List String) := none) : Plan where
  guard runDir := do
    if clients = none then freshGuard outDir runDir
    labelGuard outDir surveyPattern (selectedOr clients (candidates.map Prod.fst)) runDir
  inventory := some (candidateInventory host)
  jobs := .ok ((repetitionRange repetitions.toNat).flatMap fun repetition =>
    (selectedOr clients (candidates.map Prod.fst)).map fun client =>
      (surveySpec environ client repetition).map fun spec => {
        spec := spec
        evaluate := fun record runDir => evaluateV18 host environ record runDir client })

def e8Pattern (server : String) : String := s!"openssl_actual-client-e8_r*_{server}--botan.json"

def runE8 (host : String → Option Bytes) (environ : Dict String String) (outDir : String)
    (repetitions : Int) (selected : Option (List String) := none) : Plan where
  guard := labelGuard outDir e8Pattern (selectedOr selected e8Servers)
  inventory := some (candidateInventory host)
  jobs := .ok ((repetitionRange repetitions.toNat).flatMap fun repetition =>
    (selectedOr selected e8Servers).flatMap fun server =>
      e8Clients.map fun client =>
        (e8Spec environ server client repetition).map fun spec => {
          spec := spec
          evaluate := fun record runDir => evaluateV18 host environ record runDir client server })

/-- These are the fault types of the records of this version. -/
def classifiedFaults : List String := ["client-default-v18", "actual-client-e8"]

/-- This is `SERVER_SELECTION_TYPES.get(p.get("server"), "unknown")`. -/
def selectionType (server : Option Value) : Result String :=
  match server with
  | none => .ok "unknown"
  | some value => do
    match ← value.toKey with
    | .str name => .ok ((serverSelectionTypes.lookup name).getD "unknown")
    | _ => .ok "unknown"

/-- These are the class and the selection type that the stored lists and the server give. -/
def currentLabels (provenance : Dict String Value) : Result (String × String) := do
  let groups ← (← provenance.getItem "client_hello_groups" "client_hello_groups").texts
  let shares ← (← provenance.getItem "client_hello_key_shares" "client_hello_key_shares").texts
  let selection ← selectionType (provenance.get? "server")
  .ok (classify groups shares, selection)

/-- The stored labels are the given ones. -/
def hasLabels (provenance : Dict String Value) (labels : String × String) : Bool :=
  (provenance.get? "classification").any (Value.isText labels.1) &&
    (provenance.get? "server_selection_type").any (Value.isText labels.2)

def relabel (record : RunRecord) (labels : String × String) : RunRecord :=
  { record with
    provenance := ((record.provenance.set "classification" (.str labels.1)).set
      "classification_schema" (.str "v1.8-order-aware")).set
      "server_selection_type" (.str labels.2) }

/-- This is one round of the loop of `reclassify`. The state has the number of changed records. -/
def reclassifyFile (state : Nat × Directory) (name : String) : Result (Nat × Directory) :=
  if name = inventoryName then .ok state else do
  let record ← state.2.fromJson name
  if record.faultType ∉ classifiedFaults then .ok state else do
  let labels ← currentLabels record.provenance
  if hasLabels record.provenance labels then .ok state
  else .ok (state.1 + 1, state.2.toJsonPath (relabel record labels))

def reclassify (runDir : Directory) : Result (Nat × Directory) :=
  runDir.jsonPaths.foldlM reclassifyFile (0, runDir)

end FaultInject.V18
