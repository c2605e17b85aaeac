import FaultInject.Construction.V12

namespace FaultInject.V15
open Python Record Harness PcapHello FaultInject.Matrix V12
open Analyze (repetitionRange)

def pem : String := s!"{phase2Root}/openssl/apps/server.pem"

/-- This is the constant `V15`. -/
def v15Root : String := s!"{phase2Root}/v15"

def opensslServer : String := s!"{phase2Root}/install/openssl-3.5.6/bin/openssl"

def clientBin : String := s!"{phase2Root}/install/openssl/bin/openssl"

/-- The argument is `os.environ`. -/
def bssl (environ : Dict String String) : String :=
  (environ.get? "FAULTINJECT_V15_BSSL").getD s!"{phase2Root}/build/boringssl/tool/bssl"

/-- A client has a group list and the groups and shares that it should send. -/
structure Client where
  groups : String
  expectedGroups : List Nat
  expectedShares : List Nat

def clients : List (String × Client) :=
  [("C1", ⟨"X25519MLKEM768:X25519", [0x11EC, 0x001D], [0x11EC]⟩),
    ("C2", ⟨"X25519MLKEM768:*X25519", [0x11EC, 0x001D], [0x001D]⟩),
    ("C3", ⟨"X25519:X25519MLKEM768", [0x001D, 0x11EC], [0x001D]⟩)]

/-- This is `_OPENSSL`. -/
def openssl : List String :=
  [opensslServer, "s_server", "-tls1_3", "-www", "-provider", "default", "-accept",
    toString v12Port, "-cert", pem]

def servers (environ : Dict String String) : List (String × List String) :=
  [("openssl-S1", openssl ++ ["-groups", "X25519MLKEM768:X25519"]),
    ("openssl-S2", openssl ++ ["-groups", "X25519MLKEM768/X25519"]),
    ("openssl-S1-serverpref",
      openssl ++ ["-groups", "X25519MLKEM768:X25519", "-serverpref"]),
    ("boringssl", [bssl environ, "server", "-accept", toString v12Port, "-key", pem,
      "-min-version", "tls1.3", "-max-version", "tls1.3", "-curves", "X25519MLKEM768:X25519",
      "-loop"]),
    ("go", [s!"{v15Root}/goserver", "-addr", s!"127.0.0.1:{v12Port}", "-pem", pem, "-groups",
      "X25519MLKEM768,X25519"]),
    ("nss", ["selfserv", "-d", s!"sql:{v15Root}/nssdb", "-n", "server", "-p", toString v12Port,
      "-V", "tls1.3:tls1.3", "-I", "x25519mlkem768,x25519"]),
    ("rustls", [s!"{v15Root}/rustserver", toString v12Port, pem, "X25519MLKEM768,X25519"])]

/-- These variables select a library. -/
def libraryVariables : List String := ["LD_LIBRARY_PATH", "OPENSSL_CONF", "OPENSSL_MODULES"]

/-- This is `_server_env`. -/
def serverEnvironment (environ : Dict String String) (server : String) :
    Result (Dict String String) :=
  if "openssl".toList.isPrefixOf server.toList then nativeEnvironment "3.5.6" environ
  else .ok (environ.without libraryVariables)

/-- This is the client command with a group list. -/
def clientCommand (groups : String) : List String :=
  [clientBin, "s_client", "-tls1_3", "-state", "-msg", "-provider", "default", "-connect",
    s!"127.0.0.1:{v12Port}", "-groups", groups]

def v15Spec (environ : Dict String String) (server client : String) (repetition : Int) :
    Result ScenarioSpec := do
  let values ← Dict.item clients client
  let serverCmd ← Dict.item (servers environ) server
  let env ← nativeEnvironment "3.5.5" environ
  let serverEnv ← serverEnvironment environ server
  .ok {
    impl := "openssl"
    faultType := "negotiation-function"
    repetition := repetition
    condition := s!"{server}-{client}"
    serverCmd := serverCmd
    clientCmd := clientCommand values.groups
    listenPort := v12Port
    env := env
    captureTraffic := true
    advertisedHybrid := some true
    serverEnv := some serverEnv }

/-- This is `selected or tuple(table)`. -/
def selectedOr (selected : Option (List String)) (names : List String) : List String :=
  match selected with
  | some (name :: rest) => name :: rest
  | _ => names

def v15Specs (environ : Dict String String) (repetitions : Int)
    (selected : Option (List String) := none) : Result (List ScenarioSpec) :=
  ((repetitionRange repetitions.toNat).flatMap fun rep =>
    (selectedOr selected ((servers environ).map Prod.fst)).flatMap fun server =>
      (clients.map Prod.fst).map fun client => v15Spec environ server client rep).mapM id

def clientPreconditionV15 (summary : HelloSummary) (client : String) : Result Bool :=
  match summary.clientHellos with
  | [] => .ok false
  | (groups, shares) :: _ => do
    let expected ← Dict.item clients client
    .ok (groups == expected.expectedGroups && shares == expected.expectedShares)

/-- This is the branch of `evaluate_v15` on the capture. -/
def captureMetricsV15 (metrics : Metrics) (client : String) : Option File → Result Metrics
  | some pcap =>
    if pcap.size > 0 then do
      let summary ← summarizeHellos pcap.readBytes
      let verified ← clientPreconditionV15 summary client
      .ok { metrics with
        hrrPcapPresent := some (decide (summary.hrrCount > 0))
        serverHelloCount := some summary.serverHelloCount
        finalNegotiatedGroup := groupName summary.finalGroup
        clientPreconditionVerified := some verified }
    else .ok { metrics with clientPreconditionVerified := some false }
  | none => .ok { metrics with clientPreconditionVerified := some false }

/-- This is `command[0]`. -/
def firstArgument (command : List String) : Result String :=
  match command with
  | argument :: _ => .ok argument
  | [] => .error (.indexError "list index out of range")

def evaluateV15 (host : String → Option Bytes) (environ : Dict String String)
    (record : RunRecord) (runDir : Directory) (server client : String) :
    Result (RunRecord × Directory) := do
  let metrics ← captureMetricsV15 record.metrics client (runDir.artifactFile record "pcap")
  let completed := (runDir.artifactFile record "client_log").any fun clientLog =>
    isIn "New, TLSv1.3" clientLog.readTextReplace
  let metrics := { metrics with
    downgradeFlagged := none
    detail := if completed then "handshake-completed" else "handshake-incomplete" }
  let serverCmd ← Dict.item (servers environ) server
  let values ← Dict.item clients client
  let serverBin ← firstArgument serverCmd
  let evaluated := { record with
    metrics := metrics
    manipulationVerified := metrics.clientPreconditionVerified == some true
    provenance := .ofEntries [
      ("server", .str server),
      ("client", .str client),
      ("server_cmd", .list (serverCmd.map .str)),
      ("client_groups_arg", .str values.groups),
      ("server_bin_sha256", .optionStr (sha256File host serverBin))] }
  .ok (evaluated, runDir.toJsonPath evaluated)

def runV15 (host : String → Option Bytes) (environ : Dict String String) (outDir : String)
    (repetitions : Int) (selected : Option (List String) := none) : Plan where
  guard := freshGuard outDir
  inventory := none
  jobs := (v15Specs environ repetitions selected).map fun specs => specs.map fun spec => .ok {
    spec := spec
    evaluate := fun record runDir => do
      let (server, client) ← splitCondition spec.condition
      evaluateV15 host environ record runDir server client }

end FaultInject.V15
