import FaultInject.Construction.Analyze
import FaultInject.Construction.Audit
import FaultInject.Construction.Matrix
import FaultInject.Construction.PcapHello
import FaultInject.Python.Sha256

namespace FaultInject.V12
open Python Record Harness Audit PcapHello FaultInject.Matrix
open Analyze (repetitionRange)

def phase2Root : String := "/root/pq-hybrid-phase2"

def v12Port : Nat := 8545

def clientGroups : String := "X25519:X25519MLKEM768"

def serverVersions : List String := ["3.5.5", "3.5.6"]

def serverSettings : List (String × Option String) :=
  [("S1", some "X25519MLKEM768:X25519"),
    ("S2", some "X25519MLKEM768/X25519"),
    ("S3", some "DEFAULT"),
    ("S4", none)]

def requiredSettings : List String := ["S1", "S2", "S3"]

def variantServers : List String := ["3.5.5-cherrypick", "3.5.6-revert", "3.6.1", "3.6.2"]

def v36VariantServers : List String := ["3.6.1-cherrypick", "3.6.2-revert"]

/-- This is `_PREFIX`. -/
def prefixes : List (String × String) :=
  [("3.5.5", s!"{phase2Root}/install/openssl"),
    ("3.5.6", s!"{phase2Root}/install/openssl-3.5.6")] ++
  (variantServers ++ v36VariantServers).map fun variant =>
    (variant, s!"{phase2Root}/install/openssl-{variant}")

def v12Paths (versions : List String) : Result (Dict String String) := do
  let clientPrefix ← Dict.item prefixes "3.5.5"
  let servers ← versions.mapM fun version => do
    let serverPrefix ← Dict.item prefixes version
    .ok (s!"server_bin_{version}", s!"{serverPrefix}/bin/openssl")
  .ok (.ofEntries ([("client_bin", s!"{clientPrefix}/bin/openssl")] ++ servers ++
    [("cert", s!"{phase2Root}/openssl/apps/server.pem")]))

/-- The argument `base` is `os.environ` unless it is given. -/
def nativeEnvironment (version : String) (base : Dict String String) :
    Result (Dict String String) := do
  let serverPrefix ← Dict.item prefixes version
  .ok (((base.without ["OPENSSL_MODULES"]).set "LD_LIBRARY_PATH" s!"{serverPrefix}/lib64").set
    "OPENSSL_CONF" "/dev/null")

def v12Spec (environ : Dict String String) (version setting : String) (repetition : Int)
    (paths : Dict String String) (clientGroups : String) : Result ScenarioSpec := do
  let groups ← Dict.item serverSettings setting
  let serverBin ← paths.getItem s!"server_bin_{version}" s!"server_bin_{version}"
  let cert ← paths.getItem "cert" "cert"
  let clientBin ← paths.getItem "client_bin" "client_bin"
  let env ← nativeEnvironment "3.5.5" environ
  let serverEnv ← nativeEnvironment version environ
  .ok {
    impl := "openssl"
    faultType := "server-setting"
    repetition := repetition
    condition := s!"{version}-{setting}"
    serverCmd := [serverBin, "s_server", "-tls1_3", "-www", "-provider", "default", "-accept",
      toString v12Port, "-cert", cert] ++
      (groups.toList.filter (· ≠ "")).flatMap fun groups => ["-groups", groups]
    clientCmd := [clientBin, "s_client", "-tls1_3", "-state", "-msg", "-provider", "default",
      "-connect", s!"127.0.0.1:{v12Port}", "-groups", clientGroups]
    listenPort := v12Port
    env := env
    captureTraffic := true
    advertisedHybrid := some true
    serverEnv := some serverEnv }

/-- This is `paths or v12_paths(versions)`. -/
def pathsOr (paths : Option (Dict String String)) (versions : List String) :
    Result (Dict String String) :=
  match paths with
  | some paths => if paths.entries.isEmpty then v12Paths versions else .ok paths
  | none => v12Paths versions

def v12Specs (environ : Dict String String) (repetitions : Int)
    (settings : List String := requiredSettings) (paths : Option (Dict String String) := none)
    (versions : List String := serverVersions) (groups : String := clientGroups) :
    Result (List ScenarioSpec) := do
  let paths ← pathsOr paths versions
  ((repetitionRange repetitions.toNat).flatMap fun repetition =>
    versions.flatMap fun version =>
      settings.map fun setting =>
        v12Spec environ version setting repetition paths groups).mapM id

/-- The argument is the content of the regular files of the host. -/
def sha256File (host : String → Option Bytes) (path : String) : Option String :=
  (host path).map Sha256.hexdigest

/-- This is `Path(path).parents[1] / "lib64/libssl.so.3"`. -/
def libsslPath (serverBin : String) : String :=
  let directory := join '/' (split serverBin '/').dropLast.dropLast
  s!"{directory}/lib64/libssl.so.3"

/-- These are the hashes that `run_v12` computes before its scenarios. -/
def hashesV12 (host : String → Option Bytes) (paths : Dict String String)
    (versions : List String) : Result (Dict String (Option String)) := do
  let libraries ← versions.mapM fun version => do
    let serverBin ← paths.getItem s!"server_bin_{version}" s!"server_bin_{version}"
    .ok (s!"server_lib_{version}", sha256File host (libsslPath serverBin))
  .ok (.ofEntries (((paths.entries.filter fun entry => entry.1 ≠ "cert").map fun entry =>
    (entry.1, sha256File host entry.2)) ++ libraries))

/-- This is `version, setting = condition.rsplit("-", 1)`. -/
def splitCondition (condition : String) : Result (String × String) :=
  match (split condition '-').reverse with
  | setting :: first :: rest => .ok (join '-' (first :: rest).reverse, setting)
  | _ => .error (.valueError "not enough values to unpack (expected 2, got 1)")

/-- These are the kept variables of an environment. -/
def keptEnvironment (environment : Dict String String) : Value :=
  .object (["LD_LIBRARY_PATH", "OPENSSL_CONF", "OPENSSL_MODULES"].map fun key =>
    (key, .optionStr (environment.get? key)))

/-- This is `SERVER_SETTINGS[setting] or "(omitted)"`. -/
def groupsArgument (setting : String) : Result String :=
  match serverSettings.lookup setting with
  | some (some groups) => .ok (if groups = "" then "(omitted)" else groups)
  | some none => .ok "(omitted)"
  | none => .error (.keyError setting)

/-- This is `command[-1]`. -/
def lastArgument (command : List String) : Result String :=
  match command.getLast? with
  | some argument => .ok argument
  | none => .error (.indexError "list index out of range")

/-- These are the kept variables of an environment that can be missing. -/
def keptOptionalEnvironment : Option (Dict String String) → Result Value
  | some environment => .ok (keptEnvironment environment)
  | none => .error (.attributeError "'NoneType' object has no attribute 'get'")

def provenanceFor (spec : ScenarioSpec) (paths : Dict String String)
    (hashes : Dict String (Option String)) : Result (Dict String Value) := do
  let (version, setting) ← splitCondition spec.condition
  let groupsArg ← groupsArgument setting
  let serverBin ← paths.getItem s!"server_bin_{version}" s!"server_bin_{version}"
  let clientBin ← paths.getItem "client_bin" "client_bin"
  let clientGroups ← lastArgument spec.clientCmd
  let serverEnv ← keptOptionalEnvironment spec.serverEnv
  let hash (key : String) : Value := .optionStr (hashes.get? key).join
  .ok ([("server_version", Value.str version),
    ("server_setting", .str setting),
    ("server_groups_arg", .str groupsArg),
    ("server_bin", .str serverBin),
    ("server_bin_sha256", hash s!"server_bin_{version}"),
    ("server_libssl_sha256", hash s!"server_lib_{version}"),
    ("client_bin", .str clientBin),
    ("client_bin_sha256", hash "client_bin"),
    ("client_groups_arg", .str clientGroups),
    ("server_preference",
      .str "OpenSSL default (client preference; -serverpref not set)"),
    ("server_env", serverEnv),
    ("client_env", keptEnvironment spec.env),
    ("server_cmd", .list (spec.serverCmd.map .str)),
    ("client_cmd", .list (spec.clientCmd.map .str))].foldl
      (fun provenance entry => provenance.set entry.1 entry.2) .empty)

/-- This is the nonempty capture file of the record. -/
def captureBytes (record : RunRecord) (runDir : Directory) : Option Bytes :=
  match record.artifacts.get? "pcap" with
  | some name =>
    if name = "" then none
    else match runDir.get? name with
      | some file => if file.size > 0 then some file.readBytes else none
      | none => none
  | none => none

/-- This is the branch of `evaluate_v12` on the capture. -/
def captureMetrics (metrics : Metrics) : Option Bytes → Result Metrics
  | some pcap => do
    let summary ← summarizeHellos pcap
    .ok { metrics with
      hrrPcapPresent := some (decide (summary.hrrCount > 0))
      serverHelloCount := some summary.serverHelloCount
      finalNegotiatedGroup := groupName summary.finalGroup
      clientPreconditionVerified := some (clientPrecondition summary) }
  | none =>
    .ok { metrics with
      hrrPcapPresent := none
      serverHelloCount := none
      finalNegotiatedGroup := none
      clientPreconditionVerified := some false }

/-- The result holds the evaluated record and the run directory with its JSON form. -/
def evaluateV12 (search : Search) (tsharkSummary : String → Option String) (record : RunRecord)
    (runDir : Directory) (provenance : Dict String Value) : Result (RunRecord × Directory) := do
  let metrics ← captureMetrics record.metrics (captureBytes record runDir)
  let clientLogName ← record.artifacts.getItem "client_log" "client_log"
  let metrics := { metrics with
    hrrLogPresent := (runDir.get? clientLogName).map fun clientLog =>
      detectHrr clientLog.readTextReplace
    downgradeFlagged := none }
  let evaluated := { record with
    metrics := metrics
    manipulationVerified := metrics.clientPreconditionVerified == some true
    provenance := provenance
    audit := auditRecord search tsharkSummary record runDir }
  .ok (evaluated, runDir.toJsonPath evaluated)

/-- The programs of the host answer the searches of the audit. -/
def runV12 (host : String → Option Bytes) (search : Search)
    (tsharkSummary : String → Option String) (environ : Dict String String) (outDir : String)
    (repetitions : Int) (settings : List String := requiredSettings)
    (versions : List String := serverVersions) (groups : String := clientGroups) : Plan where
  guard := freshGuard outDir
  inventory := none
  jobs := do
    let paths ← v12Paths versions
    let hashes ← hashesV12 host paths versions
    let specs ← v12Specs environ repetitions settings (some paths) versions groups
    .ok (specs.map fun spec => .ok {
      spec := spec
      evaluate := fun record runDir => do
        let provenance ← provenanceFor spec paths hashes
        evaluateV12 search tsharkSummary record runDir provenance })

end FaultInject.V12
