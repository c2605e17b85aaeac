import FaultInject.Construction.Analyze
import FaultInject.Construction.Conditions
import FaultInject.Construction.FaultBinding
import FaultInject.Construction.FaultGroupList
import FaultInject.Construction.VerifyApplied

namespace FaultInject.Run
open Python Record Harness Conditions FaultBinding VerifyApplied SshKexinit TlsClientHello
open FaultGroupList
open Analyze (repetitionRange)

def phase2Root : String := "/root/pq-hybrid-phase2"

def phase2Paths : Dict String String := .ofEntries [
  ("openssl_bin", s!"{phase2Root}/install/openssl/bin/openssl"),
  ("openssl_cert", s!"{phase2Root}/openssl/apps/server.pem"),
  ("bssl_bin", s!"{phase2Root}/build/boringssl/tool/bssl"),
  ("boring_cert", s!"{phase2Root}/boring-cert.pem"),
  ("boring_key", s!"{phase2Root}/boring-key.pem"),
  ("ssh_bin", s!"{phase2Root}/openssh/ssh"),
  ("sshd_bin", s!"{phase2Root}/openssh/sshd"),
  ("sshd_config", s!"{phase2Root}/openssh-run/sshd_config"),
  ("ssh_key", s!"{phase2Root}/openssh-run/client_ed25519")]

/-- The argument is `os.environ`. -/
def phase2Environment (environ : Dict String String) : Dict String String :=
  let opensslLib := s!"{phase2Root}/install/openssl/lib64"
  let liboqsLib := s!"{phase2Root}/install/liboqs/lib"
  let existing := (environ.get? "LD_LIBRARY_PATH").getD ""
  let libraries := [opensslLib, liboqsLib, existing].filter (· ≠ "")
  (environ.set "LD_LIBRARY_PATH" (join ':' libraries)).set
    "OPENSSL_MODULES" s!"{opensslLib}/ossl-modules"

/-- This is `("openssl", "boringssl", "openssh")`. -/
def implementations : List String := ["openssl", "boringssl", "openssh"]

def batchSpecs (repetitions : Int) (environ : Dict String String) : Result (List ScenarioSpec) :=
  let environment := phase2Environment environ
  ((repetitionRange repetitions.toNat).flatMap fun rep =>
    implementations.flatMap fun impl =>
      [groupListSpec impl rep environment phase2Paths,
        bindingSpec impl rep environment phase2Paths]).mapM id

/-- These are the values of an implementation in `_strip_spec`. -/
structure Strip where
  proxyPort : Nat
  /-- This is the group in the log line. -/
  groupId : String
  transform : Bytes → Result Bytes

def strip (impl : String) : Result Strip :=
  match impl with
  | "openssl" => .ok ⟨9543, s!"0x{formatHex 4 0x11EC}", fun data => stripHybrid data 0x11EC⟩
  | "boringssl" => .ok ⟨9544, s!"0x{formatHex 4 0x6399}", fun data => stripHybrid data 0x6399⟩
  | "openssh" => .ok ⟨9555, "sntrup761x25519-sha512@openssh.com", fun data =>
      stripKexinitAlgorithm data "sntrup761x25519-sha512@openssh.com"⟩
  | _ => .error (.keyError impl)

/-- The client connects to the proxy instead of the server. -/
def redirect (listenPort proxyPort : Nat) (value : String) : String :=
  if value = s!"127.0.0.1:{listenPort}" then s!"127.0.0.1:{proxyPort}"
  else if value = toString listenPort then toString proxyPort
  else value

/-- This is the nested function `mutate` of `_strip_spec`. -/
def stripMutate (path groupId : String) (transform : Bytes → Result Bytes) : Mutator :=
  logMutation "strip_mutation" path groupId transform

def stripSpec (impl : String) (repetition : Int) (environment paths : Dict String String) :
    Result ScenarioSpec := do
  let base ← conditionSpec impl "base" repetition environment paths
  let values ← strip impl
  let proxyLog := s!"{impl}_condition_r{formatDecimal 2 repetition}_onpath-strip-proxy.log"
  .ok { base with
    condition := "onpath-strip"
    clientCmd := base.clientCmd.map (redirect base.listenPort values.proxyPort)
    listenPort := values.proxyPort
    serverListenPort := some base.listenPort
    proxyUpstreamPort := some base.listenPort
    proxyMutate := some (stripMutate proxyLog values.groupId values.transform)
    proxyLog := some proxyLog
    advertisedHybrid := some true }

/-- The condition is advertised as the table of the conditions says. -/
def advertisedSpec (impl condition : String) (repetition : Int)
    (environment paths : Dict String String) : Result ScenarioSpec := do
  let spec ← conditionSpec impl condition repetition environment paths
  let advertised ← advertisedHybridFor condition
  .ok { spec with advertisedHybrid := some advertised }

def v11Specs (repetitions : Int) (environ : Dict String String) : Result (List ScenarioSpec) :=
  let environment := phase2Environment environ
  let advertised (impl : String) (repetition : Int) (condition : String) :=
    advertisedSpec impl condition repetition environment phase2Paths
  ((repetitionRange repetitions.toNat).flatMap fun repetition =>
    (["openssl", "boringssl"].flatMap fun impl =>
      ["base", "silent-downgrade"].map (advertised impl repetition) ++
        [stripSpec impl repetition environment phase2Paths]) ++
    ["base", "ssh-order"].map (advertised "openssh" repetition) ++
      [stripSpec "openssh" repetition environment phase2Paths]).mapM id

/-- This is the last part of the name of a baseline. -/
def baselineName (implementation : String) : Result String :=
  match implementation with
  | "openssl" => .ok "openssl-67b5686b-baseline"
  | "boringssl" => .ok "boringssl-7fb4d3da-baseline"
  | "openssh" => .ok "openssh-d01efaa1-baseline"
  | _ => .error (.keyError implementation)

/-- This is the value of `verified` in `verify_record`. -/
def verified (evidence : Evidence) (record : RunRecord) (outputDir : Directory) : Result Bool :=
  if record.faultType = "condition" then verifyCondition evidence record outputDir
  else if record.faultType = "binding" then do
    let proxyLog ← record.artifacts.getItem "proxy_log" "proxy_log"
    verifyBinding (outputDir.file proxyLog)
  else if record.implementation = "openssh" then do
    let baseline ← baselineName "openssh"
    let clientLog ← record.artifacts.getItem "client_log" "client_log"
    let baselineLog := s!"{baseline}-client.log"
    verifySshGroupList (outputDir.file clientLog)
      (match evidence.baseline baselineLog with
        | some file => .ok file
        | none => .error (.fileNotFoundError baselineLog))
  else do
    let baseline ← baselineName record.implementation
    let pcap ← record.artifacts.getItem "pcap" "pcap"
    verifyGroupList evidence (outputDir.get? pcap) (evidence.baseline s!"{baseline}.pcapng")

def verifyRecord (evidence : Evidence) (record : RunRecord) (outputDir : Directory) :
    Result (RunRecord × Directory) := do
  let verified ← verified evidence record outputDir
  let marked := mark record verified
  .ok (marked, outputDir.toJsonPath marked)

/-- This is one item `verify_record(run_scenario(spec), out_dir)` of the batches. -/
def runVerified (evidence : Evidence) (spec : ScenarioSpec) (outcome : Outcome)
    (outDir : Directory) : Option (Result (RunRecord × Directory)) :=
  (runScenario spec outcome outDir).map fun result =>
    result >>= fun (record, outDir) => verifyRecord evidence record outDir

end FaultInject.Run
