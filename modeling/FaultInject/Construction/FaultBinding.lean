import FaultInject.Construction.Harness
import FaultInject.Construction.SshKexinit
import FaultInject.Construction.TlsClientHello
import FaultInject.Python.Sha256

namespace FaultInject.FaultBinding
open Python Record Harness SshKexinit TlsClientHello

/-- A mutation writes this line, which ends with a newline. -/
def mutationLine (event groupId : String) (data forged : Bytes) : String :=
  s!"event={event} group_id={groupId} before_sha256={Sha256.hexdigest data} " ++
    s!"after_sha256={Sha256.hexdigest forged}"

/-- Both logged mutations differ only in their event. -/
def logMutation (event path groupId : String) (transform : Bytes → Result Bytes) : Mutator :=
  fun data runDir => do
    let result ← exceptValueError ((transform data).map some) (.ok none)
    match result with
    | none => .ok (data, runDir)
    | some forged =>
      if forged ≠ data then
        .ok (forged, Directory.appendText runDir path (mutationLine event groupId data forged ++ "\n"))
      else .ok (forged, runDir)

def loggedMutator (path groupId : String) (transform : Bytes → Result Bytes) : Mutator :=
  logMutation "binding_mutation" path groupId transform

/-- These are the values of one branch of `binding_spec`. -/
structure Binding where
  serverCmd : List String
  clientCmd : List String
  listenPort : Nat
  upstreamPort : Nat
  groupId : String
  transform : Bytes → Result Bytes

def binding (impl : String) (paths : Dict String String) : Result Binding :=
  match impl with
  | "openssl" => do
    let opensslBin ← paths.getItem "openssl_bin" "openssl_bin"
    let cert ← paths.getItem "openssl_cert" "openssl_cert"
    .ok {
      serverCmd := [opensslBin, "s_server", "-tls1_3", "-www", "-provider", "default", "-provider",
        "oqsprovider", "-accept", "8445", "-cert", cert, "-groups", "X25519MLKEM768"]
      clientCmd := [opensslBin, "s_client", "-tls1_3", "-state", "-provider", "default",
        "-provider", "oqsprovider", "-connect", "127.0.0.1:9443", "-groups", "X25519MLKEM768"]
      listenPort := 9443
      upstreamPort := 8445
      groupId := "0x11ec"
      transform := fun data => forgePqComponent data 0x11EC }
  | "boringssl" => do
    let bsslBin ← paths.getItem "bssl_bin" "bssl_bin"
    let cert ← paths.getItem "boring_cert" "boring_cert"
    let key ← paths.getItem "boring_key" "boring_key"
    .ok {
      serverCmd := [bsslBin, "server", "-accept", "8446", "-curves", "X25519Kyber768Draft00",
        "-min-version", "tls1.3", "-max-version", "tls1.3", "-cert", cert, "-key", key, "-loop"]
      clientCmd := [bsslBin, "client", "-connect", "127.0.0.1:9444", "-min-version", "tls1.3",
        "-max-version", "tls1.3", "-curves", "X25519Kyber768Draft00"]
      listenPort := 9444
      upstreamPort := 8446
      groupId := "0x6399"
      transform := fun data => forgePqComponent data 0x6399 }
  | "openssh" => do
    let sshdBin ← paths.getItem "sshd_bin" "sshd_bin"
    let sshdConfig ← paths.getItem "sshd_config" "sshd_config"
    let sshBin ← paths.getItem "ssh_bin" "ssh_bin"
    let sshKey ← paths.getItem "ssh_key" "ssh_key"
    .ok {
      serverCmd := [sshdBin, "-D", "-e", "-f", sshdConfig, "-p", "2224", "-o",
        "PidFile=/tmp/pq-hybrid-phase3-binding-sshd.pid"]
      clientCmd := [sshBin, "-vvv", "-o", "KexAlgorithms=sntrup761x25519-sha512@openssh.com", "-p",
        "2225", "-i", sshKey, "-o", "StrictHostKeyChecking=no", "-o",
        "UserKnownHostsFile=/dev/null", "root@127.0.0.1", "true"]
      listenPort := 2225
      upstreamPort := 2224
      groupId := "sntrup761x25519-sha512@openssh.com"
      transform := forgeSshPqComponent }
  | _ => .error (.valueError s!"Unsupported implementation: {impl}")

def bindingSpec (impl : String) (rep : Int) (env paths : Dict String String) :
    Result ScenarioSpec := do
  let identifier := runId impl "binding" rep "default"
  let proxyLog := s!"{identifier}-proxy.log"
  let values ← binding impl paths
  .ok {
    impl := impl
    faultType := "binding"
    repetition := rep
    condition := "default"
    serverCmd := values.serverCmd
    clientCmd := values.clientCmd
    listenPort := values.listenPort
    serverListenPort := some values.upstreamPort
    proxyUpstreamPort := some values.upstreamPort
    proxyMutate := some (loggedMutator proxyLog values.groupId values.transform)
    proxyLog := some proxyLog
    env := env
    captureTraffic := true }

end FaultInject.FaultBinding
