import FaultInject.Construction.Harness

namespace FaultInject.FaultGroupList
open Python Harness

/-- These are the flag and the value of the classical groups of a client. -/
def classical (impl : String) : Result (String × String) :=
  match impl with
  | "openssl" => .ok ("-groups", "X25519:P-256")
  | "boringssl" => .ok ("-curves", "X25519:P-256")
  | "openssh" => .ok ("-o", "KexAlgorithms=curve25519-sha256")
  | _ => .error (.keyError impl)

/-- These are the commands and the port of one branch of `group_list_spec`. -/
structure GroupList where
  serverCmd : List String
  clientCmd : List String
  listenPort : Nat

def groupList (impl flag value : String) (paths : Dict String String) : Result GroupList :=
  match impl with
  | "openssl" => do
    let opensslBin ← paths.getItem "openssl_bin" "openssl_bin"
    let cert ← paths.getItem "openssl_cert" "openssl_cert"
    .ok {
      serverCmd := [opensslBin, "s_server", "-tls1_3", "-www", "-provider", "default", "-provider",
        "oqsprovider", "-accept", "8443", "-cert", cert, "-groups", "X25519MLKEM768:X25519"]
      clientCmd := [opensslBin, "s_client", "-tls1_3", "-state", "-provider", "default",
        "-provider", "oqsprovider", "-connect", "127.0.0.1:8443", flag, value]
      listenPort := 8443 }
  | "boringssl" => do
    let bsslBin ← paths.getItem "bssl_bin" "bssl_bin"
    let cert ← paths.getItem "boring_cert" "boring_cert"
    let key ← paths.getItem "boring_key" "boring_key"
    .ok {
      serverCmd := [bsslBin, "server", "-accept", "8444", "-curves",
        "X25519Kyber768Draft00:X25519", "-min-version", "tls1.3", "-max-version", "tls1.3",
        "-cert", cert, "-key", key, "-loop"]
      clientCmd := [bsslBin, "client", "-connect", "127.0.0.1:8444", "-min-version", "tls1.3",
        "-max-version", "tls1.3", flag, value]
      listenPort := 8444 }
  | "openssh" => do
    let sshdBin ← paths.getItem "sshd_bin" "sshd_bin"
    let sshdConfig ← paths.getItem "sshd_config" "sshd_config"
    let sshBin ← paths.getItem "ssh_bin" "ssh_bin"
    let sshKey ← paths.getItem "ssh_key" "ssh_key"
    .ok {
      serverCmd := [sshdBin, "-D", "-e", "-f", sshdConfig, "-p", "2223", "-o",
        "PidFile=/tmp/pq-hybrid-phase3-sshd.pid", "-o",
        "KexAlgorithms=sntrup761x25519-sha512@openssh.com,curve25519-sha256"]
      clientCmd := [sshBin, "-vvv", flag, value, "-p", "2223", "-i", sshKey, "-o",
        "StrictHostKeyChecking=no", "-o", "UserKnownHostsFile=/dev/null", "root@127.0.0.1", "true"]
      listenPort := 2223 }
  | _ => .error (.valueError s!"Unsupported implementation: {impl}")

def groupListSpec (impl : String) (rep : Int) (env paths : Dict String String) :
    Result ScenarioSpec := do
  let (flag, value) ← classical impl
  let values ← groupList impl flag value paths
  .ok {
    impl := impl
    faultType := "group-list"
    repetition := rep
    condition := "default"
    serverCmd := values.serverCmd
    clientCmd := values.clientCmd
    listenPort := values.listenPort
    env := env
    captureTraffic := true }

end FaultInject.FaultGroupList
