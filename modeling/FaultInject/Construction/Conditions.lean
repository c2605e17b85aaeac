import FaultInject.Construction.Harness

namespace FaultInject.Conditions
open Python Harness

/-- The condition `base` puts the hybrid group first. -/
def clientGroups (impl condition : String) : Result String :=
  match impl, condition with
  | "openssl", "base" => .ok "X25519MLKEM768:X25519"
  | "openssl", "silent-downgrade" => .ok "X25519:X25519MLKEM768"
  | "boringssl", "base" => .ok "X25519Kyber768Draft00:X25519"
  | "boringssl", "silent-downgrade" => .ok "X25519:X25519Kyber768Draft00"
  | _, _ => .error (.keyError condition)

def ports (impl : String) : Result Nat :=
  match impl with
  | "openssl" => .ok 8543
  | "boringssl" => .ok 8544
  | "openssh" => .ok 2323
  | _ => .error (.keyError impl)

def advertisedHybridFor (condition : String) : Result Bool :=
  if condition ∈ ["base", "silent-downgrade", "ssh-order"] then .ok true
  else .error (.keyError condition)

/-- These are the commands of the server and of the client. -/
def conditionCommands (impl condition : String) (port : Nat) (paths : Dict String String) :
    Result (List String × List String) :=
  match impl with
  | "openssl" => do
    let opensslBin ← paths.getItem "openssl_bin" "openssl_bin"
    let cert ← paths.getItem "openssl_cert" "openssl_cert"
    let groups ← clientGroups "openssl" condition
    .ok (
      [opensslBin, "s_server", "-tls1_3", "-www", "-provider", "default", "-provider",
        "oqsprovider", "-accept", toString port, "-cert", cert, "-groups",
        "X25519MLKEM768:X25519"],
      [opensslBin, "s_client", "-tls1_3", "-state", "-msg", "-provider", "default", "-provider",
        "oqsprovider", "-connect", s!"127.0.0.1:{port}", "-groups", groups])
  | "boringssl" => do
    let bsslBin ← paths.getItem "bssl_bin" "bssl_bin"
    let cert ← paths.getItem "boring_cert" "boring_cert"
    let key ← paths.getItem "boring_key" "boring_key"
    let groups ← clientGroups "boringssl" condition
    .ok (
      [bsslBin, "server", "-accept", toString port, "-curves", "X25519Kyber768Draft00:X25519",
        "-min-version", "tls1.3", "-max-version", "tls1.3", "-cert", cert, "-key", key, "-loop"],
      [bsslBin, "client", "-connect", s!"127.0.0.1:{port}", "-min-version", "tls1.3",
        "-max-version", "tls1.3", "-curves", groups])
  | "openssh" => do
    let sshdBin ← paths.getItem "sshd_bin" "sshd_bin"
    let sshdConfig ← paths.getItem "sshd_config" "sshd_config"
    let sshBin ← paths.getItem "ssh_bin" "ssh_bin"
    let sshKey ← paths.getItem "ssh_key" "ssh_key"
    .ok (
      [sshdBin, "-D", "-e", "-f", sshdConfig, "-p", toString port, "-o",
        "PidFile=/tmp/pq-hybrid-phase3-sshd.pid", "-o",
        "KexAlgorithms=sntrup761x25519-sha512@openssh.com,curve25519-sha256"],
      [sshBin, "-vvv", "-o",
        "KexAlgorithms=sntrup761x25519-sha512@openssh.com,curve25519-sha256", "-p",
        toString port, "-i", sshKey, "-o", "StrictHostKeyChecking=no", "-o",
        "UserKnownHostsFile=/dev/null", "root@127.0.0.1", "true"])
  | _ => .error (.valueError s!"Unsupported implementation: {impl}")

def conditionSpec (impl condition : String) (rep : Int) (env paths : Dict String String) :
    Result ScenarioSpec := do
  let port ← ports impl
  let (serverCmd, clientCmd) ← conditionCommands impl condition port paths
  .ok {
    impl := impl
    faultType := "condition"
    repetition := rep
    condition := condition
    serverCmd := serverCmd
    clientCmd := clientCmd
    listenPort := port
    env := env
    captureTraffic := true }

end FaultInject.Conditions
