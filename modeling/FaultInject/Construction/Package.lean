import FaultInject.Construction.Harness

/-
This file models the packages of the final evidence. A repository is a directory whose paths are
relative to its root.
-/

namespace FaultInject.ReproPackage
open Python Harness

def rawV11Dir : String := "docs/research/baselines/raw/v1.1"

def faultinjectDir : String := "tools/faultinject"

def reproductionMd : String := "docs/research/REPRODUCTION.md"

def paperMd : String := "docs/PAPER.md"

def evidenceMd : String := "docs/EVIDENCE.md"

def requiredFiles : List String :=
  [s!"{faultinjectDir}/run.py", s!"{faultinjectDir}/aggregate.py", s!"{faultinjectDir}/analyze.py",
    reproductionMd, paperMd, evidenceMd]

/-- Each entry has the label of some artifacts, their suffix and their least number. -/
def requiredArtifacts : List (String × String × Nat) :=
  [("v1.1 JSON records", ".json", 90), ("v1.1 PCAPs", ".pcapng", 90),
    ("v1.1 client logs", "-client.log", 90), ("v1.1 capture logs", "-capture.log", 90),
    ("v1.1 proxy logs", "-proxy.log", 30)]

/-- An entry of the extra artifacts names their directory behind the label. -/
structure Package where
  raw : String
  extraRaw : List String := []
  documents : List String
  requiredFiles : List String
  artifacts : List (String × String × Nat)
  extraArtifacts : List (String × String × String × Nat) := []
  excluded : List String
  out : String
  extraGlobs : List String := []

def v11Package : Package where
  raw := rawV11Dir
  documents := [reproductionMd, paperMd, evidenceMd]
  requiredFiles := requiredFiles
  artifacts := requiredArtifacts
  excluded := ["v1.1-diagnose", "v1.1-pre-", "v1.1-preflight"]
  out := "dist/pq-hybrid-downgrade-v11-repro.zip"

def v12Package : Package where
  raw := "docs/research/baselines/raw/v1.2"
  documents := [reproductionMd, paperMd, evidenceMd, "tools/v12_a0_smoke.sh",
    "tools/v12_build_openssl_356.sh", "tools/v12_boringssl_survey.sh"]
  requiredFiles := [s!"{faultinjectDir}/v12.py", s!"{faultinjectDir}/pcap_hello.py",
    s!"{faultinjectDir}/audit.py", s!"{faultinjectDir}/analyze.py", reproductionMd, paperMd,
    evidenceMd]
  artifacts := [("v1.2 JSON records", ".json", 60), ("v1.2 PCAPs", ".pcapng", 60),
    ("v1.2 client logs", "-client.log", 60), ("v1.2 server logs", "-server.log", 60),
    ("v1.2 capture logs", "-capture.log", 60)]
  excluded := ["v1.2-s4", "v12-smoke", "/raw/v1.1/"]
  out := "dist/pq-hybrid-downgrade-v12-repro.zip"
  extraGlobs := [s!"{faultinjectDir}/tests/*.py"]

def v13Package : Package where
  raw := "docs/research/baselines/raw/v1.3"
  documents := [reproductionMd, paperMd, evidenceMd, "tools/v12_build_openssl_356.sh",
    "tools/v13_build_variants.sh", "docs/research/baselines/raw/v1.3-build.log"]
  requiredFiles := [s!"{faultinjectDir}/v12.py", s!"{faultinjectDir}/pcap_hello.py",
    s!"{faultinjectDir}/analyze.py", "tools/v13_build_variants.sh", reproductionMd, paperMd,
    evidenceMd]
  artifacts := [("v1.3 JSON records", ".json", 120), ("v1.3 PCAPs", ".pcapng", 120),
    ("v1.3 client logs", "-client.log", 120), ("v1.3 server logs", "-server.log", 120),
    ("v1.3 capture logs", "-capture.log", 120)]
  excluded := ["v13-smoke", "/raw/v1.1/", "/raw/v1.2/"]
  out := "dist/pq-hybrid-downgrade-v13-repro.zip"
  extraGlobs := [s!"{faultinjectDir}/tests/*.py"]

def v14Package : Package where
  raw := "docs/research/baselines/raw/v1.4"
  documents := [reproductionMd, paperMd, evidenceMd]
  requiredFiles := [s!"{faultinjectDir}/v12.py", s!"{faultinjectDir}/pcap_hello.py",
    s!"{faultinjectDir}/analyze.py", reproductionMd, paperMd, evidenceMd]
  artifacts := [("v1.4 JSON records", ".json", 60), ("v1.4 PCAPs", ".pcapng", 60),
    ("v1.4 client logs", "-client.log", 60), ("v1.4 server logs", "-server.log", 60),
    ("v1.4 capture logs", "-capture.log", 60)]
  excluded := ["v14-smoke", "/raw/v1.1/", "/raw/v1.2/", "/raw/v1.3/"]
  out := "dist/pq-hybrid-downgrade-v14-repro.zip"
  extraGlobs := [s!"{faultinjectDir}/tests/*.py"]

def v15Package : Package where
  raw := "docs/research/baselines/raw/v1.5"
  documents := [reproductionMd, paperMd, evidenceMd, "tools/v15_setup.sh",
    "tools/v15/goserver/main.go", "tools/v15/goserver/go.mod", "tools/v15/rustserver/Cargo.toml",
    "tools/v15/rustserver/Cargo.lock", "tools/v15/rustserver/src/main.rs",
    "docs/research/baselines/raw/v1.5-setup.log"]
  requiredFiles := [s!"{faultinjectDir}/v15.py", s!"{faultinjectDir}/pcap_hello.py",
    "tools/v15_setup.sh", reproductionMd, paperMd, evidenceMd]
  artifacts := [("v1.5 JSON records", ".json", 105), ("v1.5 PCAPs", ".pcapng", 105),
    ("v1.5 client logs", "-client.log", 105), ("v1.5 server logs", "-server.log", 105),
    ("v1.5 capture logs", "-capture.log", 105)]
  excluded := ["v15-smoke", "/raw/v1.1/", "/raw/v1.2/", "/raw/v1.3/", "/raw/v1.4/"]
  out := "dist/pq-hybrid-downgrade-v15-repro.zip"
  extraGlobs := [s!"{faultinjectDir}/tests/*.py"]

def v16Package : Package where
  raw := "docs/research/baselines/raw/v1.6"
  extraRaw := ["docs/research/baselines/raw/v1.5-boringssl-latest",
    "docs/research/baselines/raw/v1.6-direct", "docs/research/baselines/raw/v1.6-caddy-2.11.4"]
  documents := [reproductionMd, paperMd, evidenceMd, "tools/v16_setup.sh",
    "tools/v15/goclient/main.go", "tools/v15/goclient/go.mod", "tools/v15/rustserver/Cargo.toml",
    "tools/v15/rustserver/Cargo.lock", "tools/v15/rustserver/src/bin/client.rs",
    "docs/research/baselines/raw/v1.6-setup.log",
    "docs/research/baselines/raw/nss-ubuntu-patches-20260929.log",
    "tools/v15_build_boringssl_latest.sh", "tools/v15_run_boringssl_latest.sh",
    "tools/v16_run_direct_defaults.sh", "tools/v16_run_caddy_2114.sh"]
  requiredFiles := [s!"{faultinjectDir}/v16.py", s!"{faultinjectDir}/v15.py",
    s!"{faultinjectDir}/pcap_hello.py", "tools/v16_setup.sh",
    "tools/v15_build_boringssl_latest.sh", "tools/v15_run_boringssl_latest.sh",
    "tools/v16_run_direct_defaults.sh", "tools/v16_run_caddy_2114.sh",
    "docs/research/baselines/raw/nss-ubuntu-patches-20260929.log", reproductionMd, paperMd,
    evidenceMd]
  artifacts := [("v1.6 JSON records", ".json", 36), ("v1.6 PCAPs", ".pcapng", 36),
    ("v1.6 client logs", "-client.log", 36), ("v1.6 server logs", "-server.log", 36),
    ("v1.6 capture logs", "-capture.log", 36)]
  extraArtifacts := [
    ("latest BoringSSL JSON records", "docs/research/baselines/raw/v1.5-boringssl-latest", ".json", 9),
    ("direct matrix JSON records", "docs/research/baselines/raw/v1.6-direct", ".json", 36),
    ("latest Caddy JSON records", "docs/research/baselines/raw/v1.6-caddy-2.11.4", ".json", 36)]
  excluded := ["v16-smoke", "/raw/v1.1/", "/raw/v1.2/", "/raw/v1.3/", "/raw/v1.4/", "/raw/v1.5/"]
  out := "dist/pq-hybrid-downgrade-v16-repro.zip"
  extraGlobs := [s!"{faultinjectDir}/tests/*.py"]

def v17Package : Package where
  raw := "docs/research/baselines/raw/v1.7"
  extraRaw := ["docs/research/baselines/raw/v1.7-openssl36"]
  documents := [reproductionMd, paperMd, evidenceMd, "tools/v17_setup.sh",
    "tools/v13_build_variants.sh", "docs/research/baselines/raw/v1.7-setup.log",
    "docs/research/baselines/raw/v1.7-build36.log", "docs/research/baselines/raw/v1.7-ldd36.log",
    "docs/research/baselines/raw/v1.7-tshark-version.log",
    "docs/research/baselines/raw/v1.7-tshark-verbose-audit.json"]
  requiredFiles := [s!"{faultinjectDir}/v17.py", s!"{faultinjectDir}/v16.py",
    s!"{faultinjectDir}/v12.py", s!"{faultinjectDir}/analyze.py", "tools/v17_setup.sh",
    "tools/v13_build_variants.sh", "docs/research/baselines/raw/v1.7-tshark-verbose-audit.json",
    reproductionMd, paperMd, evidenceMd]
  artifacts := [("v1.7 JSON records", ".json", 15), ("v1.7 PCAPs", ".pcapng", 15),
    ("v1.7 client logs", "-client.log", 15), ("v1.7 server logs", "-server.log", 15),
    ("v1.7 capture logs", "-capture.log", 15)]
  extraArtifacts := [
    ("OpenSSL 3.6 causal-isolation JSON records", "docs/research/baselines/raw/v1.7-openssl36", ".json", 60),
    ("OpenSSL 3.6 causal-isolation PCAPs", "docs/research/baselines/raw/v1.7-openssl36", ".pcapng", 60)]
  excluded := ["v17-smoke", "/raw/v1.1/", "/raw/v1.2/", "/raw/v1.3/", "/raw/v1.4/", "/raw/v1.5/",
    "/raw/v1.6/"]
  out := "dist/pq-hybrid-downgrade-v17-repro.zip"
  extraGlobs := [s!"{faultinjectDir}/tests/*.py"]

def v18Package : Package where
  raw := "docs/research/baselines/raw/v1.8"
  extraRaw := ["docs/research/baselines/raw/v1.8-e8"]
  documents := [reproductionMd, paperMd, evidenceMd, "tools/v18_setup.sh",
    "tools/v18_build_s2n.sh", "tools/v18_build_s2n_awslc_recovery.sh", "tools/v18_run.sh",
    "tools/v18_run_mbedtls.sh", "tools/v18_run_s2n.sh", "tools/v18_run_e8.sh",
    "tools/v18_run_e8_order.sh", "tools/v18/JavaTlsClient.java", "tools/v18/mbedtls_client.c",
    "tools/v18/node_tls_client.js", "tools/v18/python_tls_client.py",
    "tools/v18/wolfssl_client.c"]
  requiredFiles := [s!"{faultinjectDir}/v18.py", s!"{faultinjectDir}/v16.py",
    s!"{faultinjectDir}/v15.py", s!"{faultinjectDir}/pcap_hello.py", "tools/v18_setup.sh",
    "tools/v18_build_s2n.sh", "tools/v18_run_e8_order.sh", reproductionMd, paperMd, evidenceMd]
  artifacts := [("v1.8 JSON records", ".json", 25), ("v1.8 PCAPs", ".pcapng", 24),
    ("v1.8 client logs", "-client.log", 24), ("v1.8 server logs", "-server.log", 24),
    ("v1.8 capture logs", "-capture.log", 24)]
  extraArtifacts := [
    ("v1.8 Botan C3 JSON records", "docs/research/baselines/raw/v1.8-e8", ".json", 16),
    ("v1.8 Botan C3 PCAPs", "docs/research/baselines/raw/v1.8-e8", ".pcapng", 15)]
  excluded := ["v1.8-diagnose", "/raw/v1.1/", "/raw/v1.2/", "/raw/v1.3/", "/raw/v1.4/",
    "/raw/v1.5/", "/raw/v1.6/", "/raw/v1.7/"]
  out := "dist/pq-hybrid-downgrade-v18-repro.zip"
  extraGlobs := [s!"{faultinjectDir}/tests/*.py"]

def packages : List (String × Package) :=
  [("v1.1", v11Package), ("v1.2", v12Package), ("v1.3", v13Package), ("v1.4", v14Package),
    ("v1.5", v15Package), ("v1.6", v16Package), ("v1.7", v17Package), ("v1.8", v18Package)]

/-- These are the files of `sorted(REPO_ROOT.glob(pattern))`. -/
def sortedGlob (root : Directory) (pattern : String) : List String :=
  (root.glob pattern).insertionSort (· ≤ ·)

/-- These are the files that a package may have. The directories of a package have no character
with a meaning in a pattern. -/
def members (root : Directory) (config : Package) : List String :=
  sortedGlob root s!"{config.raw}/*" ++
    config.extraRaw.flatMap (fun rawDir => sortedGlob root s!"{rawDir}/*") ++
    sortedGlob root s!"{faultinjectDir}/*.py" ++ config.documents ++
    config.extraGlobs.flatMap (sortedGlob root)

/-- An archive lists its files with their contents. -/
abbrev Archive := List (String × Bytes)

def buildZip (root : Directory) (package : String) : Result Archive := do
  let config ← Dict.item packages package
  .ok ((members root config).filterMap fun member =>
    (root.get? member).map fun file => (member, file.readBytes))

/-- This is `name.startswith(text)`. -/
def startsWith (text name : String) : Bool := text.toList.isPrefixOf name.toList

/-- This is `name.endswith(text)`. -/
def endsWith (text name : String) : Bool := text.toList.isSuffixOf name.toList

def verifyZip (archive : Archive) (package : String) : Result (Bool × List String) := do
  let config ← Dict.item packages package
  let names := archive.map Prod.fst
  let missing := config.requiredFiles.filter fun required => required ∉ names
  let rawNames := names.filter (startsWith s!"{config.raw}/")
  let few := config.artifacts.filter fun artifact =>
    rawNames.countP (endsWith artifact.2.1) < artifact.2.2
  let fewExtra := config.extraArtifacts.filter fun artifact =>
    names.countP (fun name => startsWith s!"{artifact.2.1}/" name && endsWith artifact.2.2.1 name) <
      artifact.2.2.2
  let diagnostic := names.any fun name => config.excluded.any fun marker => isIn marker name
  let missing := missing ++ few.map Prod.fst ++ fewExtra.map Prod.fst ++
    if diagnostic then [s!"excluded {package} diagnostic or partial data"] else []
  .ok (missing.isEmpty, missing)

/-- This is the exit code of the command line. -/
def main (root : Directory) (package : String := "v1.1") : Result Nat := do
  let built ← buildZip root package
  let verdict ← verifyZip built package
  .ok (if verdict.1 then 0 else 1)

end FaultInject.ReproPackage
