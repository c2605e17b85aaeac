import FaultInject.Construction.Directory
import Mathlib.Data.Finset.Sort
import Mathlib.Data.Int.Order.Basic

namespace FaultInject.Analyze
open Python Record

def requiredArtifactsV12 : List String := ["pcap", "client_log", "server_log", "capture_log"]

/-- A cell is a server and a setting. -/
abbrev Cell := String × String

/-- Each cell maps to the expected retry flag and the expected final group. -/
abbrev Expected := Dict Cell (Bool × String)

def expectedMatrix (vulnerable fixed : List String) : Expected :=
  (vulnerable ++ fixed).foldl (fun out server =>
    let out := out.set (server, "S1") (false, "X25519")
    let out := out.set (server, "S2") (true, "X25519MLKEM768")
    out.set (server, "S3")
      (if server ∈ vulnerable then (false, "X25519") else (true, "X25519MLKEM768")))
    .empty

structure Count where
  n : Nat := 0
  repetitions : Finset Int := ∅
  precondition : Nat := 0
  success : Nat := 0
  failure : Nat := 0
  hrrPcap : Nat := 0
  hrrLog : Nat := 0
  hybrid : Nat := 0
  classical : Nat := 0
  unknown : Nat := 0
  explicitWarning : Nat := 0
  mismatchInSingleOutput : Nat := 0
  artifactsComplete : Nat := 0
  provenanceComplete : Nat := 0
  hrrAgree : Nat := 0
  singleServerHello : Nat := 0

/-- This is one term of the `all` over the required artifacts. -/
def artifactPresent (runDir : Directory) (record : RunRecord) (name : String) : Bool :=
  match record.artifacts.get? name with
  | some path =>
    path != "" && runDir.isFile path &&
      match runDir.get? path with
      | some file => decide (file.size > 0)
      | none => false
  | none => false

/-- This is `bool(values.get(key))`. -/
def truthyAt (values : Dict String Value) (key : String) : Bool :=
  match values.get? key with
  | some value => value.truthy
  | none => false

/-- This is `values.get(key) is True`. -/
def trueAt (values : Dict String Value) (key : String) : Bool :=
  match values.get? key with
  | some value => value.isTrue
  | none => false

/-- The counters grow by the facts of one record. -/
def Count.add (runDir : Directory) (count : Count) (record : RunRecord) : Count :=
  let metrics := record.metrics
  let final := metrics.finalNegotiatedGroup
  { n := count.n + 1
    repetitions := insert record.repetition count.repetitions
    precondition := count.precondition +
      (metrics.clientPreconditionVerified == some true).toNat
    success := count.success + (metrics.handshakeResult == "success").toNat
    failure := count.failure + (metrics.handshakeResult != "success").toNat
    hrrPcap := count.hrrPcap + (metrics.hrrPcapPresent == some true).toNat
    hrrLog := count.hrrLog + (metrics.hrrLogPresent == some true).toNat
    hybrid := count.hybrid + (final == some "X25519MLKEM768").toNat
    classical := count.classical + (final == some "X25519").toNat
    unknown := count.unknown +
      (final != some "X25519MLKEM768" && final != some "X25519").toNat
    explicitWarning := count.explicitWarning + (trueAt record.audit "explicit_warning").toNat
    mismatchInSingleOutput := count.mismatchInSingleOutput +
      (trueAt record.audit "mismatch_in_single_output").toNat
    artifactsComplete := count.artifactsComplete +
      (requiredArtifactsV12.all (artifactPresent runDir record)).toNat
    provenanceComplete := count.provenanceComplete +
      (truthyAt record.provenance "server_bin_sha256" &&
        truthyAt record.provenance "client_bin_sha256").toNat
    hrrAgree := count.hrrAgree + (metrics.hrrLogPresent == metrics.hrrPcapPresent).toNat
    singleServerHello := count.singleServerHello + (metrics.serverHelloCount == some 1).toNat }

/-- The counts are keyed by the labels in the provenance. -/
abbrev Counts := Dict (Scalar × Scalar) Count

/-- This is the key of a record. -/
def recordKey (record : RunRecord) : Result (Scalar × Scalar) := do
  let version ← record.provenance.getItem "server_version" "server_version"
  let setting ← record.provenance.getItem "server_setting" "server_setting"
  let version ← version.toKey
  let setting ← setting.toKey
  .ok (version, setting)

/-- The body of the loop counts a server-setting record. -/
def comparisonStep (runDir : Directory) (out : Counts) (record : RunRecord) : Result Counts :=
  if record.faultType ≠ "server-setting" then .ok out else do
  let key ← recordKey record
  .ok (out.update key {} fun count => count.add runDir record)

def comparisonV12 (runDir : Directory) : Result Counts :=
  runDir.jsonPaths.foldlM (fun out path => do
    let record ← runDir.fromJson path
    comparisonStep runDir out record) .empty

/-- Each entry maps a counter to its text in a reason. -/
def fieldLabels : List ((Count → Nat) × String) :=
  [(Count.precondition, "precondition"),
    (Count.artifactsComplete, "artifacts"),
    (Count.provenanceComplete, "provenance"),
    (Count.success, "success"),
    (Count.hrrAgree, "hrr agree"),
    (Count.singleServerHello, "single server_hello")]

/-- This is `range(1, repetitions + 1)`. -/
def repetitionRange (repetitions : Nat) : List Int :=
  (List.range repetitions).map fun index : Nat => (index : Int) + 1

/-- This is `set(range(1, repetitions + 1))`. -/
def repetitionSet (repetitions : Nat) : Finset Int := (repetitionRange repetitions).toFinset

/-- This is `str(sorted(values))`. -/
def sortedText (values : Finset Int) : String :=
  "[" ++ ", ".intercalate ((values.sort (· ≤ ·)).map toString) ++ "]"

/-- A reason names its cell. -/
def reason (label text : String) : String := s!"{label}: {text}"

/-- These are the reasons of a cell with records. -/
def countFailures (label : String) (count : Count) (repetitions : Nat) (hrrExpected : Bool)
    (finalExpected : String) : List String :=
  let n := count.n
  let repetitionFailures :=
    if n ≠ repetitions ∨ count.repetitions ≠ repetitionSet repetitions then
      [reason label s!"repetitions {sortedText count.repetitions} (n={n})"]
    else []
  let fieldFailures := fieldLabels.filterMap fun (field, text) =>
    if field count ≠ n then some (reason label s!"{text} {field count}/{n}") else none
  let hrrFailures :=
    if count.hrrPcap ≠ (if hrrExpected then n else 0) then
      let all := if hrrExpected then "all" else "none"
      [reason label s!"PCAP HRR {count.hrrPcap}/{n}, expected {all}"]
    else []
  let finalCount := if finalExpected = "X25519MLKEM768" then count.hybrid else count.classical
  let finalFailures :=
    if finalCount ≠ n then [reason label s!"final {finalExpected} {finalCount}/{n}"] else []
  repetitionFailures ++ fieldFailures ++ hrrFailures ++ finalFailures

/-- This is the text of a cell. -/
def cellLabel (cell : Cell) : String := s!"{cell.1} {cell.2}"

/-- These are the reasons of one cell. -/
def cellFailures (counts : Counts) (repetitions : Nat) (cell : Cell)
    (expected : Bool × String) : List String :=
  match counts.get? (.str cell.1, .str cell.2) with
  | none => [reason (cellLabel cell) "no records"]
  | some count => countFailures (cellLabel cell) count repetitions expected.1 expected.2

def cveVerdict (counts : Counts) (repetitions : Nat) (expected : Expected) : Bool × List String :=
  let failures := expected.entries.foldl (fun failures entry =>
    failures ++ cellFailures counts repetitions entry.1 entry.2) []
  (failures.isEmpty, failures)

end FaultInject.Analyze
