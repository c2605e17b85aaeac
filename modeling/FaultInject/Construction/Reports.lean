import FaultInject.Construction.V17
import FaultInject.Construction.V18
import FaultInject.Python.Csv

/-
This file models the reports on the records of a run directory. Each of them reads the JSON files
in order and keeps one count for each of its rows.
-/

namespace FaultInject.Analyze
open Python Record V16

/-- The loop of a report counts each record for its key. -/
def countRecords {K C : Type} [DecidableEq K] (key : RunRecord → K) (initial : C)
    (add : C → RunRecord → C) (runDir : Directory) : Result (Dict K C) :=
  runDir.jsonPaths.foldlM (fun out path => do
    let record ← runDir.fromJson path
    .ok (out.update (key record) initial fun count => add count record)) .empty

/-- These are the counts of an implementation and a fault type. -/
structure FaultCount where
  n : Nat := 0
  verified : Nat := 0
  success : Nat := 0
  failure : Nat := 0
  downgrade : Nat := 0
  groups : List String := []

def FaultCount.add (count : FaultCount) (record : RunRecord) : FaultCount :=
  let metrics := record.metrics
  { n := count.n + 1
    verified := count.verified + record.manipulationVerified.toNat
    success := count.success + (metrics.handshakeResult == "success").toNat
    failure := count.failure + (metrics.handshakeResult != "success").toNat
    downgrade := count.downgrade + metrics.downgradeVisible.toNat
    groups :=
      match metrics.negotiatedGroup with
      | some group => if group ≠ "" then count.groups.insert group else count.groups
      | none => count.groups }

/-- This is the key of the first reports. -/
def faultKey (record : RunRecord) : String × String := (record.implementation, record.faultType)

def comparison (runDir : Directory) : Result (Dict (String × String) FaultCount) :=
  countRecords faultKey {} FaultCount.add runDir

/-- These are the counts of an implementation and a condition. -/
structure ConditionCount where
  n : Nat := 0
  verified : Nat := 0
  success : Nat := 0
  failure : Nat := 0
  hrr : Nat := 0
  downgradeFlagged : Nat := 0

def ConditionCount.add (count : ConditionCount) (record : RunRecord) : ConditionCount :=
  let metrics := record.metrics
  { n := count.n + 1
    verified := count.verified + record.manipulationVerified.toNat
    success := count.success + (metrics.handshakeResult == "success").toNat
    failure := count.failure + (metrics.handshakeResult != "success").toNat
    hrr := count.hrr + (metrics.hrrPresent == some true).toNat
    downgradeFlagged := count.downgradeFlagged + (metrics.downgradeFlagged == some true).toNat }

/-- This is the key of the reports on the conditions. -/
def conditionKey (record : RunRecord) : String × String :=
  (record.implementation, record.condition)

def comparisonV11 (runDir : Directory) : Result (Dict (String × String) ConditionCount) :=
  countRecords conditionKey {} ConditionCount.add runDir

/-- This is the order of the rows with two labels. -/
def sortedRows {C : Type} (table : Dict (String × String) C) : List ((String × String) × C) :=
  sortedItems (fun key => [key.1, key.2]) table

/-- A row shows its groups as one text. -/
structure ComparisonRow where
  implementation : String
  faultType : String
  n : Nat
  verified : Nat
  success : Nat
  failure : Nat
  downgrade : Nat
  groups : String

def comparisonRow (item : (String × String) × FaultCount) : ComparisonRow where
  implementation := item.1.1
  faultType := item.1.2
  n := item.2.n
  verified := item.2.verified
  success := item.2.success
  failure := item.2.failure
  downgrade := item.2.downgrade
  groups := orDash (V17.joinSorted "," item.2.groups)

def comparisonRows (runDir : Directory) : Result (List ComparisonRow) := do
  let counts ← comparison runDir
  .ok ((sortedRows counts).map comparisonRow)

def markdownRow (row : ComparisonRow) : String :=
  s!"| {row.implementation} | {row.faultType} | {row.verified}/{row.n} | {row.success} | " ++
    s!"{row.failure} | {row.downgrade} | {row.groups} |"

def renderMarkdown (runDir : Directory) : Result String := do
  let rows ← comparisonRows runDir
  .ok ("\n".intercalate (["| implementation | fault_type | verified/n | success | failure | " ++
      "downgrade | negotiated group(s) |\n|---|---|---|---|---|---|---|"] ++ rows.map markdownRow))

def v11Row (item : (String × String) × ConditionCount) : String :=
  let ((implementation, condition), count) := item
  s!"| {implementation} | {condition} | {count.verified}/{count.n} | {count.success} | " ++
    s!"{count.failure} | {count.hrr} | {count.downgradeFlagged} |"

def renderV11Markdown (runDir : Directory) : Result String := do
  let counts ← comparisonV11 runDir
  .ok ("\n".intercalate (["| implementation | condition | verified/n | success | failure | " ++
      "HRR | downgrade flagged |\n|---|---|---|---|---|---|---|"] ++ (sortedRows counts).map v11Row))

/-- The labels of a row have to be texts. -/
def textLabels {C : Type} (entry : (Scalar × Scalar) × C) : Result ((String × String) × C) :=
  match entry.1.1, entry.1.2 with
  | .str first, .str second => .ok ((first, second), entry.2)
  | _, _ => .error (.typeError "expected a text")

/-- This is the order of the rows whose labels come from the provenance. -/
def labelledRows {C : Type} (counts : Dict (Scalar × Scalar) C) :
    Result (List ((String × String) × C)) := do
  let rows ← counts.entries.mapM textLabels
  .ok (rows.insertionSort fun first second =>
    textsLe [first.1.1, first.1.2] [second.1.1, second.1.2])

def expectedV12 : Expected := expectedMatrix ["3.5.5"] ["3.5.6"]

def v12Row (item : (String × String) × Count) : String :=
  let ((version, setting), count) := item
  s!"| {version} | {setting} | {count.precondition}/{count.n} | {count.success} | " ++
    s!"{count.failure} | {count.hrrPcap} | {count.hrrLog} | {count.hybrid} | " ++
    s!"{count.classical} | {count.unknown} | {count.explicitWarning} | " ++
    s!"{count.mismatchInSingleOutput} |"

def v12Header : List String :=
  ["| server | setting | precondition/n | success | failure | HRR (PCAP) | HRR (log) | " ++
      "hybrid | classical | unknown | explicit warning | single-output mismatch |",
    "|---|---|---|---:|---:|---:|---:|---:|---:|---:|---:|---:|"]

/-- This is the last line of the table. -/
def verdictLine (verdictLabel : String) (words : String × String) (verdict : Bool × List String) :
    String :=
  s!"{verdictLabel}: " ++
    (if verdict.1 then words.1 else s!"{words.2} — " ++ "; ".intercalate verdict.2)

/-- The verdict of the table is always that of ten repetitions. -/
def renderV12Markdown (runDir : Directory) (expected : Expected := expectedV12)
    (verdictLabel : String := "CVE-2026-2673 verdict")
    (words : String × String := ("reproduced", "not reproduced")) : Result String := do
  let counts ← comparisonV12 runDir
  let rows ← labelledRows counts
  .ok ("\n".intercalate (v12Header ++ rows.map v12Row ++
    ["", verdictLine verdictLabel words (cveVerdict counts 10 expected)]))

end FaultInject.Analyze

namespace FaultInject.Aggregate
open Python Record Analyze

/-- These are the totals of an implementation and a fault type. -/
structure FaultTotal where
  total : Nat := 0
  verified : Nat := 0
  success : Nat := 0
  downgrade : Nat := 0

def FaultTotal.add (count : FaultTotal) (record : RunRecord) : FaultTotal :=
  { total := count.total + 1
    verified := count.verified + record.manipulationVerified.toNat
    success := count.success + (record.metrics.handshakeResult == "success").toNat
    downgrade := count.downgrade + record.metrics.downgradeVisible.toNat }

def aggregate (runDir : Directory) : Result (Dict (String × String) FaultTotal) :=
  countRecords faultKey {} FaultTotal.add runDir

/-- These are the totals of an implementation and a condition. -/
structure ConditionTotal where
  total : Nat := 0
  verified : Nat := 0
  success : Nat := 0
  downgrade : Nat := 0
  hrr : Nat := 0
  downgradeFlagged : Nat := 0

def ConditionTotal.add (count : ConditionTotal) (record : RunRecord) : ConditionTotal :=
  let metrics := record.metrics
  { total := count.total + 1
    verified := count.verified + record.manipulationVerified.toNat
    success := count.success + (metrics.handshakeResult == "success").toNat
    downgrade := count.downgrade + metrics.downgradeVisible.toNat
    hrr := count.hrr + (metrics.hrrPresent == some true).toNat
    downgradeFlagged := count.downgradeFlagged + (metrics.downgradeFlagged == some true).toNat }

def aggregateV11 (runDir : Directory) : Result (Dict (String × String) ConditionTotal) :=
  countRecords conditionKey {} ConditionTotal.add runDir

def meetsMinimum (counts : Dict (String × String) FaultTotal) (minimum : Nat := 10) : Bool :=
  counts.entries.length == 6 &&
    counts.entries.all fun entry => decide (entry.2.verified ≥ minimum)

/-- This is one row of the manifest. -/
def manifestRow (item : (String × String) × FaultTotal) : List String :=
  [item.1.1, item.1.2, toString item.2.total, toString item.2.verified, toString item.2.success,
    toString item.2.downgrade]

def manifestRows (counts : Dict (String × String) FaultTotal) : List (List String) :=
  [["implementation", "fault_type", "total", "verified", "success", "downgrade"]] ++
    (sortedRows counts).map manifestRow

def manifestName : String := "manifest.csv"

/-- The manifest is written under its default name. -/
def writeManifest (runDir : Directory) : Result Directory := do
  let counts ← aggregate runDir
  .ok (runDir.set manifestName (.bytes (encodeUtf8 (Csv.write (manifestRows counts)))))

end FaultInject.Aggregate

namespace FaultInject.Audit
open Python Record V16

/-- This is a row of `recompute`. -/
structure RecordAudit where
  runId : String
  implementation : String
  condition : String
  audit : Dict String Value

def recompute (search : Search) (tsharkSummary : String → Option String) (runDir : Directory) :
    Result (List RecordAudit) :=
  runDir.jsonPaths.mapM fun path => do
    let record ← runDir.fromJson path
    .ok {
      runId := record.runId
      implementation := record.implementation
      condition := record.condition
      audit := auditRecord search tsharkSummary record runDir }

/-- These are the counts that the table of the audits shows. -/
structure AuditCount where
  n : Nat := 0
  warningTrue : Nat := 0
  warningFalse : Nat := 0
  warningNone : Nat := 0
  mismatchTrue : Nat := 0
  mismatchUnsupported : Nat := 0
  mismatchNone : Nat := 0

/-- This is `f"{value}" == text` for the texts that the table shows. -/
def showsAs (text : String) : Value → Bool
  | .scalar .null => text == "None"
  | .scalar (.bool value) => text == if value then "True" else "False"
  | .scalar (.str value) => text == value
  | _ => false

def AuditCount.add (count : AuditCount) (warning mismatch : Value) : AuditCount where
  n := count.n + 1
  warningTrue := count.warningTrue + (showsAs "True" warning).toNat
  warningFalse := count.warningFalse + (showsAs "False" warning).toNat
  warningNone := count.warningNone + (showsAs "None" warning).toNat
  mismatchTrue := count.mismatchTrue + (showsAs "True" mismatch).toNat
  mismatchUnsupported := count.mismatchUnsupported + (showsAs "unsupported" mismatch).toNat
  mismatchNone := count.mismatchNone + (showsAs "None" mismatch).toNat

/-- This is one round of the loop of `render_markdown`. -/
def countAudit (counts : Dict (String × String) AuditCount) (row : RecordAudit) :
    Result (Dict (String × String) AuditCount) := do
  let warning ← row.audit.getItem "explicit_warning" "explicit_warning"
  let mismatch ← row.audit.getItem "mismatch_in_single_output" "mismatch_in_single_output"
  .ok (counts.update (row.implementation, row.condition) {} (·.add warning mismatch))

def auditRow (item : (String × String) × AuditCount) : String :=
  let ((implementation, condition), count) := item
  s!"| {implementation} | {condition} | {count.n} | " ++
    s!"{count.warningTrue}/{count.warningFalse}/{count.warningNone} | " ++
    s!"{count.mismatchTrue}/{count.mismatchUnsupported}/{count.mismatchNone} |"

def renderMarkdown (rows : List RecordAudit) : Result String := do
  let counts ← rows.foldlM countAudit .empty
  .ok ("\n".intercalate (["| implementation | condition | n | warning true/false/unknown | " ++
      "single-output true/unsupported/unknown |", "|---|---|---:|---|---|"] ++
    (Analyze.sortedRows counts).map auditRow))

end FaultInject.Audit

namespace FaultInject.V15
open Python Record

/-- These are the counts of a server and a client. -/
structure NegotiationCount where
  n : Nat := 0
  precondition : Nat := 0
  completed : Nat := 0
  success : Nat := 0
  hrr : Nat := 0
  hybrid : Nat := 0
  classical : Nat := 0
  unknown : Nat := 0

def NegotiationCount.add (count : NegotiationCount) (record : RunRecord) : NegotiationCount :=
  let metrics := record.metrics
  let final := metrics.finalNegotiatedGroup
  { n := count.n + 1
    precondition := count.precondition +
      (metrics.clientPreconditionVerified == some true).toNat
    completed := count.completed + (metrics.detail == "handshake-completed").toNat
    success := count.success + (metrics.handshakeResult == "success").toNat
    hrr := count.hrr + (metrics.hrrPcapPresent == some true).toNat
    hybrid := count.hybrid + (final == some "X25519MLKEM768").toNat
    classical := count.classical + (final == some "X25519").toNat
    unknown := count.unknown +
      (final != some "X25519MLKEM768" && final != some "X25519").toNat }

/-- This is the key of a record of the comparison. -/
def negotiationKey (record : RunRecord) : Result (Scalar × Scalar) := do
  let server ← record.provenance.getItem "server" "server"
  let client ← record.provenance.getItem "client" "client"
  let server ← server.toKey
  let client ← client.toKey
  .ok (server, client)

/-- The body of the loop counts a record of the comparison. -/
def negotiationStep (out : Dict (Scalar × Scalar) NegotiationCount) (record : RunRecord) :
    Result (Dict (Scalar × Scalar) NegotiationCount) :=
  if record.faultType ≠ "negotiation-function" then .ok out else do
  let key ← negotiationKey record
  .ok (out.update key {} (·.add record))

def comparisonV15 (runDir : Directory) : Result (Dict (Scalar × Scalar) NegotiationCount) :=
  runDir.jsonPaths.foldlM (fun out path => do
    let record ← runDir.fromJson path
    negotiationStep out record) .empty

/-- This is `order.get(server, 99)`. -/
def serverOrder (environ : Dict String String) (server : String) : Nat :=
  (((servers environ).map Prod.fst).idxOf? server).getD 99

/-- This is the order of two rows by their servers and clients. -/
def rowLe (environ : Dict String String) (first second : String × String) : Bool :=
  decide (serverOrder environ first.1 < serverOrder environ second.1) ||
    (serverOrder environ first.1 == serverOrder environ second.1 && decide (first.2 ≤ second.2))

def v15Row (item : (String × String) × NegotiationCount) : String :=
  let ((server, client), count) := item
  s!"| {server} | {client} | {count.precondition}/{count.n} | {count.completed} | " ++
    s!"{count.success} | {count.hrr} | {count.hybrid} | {count.classical} | {count.unknown} |"

def v15Header : List String :=
  ["| server | client | precondition/n | handshake completed | clean exit | HRR (PCAP) | " ++
      "hybrid | classical | unknown |",
    "|---|---|---|---:|---:|---:|---:|---:|---:|"]

def renderV15 (environ : Dict String String) (runDir : Directory) : Result String := do
  let counts ← comparisonV15 runDir
  let rows ← counts.entries.mapM Analyze.textLabels
  .ok ("\n".intercalate (v15Header ++ (rows.insertionSort fun first second =>
    rowLe environ first.1 second.1).map v15Row))

end FaultInject.V15

namespace FaultInject.V18
open Python Record V16

/-- This is the row that counts a record. -/
def surveyRowKey (record : RunRecord) : Result (String × String × String × String) := do
  let client ← (← record.provenance.getItem "client" "client").text
  let server ← (← record.provenance.getItem "server" "server").text
  let classification ← (← record.provenance.getItem "classification" "classification").text
  let groups ← (← record.provenance.getItem "client_hello_groups" "client_hello_groups").texts
  let shares ←
    (← record.provenance.getItem "client_hello_key_shares" "client_hello_key_shares").texts
  .ok (s!"{client} -> {server}", classification, join ',' groups, join ',' shares)

/-- This is one round of the loop of `render_v18`. -/
def countFile (runDir : Directory) (counts : Dict (String × String × String × String) Nat)
    (name : String) : Result (Dict (String × String × String × String) Nat) :=
  if name = inventoryName then .ok counts else do
  let record ← runDir.fromJson name
  if record.faultType ∉ classifiedFaults then .ok counts else do
  let key ← surveyRowKey record
  .ok (counts.update key 0 (· + 1))

def classRow (item : (String × String × String × String) × Nat) : String :=
  let ((client, kind, groups, shares), runs) := item
  s!"| {client} | {kind} | {orDash groups} | {orDash shares} | {runs} |"

def renderV18 (runDir : Directory) : Result String := do
  let counts ← runDir.jsonPaths.foldlM (countFile runDir) .empty
  .ok ("\n".intercalate (["| client | classification | supported_groups (order) | key_share | runs |",
      "|---|---|---|---|---:|"] ++
    (sortedItems (fun key => [key.1, key.2.1, key.2.2.1, key.2.2.2]) counts).map classRow))

end FaultInject.V18
