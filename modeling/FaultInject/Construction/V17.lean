import FaultInject.Construction.V16

namespace FaultInject.V17
open Python Record Harness Audit PcapHello FaultInject.Matrix V12 V15 V16
open Analyze (repetitionRange)

/-- This is the constant `V17`. -/
def v17Root : String := s!"{phase2Root}/v17"

def url : String := s!"https://127.0.0.1:{v12Port}/"

def chrome : String := s!"{v17Root}/chrome-headless-shell-linux64/chrome-headless-shell"

def firefox : String := s!"{v17Root}/firefox/firefox"

def browsers : List (String × List String) :=
  [("chrome", ["timeout", "20", chrome, "--no-sandbox", "--ignore-certificate-errors", "--dump-dom",
      url]),
    ("firefox", ["timeout", "25", firefox, "--headless", "--no-remote", "--profile",
      s!"{v17Root}/ffprofile", "--screenshot", s!"{v17Root}/firefox.png", url])]

def traceConditions : List (String × String) :=
  [("3.5.5", "S1"), ("3.5.5", "S3"), ("3.5.6", "S3")]

def supportedRe : String := "Supported Group: (\\S+) \\(0x[0-9a-f]\x7b4\x7d\\)"

def keyShareRe : String := "Key Share Entry: Group: ([^,]+),"

def expertRe : String := "\\[Expert Info \\((Warning|Error)/([^)]*)\\): ([^\\]]*)\\]"

def traceGroupRe : String := "(?m)^\\s+(.+?) \\((\\d+)\\)\\s*$"

def traceEndRe : String := "\\n\\s*(?:extension_type=|\\S+ TLS Record)"

/-- These are the calls of `re` with a pattern and a text. -/
structure Patterns where
  search : Search
  /-- These are the groups of all matches. -/
  findAll : String → String → List (List String)
  /-- This is the text before the first match. -/
  before : String → String → String

def browserSpec (environ : Dict String String) (browser : String) (repetition : Int) :
    Result ScenarioSpec := do
  let clientCmd ← Dict.item browsers browser
  let serverEnv ← nativeEnvironment "3.5.6" environ
  .ok {
    impl := "openssl"
    faultType := "client-default"
    repetition := repetition
    condition := browser
    serverCmd := surveyServer
    clientCmd := clientCmd
    listenPort := v12Port
    env := cleanEnvironment environ
    captureTraffic := true
    serverEnv := some serverEnv }

def traceFault : String := "server-setting-trace"

def traceSpec (environ : Dict String String) (version setting : String) (repetition : Int)
    (paths : Dict String String) : Result ScenarioSpec := do
  let spec ← v12Spec environ version setting repetition paths clientGroups
  .ok { spec with
    faultType := traceFault
    clientCmd := spec.clientCmd.map fun argument => if argument = "-msg" then "-trace" else argument }

/-- These are the texts before and behind the first separator of `text.partition(separator)`. -/
def partition (separator text : String) : String × String :=
  match splitFirst separator.toList text.toList with
  | some (front, rest) => (String.ofList front, String.ofList rest)
  | none => (text, "")

/-- This is `_trace_groups`. -/
def traceGroups (patterns : Patterns) (traceSection : String) : List String :=
  let marker := "extension_type=supported_groups"
  if isIn marker traceSection then
    let behind := (partition marker traceSection).2
    let block := if isIn "\n" behind then (partition "\n" behind).2 else behind
    (patterns.findAll traceGroupRe (patterns.before traceEndRe block)).filterMap List.head?
  else []

structure TraceAudit where
  advertisedGroups : List String
  serverGroups : List String
  negotiatedGroup : Option String
  singleOutput : Bool
  explicitWarning : Bool
  warningText : Option String

def TraceAudit.toValue (audit : TraceAudit) : Value :=
  .object [
    ("advertised_groups", .list (audit.advertisedGroups.map .str)),
    ("server_groups", .list (audit.serverGroups.map .str)),
    ("negotiated_group", .optionStr audit.negotiatedGroup),
    ("single_output", .bool audit.singleOutput),
    ("explicit_warning", .bool audit.explicitWarning),
    ("warning_text", .optionStr audit.warningText)]

def traceAudit (patterns : Patterns) (text : String) : Result TraceAudit := do
  let clientPart := (partition "ServerHello, Length=" text).1
  let serverPart := (partition "EncryptedExtensions, Length=" text).2
  let advertised := traceGroups patterns clientPart
  let negotiated ← parseGroup "openssl" text
  let warning := patterns.search warningRe text
  .ok {
    advertisedGroups := advertised
    serverGroups := traceGroups patterns serverPart
    negotiatedGroup := negotiated
    singleOutput := !advertised.isEmpty && negotiated.any (· ≠ "")
    explicitWarning := warning.isSome
    warningText := warning }

structure VerboseAudit where
  advertisedGroups : List String
  negotiatedGroup : Option String
  singleOutput : Bool
  explicitWarning : Bool
  warningText : List String

/-- The matches of the expert pattern have three groups each. -/
def verboseAudit (patterns : Patterns) (text : String) : VerboseAudit :=
  let frames := text.splitOn "Handshake Type: "
  let client := (frames.find? fun frame => "Client Hello".toList.isPrefixOf frame.toList).getD ""
  let servers := frames.filter fun frame => "Server Hello".toList.isPrefixOf frame.toList
  let shares := servers.map fun frame => (patterns.findAll keyShareRe frame).filterMap List.head?
  let experts := patterns.findAll expertRe text
  let tlsExperts := experts.filter fun expert => expert[1]? ≠ some "Sequence"
  let negotiated := shares.getLast?.bind List.getLast?
  {
    advertisedGroups := (patterns.findAll supportedRe client).filterMap List.head?
    negotiatedGroup := negotiated
    singleOutput := (patterns.search supportedRe client).isSome && negotiated.isSome
    explicitWarning := (patterns.search warningRe text).isSome || !tlsExperts.isEmpty
    warningText := tlsExperts.map fun expert => ": ".intercalate expert }

def VerboseAudit.entries (audit : VerboseAudit) : List (String × Value) :=
  [("advertised_groups", .list (audit.advertisedGroups.map .str)),
    ("negotiated_group", .optionStr audit.negotiatedGroup),
    ("single_output", .bool audit.singleOutput),
    ("explicit_warning", .bool audit.explicitWarning),
    ("warning_text", if audit.warningText.isEmpty then .none
      else .list (audit.warningText.map .str))]

/-- A row without an audit has an error. -/
structure AuditRow where
  runDir : String
  runId : String
  finalGroupRecorded : Option String
  audit : Option VerboseAudit

def AuditRow.toValue (row : AuditRow) : Value :=
  .object ([
    ("run_dir", .str row.runDir),
    ("run_id", .str row.runId),
    ("final_group_recorded", .optionStr row.finalGroupRecorded)] ++
    match row.audit with
    | some audit => audit.entries
    | none => [("error", .str "no pcap or tshark failed")])

/-- This is `command[2]`. -/
def browserBinary : List String → Result String
  | _ :: _ :: binary :: _ => .ok binary
  | _ => .error (.indexError "list index out of range")

/-- This is one evaluation of `run_browsers`. It writes the record twice. -/
def evaluateBrowser (host : String → Option Bytes) (spec : ScenarioSpec) (browser : String)
    (record : RunRecord) (runDir : Directory) : Result (RunRecord × Directory) := do
  let (evaluated, runDir) ← evaluateV16 host record runDir spec
  let command ← Dict.item browsers browser
  let binary ← browserBinary command
  let updated := { evaluated with
    provenance := (evaluated.provenance.set "browser" (.bool true)).set "binary_sha256"
      (.optionStr (sha256File host binary)) }
  .ok (updated, runDir.toJsonPath updated)

/-- This is one evaluation of `run_trace`. It writes the record twice. -/
def evaluateTrace (patterns : Patterns) (tsharkSummary : String → Option String)
    (provenance : Dict String Value) (record : RunRecord) (runDir : Directory) :
    Result (RunRecord × Directory) := do
  let (evaluated, runDir) ← evaluateV12 patterns.search tsharkSummary record runDir provenance
  let clientLog ← evaluated.artifacts.getItem "client_log" "client_log"
  let log ← runDir.file clientLog
  let audit ← traceAudit patterns log.readTextReplace
  let traced := { evaluated with audit := evaluated.audit.set "trace" audit.toValue }
  .ok (traced, runDir.toJsonPath traced)

/-- This is the surrounding of one call of the command line. -/
structure Setting where
  host : String → Option Bytes
  environ : Dict String String
  patterns : Patterns
  tsharkSummary : String → Option String
  outDir : String
  repetitions : Int

def browserJobs (setting : Setting) : List (Result Job) :=
  (repetitionRange setting.repetitions.toNat).flatMap fun rep =>
    (browsers.map Prod.fst).map fun browser =>
      (browserSpec setting.environ browser rep).map fun spec => {
        spec := spec
        evaluate := evaluateBrowser setting.host spec browser }

/-- These are the versions of the conditions. -/
def traceVersions : List String := (traceConditions.map Prod.fst).eraseDups

/-- These are the paths and the hashes of `run_trace`. -/
def tracePaths (setting : Setting) :
    Result (Dict String String × Dict String (Option String)) := do
  let paths ← v12Paths traceVersions
  let hashes ← hashesV12 setting.host paths traceVersions
  .ok (paths, hashes)

def traceJobs (setting : Setting) : List (Result Job) :=
  match tracePaths setting with
  | .error error => [.error error]
  | .ok (paths, hashes) =>
    (repetitionRange setting.repetitions.toNat).flatMap fun rep =>
      traceConditions.map fun (version, serverSetting) =>
        (traceSpec setting.environ version serverSetting rep paths).map fun spec => {
          spec := spec
          evaluate := fun record runDir => do
            let provenance ← provenanceFor spec paths hashes
            evaluateTrace setting.patterns setting.tsharkSummary provenance record runDir }

/-- This is the call of the command line with `--repeat`. -/
def runV17 (setting : Setting) : Plan where
  guard := freshGuard setting.outDir
  inventory := none
  jobs := .ok (browserJobs setting ++ traceJobs setting)

/-- This is the row of one record. The argument `tshark` is `tshark_verbose`. -/
def auditRow (patterns : Patterns) (tshark : File → Option String) (name : String)
    (runDir : Directory) (jsonPath : String) : Result AuditRow := do
  let record ← runDir.fromJson jsonPath
  let text := (runDir.artifactFile record "pcap").bind tshark
  .ok {
    runDir := name
    runId := record.runId
    finalGroupRecorded := record.metrics.finalNegotiatedGroup
    audit := text.map (verboseAudit patterns) }

def auditRows (patterns : Patterns) (tshark : File → Option String)
    (runDirs : List (String × Directory)) : Result (List AuditRow) :=
  (runDirs.flatMap fun (name, runDir) => runDir.jsonPaths.map fun jsonPath =>
    (name, runDir, jsonPath)).mapM fun (name, runDir, jsonPath) =>
      auditRow patterns tshark name runDir jsonPath

/-- This is the name of the default output file of the verbose pass. -/
def auditName : String := "tshark-verbose-audit.json"

/-- This is the call of the command line with `--verbose-pass` and its default output path. -/
def verbosePass (patterns : Patterns) (tshark : File → Option String)
    (runDirs : List (String × Directory)) (outDir : Directory) :
    Result (List AuditRow × Directory) := do
  let rows ← auditRows patterns tshark runDirs
  .ok (rows, outDir.set auditName (.text (Json.dumps 0 (.list (rows.map AuditRow.toValue)))))

/-- These are the counts of one condition. -/
structure TraceCounts where
  n : Nat := 0
  final : List String := []
  hrr : Nat := 0
  adv : List String := []
  srv : List String := []
  single : Nat := 0
  warn : Nat := 0

def TraceCounts.add (counts : TraceCounts) (metrics : Metrics) (audit : TraceAudit) : TraceCounts where
  n := counts.n + 1
  final := counts.final.insert (metrics.finalNegotiatedGroup.getD "None")
  hrr := counts.hrr + (metrics.hrrPcapPresent == some true).toNat
  adv := counts.adv.insert (",".intercalate audit.advertisedGroups)
  srv := counts.srv.insert (",".intercalate audit.serverGroups)
  single := counts.single + audit.singleOutput.toNat
  warn := counts.warn + audit.explicitWarning.toNat

/-- The audit is computed again from the log of the client. -/
def addTrace (patterns : Patterns) (runDir : Directory) (table : Dict String TraceCounts)
    (jsonPath : String) : Result (Dict String TraceCounts) := do
  let record ← runDir.fromJson jsonPath
  if record.faultType ≠ traceFault then .ok table else do
  let clientLog ← record.artifacts.getItem "client_log" "client_log"
  let log ← runDir.file clientLog
  let audit ← traceAudit patterns log.readTextReplace
  .ok (table.update record.condition {} (·.add record.metrics audit))

/-- This is `separator.join(sorted(values))`. -/
def joinSorted (separator : String) (values : List String) : String :=
  separator.intercalate (values.insertionSort (· ≤ ·))

def traceRow (item : String × TraceCounts) : String :=
  let (condition, counts) := item
  s!"| {condition} | {counts.n} | " ++ joinSorted "/" counts.final ++ s!" | {counts.hrr} | " ++
    joinSorted " / " counts.adv ++ " | " ++ joinSorted " / " counts.srv ++
    s!" | {counts.single} | {counts.warn} |"

/-- This is `_same_group`. The names of groups are ASCII. -/
def sameGroup (tsharkName recorded : Option String) : Bool :=
  match tsharkName, recorded with
  | some name, some other => name ≠ "" && other ≠ "" &&
      name.toList.map Char.toLower == other.toList.map Char.toLower
  | _, _ => false

/-- These are the six counts of one run directory. -/
def rowCounts (row : AuditRow) : List Nat :=
  let negotiated := row.audit.bind VerboseAudit.negotiatedGroup
  [1, (row.audit.any fun audit => !audit.advertisedGroups.isEmpty).toNat,
    (negotiated.any (· ≠ "")).toNat, (row.audit.any VerboseAudit.singleOutput).toNat,
    (sameGroup negotiated row.finalGroupRecorded).toNat,
    (row.audit.any VerboseAudit.explicitWarning).toNat]

/-- These are the lines on the rows of an audit file. -/
def verboseLines (rows : List AuditRow) : List String :=
  let counts : Dict String (List Nat) := rows.foldl (fun table row =>
    table.update row.runDir [0, 0, 0, 0, 0, 0] fun counts =>
      List.zipWith (· + ·) counts (rowCounts row)) .empty
  ["", "## tshark -V (preserved pcaps)",
    "| run dir | pcaps | advertised visible | negotiated visible | single output | " ++
      "negotiated = recorded | TLS warning |",
    "|---|---:|---:|---:|---:|---:|---:|"] ++
    (sortedItems (fun key => [key]) counts).map fun (name, counts) =>
      s!"| {name} | " ++ " | ".intercalate (counts.map toString) ++ " |"

/-- This is the call of the command line with `--report`. The rows are those of an audit file that
is given with `--verbose-json`. -/
def renderV17 (patterns : Patterns) (runDir : Directory) (verbose : Option (List AuditRow)) :
    Result String := do
  let survey ← renderV16 runDir
  let trace ← runDir.jsonPaths.foldlM (addTrace patterns runDir) .empty
  .ok ("\n".intercalate (["## browser survey", (partition "\n\n" survey).1, "",
    "## s_client -trace",
    "| condition | n | final group | HRR (PCAP) | advertised groups in log | " ++
      "server groups in log | single output | warning |",
    "|---|---:|---|---:|---|---|---:|---:|"] ++
    (sortedItems (fun key => [key]) trace).map traceRow ++
    verbose.elim [] verboseLines))

/-- A run directory of a verbose pass is the output directory or another one. -/
structure RunDir where
  name : String
  other : Option Directory

def RunDir.files (runDir : RunDir) (outDir : Directory) : Directory := runDir.other.getD outDir

/-- These are the calls of the command line on one output directory. -/
inductive Operation where
  | run (setting : Setting) (events : List Event)
  | verbosePass (patterns : Patterns) (tshark : File → Option String) (runDirs : List RunDir)
  | report (patterns : Patterns) (verbose : Option (List AuditRow))

/-- A run may raise at any of its steps. A verbose pass has at least one run directory. -/
def operate (outDir : Directory) : Operation → Option Directory
  | .run setting events =>
    (Transition.run (step (runV17 setting)) (.initial outDir) events).bind fun state =>
      match state.phase with
      | .torn => none
      | _ => some state.runDir
  | .verbosePass patterns tshark runDirs =>
    if runDirs = [] then none
    else match verbosePass patterns tshark
        (runDirs.map fun runDir => (runDir.name, runDir.files outDir)) outDir with
      | .ok (_, after) => some after
      | .error _ => some outDir
  | .report _ _ => some outDir

end FaultInject.V17
