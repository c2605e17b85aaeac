import FaultInject.Construction.V17
import FaultInject.Proof.JsonFiles
import FaultInject.Proof.Survey

namespace FaultInject.V17
open Python Record Harness Audit PcapHello FaultInject.Matrix V12 V15 V16

/-- The reports count the record and read its log of the client. -/
structure Reported (runDir : Directory) (record : RunRecord) : Prop where
  counted : ∀ tables, ∃ next, addRecord tables record = .ok next
  clientLog : ∃ name, record.artifacts.get? "client_log" = some name ∧
    (runDir.get? name).isSome

/-- All JSON files of the directory are records. -/
def RecordsOnly (runDir : Directory) : Prop :=
  ∀ name, Read name → ∀ file, runDir.get? name = some file → ∃ record, file = .record record

/-- All JSON files of the directory are records for the reports. -/
def AllReported (runDir : Directory) : Prop :=
  ∀ name, Read name → ∀ file, runDir.get? name = some file →
    ∃ record, file = .record record ∧ Reported runDir record

/-- Later calls of the command line on the directory return. -/
structure Readable (runDir : Directory) : Prop where
  records : RecordsOnly runDir
  report : ∀ patterns verbose, ∃ text, renderV17 patterns runDir verbose = .ok text
  verbosePass : ∀ patterns tshark name, ∃ result,
    verbosePass patterns tshark [(name, runDir)] runDir = .ok result

/-- Later calls of the command line on the directory raise. -/
structure Unreadable (runDir : Directory) : Prop where
  report : ∀ patterns verbose, ∃ error, renderV17 patterns runDir verbose = .error error
  verbosePass : ∀ patterns tshark name, ∃ error,
    verbosePass patterns tshark [(name, runDir)] runDir = .error error

/-- The call is a verbose pass that reads only records. -/
def Audits (outDir : Directory) : Operation → Prop
  | .verbosePass _ _ runDirs => runDirs ≠ [] ∧ ∀ runDir ∈ runDirs, RecordsOnly (runDir.files outDir)
  | _ => False

section Counted
variable {runDir : Directory} {record : RunRecord}

/-- A record without a part is in no table. -/
theorem counted_of_unmarked (unmarked : record.provenance.get? "part" = none) (tables : Tables) :
    ∃ next, addRecord tables record = .ok next := by
  have free (part : String) : hasPart record part = false := by
    rw [hasPart, unmarked]
    rfl
  exact ⟨tables, by simp [addRecord, free]⟩

/-- A survey run is in the table of the survey. -/
theorem counted_of_surveyRun {client : String} {groups shares : List Nat}
    (run : SurveyRun record client groups shares) (tables : Tables) :
    ∃ next, addRecord tables record = .ok next := by
  have row := run.rowOf_eq
  unfold rowOf at row
  split at row
  · rename_i survey
    rw [toOption_eq_some] at row
    rw [addRecord, if_pos survey, row, ok_bind]
    exact ⟨_, rfl⟩
  · cases row

/-- An entry with another key leaves a survey run as it is. -/
theorem surveyRun_set {client : String} {groups shares : List Nat} {key : String}
    (run : SurveyRun record client groups shares)
    (other : key ∉ ["part", "client", "client_hello_groups", "client_hello_key_shares"])
    (value : Value) :
    SurveyRun { record with provenance := record.provenance.set key value } client groups shares := by
  simp only [List.mem_cons, List.not_mem_nil, or_false, not_or] at other
  obtain ⟨part, name, list, keys⟩ := other
  constructor
  · rw [Dict.get?_set, if_neg (Ne.symm part), run.part]
  · rw [Dict.get?_set, if_neg (Ne.symm name), run.client]
  · rw [Dict.get?_set, if_neg (Ne.symm list), run.groups]
  · rw [Dict.get?_set, if_neg (Ne.symm keys), run.shares]

/-- The provenance of a trace has no part. -/
theorem provenanceFor_unmarked {spec : ScenarioSpec} {paths : Dict String String}
    {hashes : Dict String (Option String)} {provenance : Dict String Value}
    (provided : provenanceFor spec paths hashes = .ok provenance) :
    provenance.get? "part" = none := by
  simp only [provenanceFor, bind_eq_ok, Except.ok.injEq] at provided
  obtain ⟨_, _, _, _, _, _, _, _, _, _, _, _, rfl⟩ := provided
  simp [Dict.get?_set]

theorem Reported.grows {after : Directory} (reported : Reported runDir record)
    (grown : Grows runDir after) : Reported after record := by
  obtain ⟨counted, name, listed, present⟩ := reported
  exact ⟨counted, name, listed, grown name present⟩

/-- A scenario leaves a record for the reports. -/
theorem reported_of_scenario {spec : ScenarioSpec} {outcome : Outcome} {before after : Directory}
    (proxy : spec.proxyUpstreamPort = none)
    (ran : runScenario spec outcome before = some (.ok (record, after))) :
    Reported after record := by
  constructor
  · apply counted_of_unmarked
    rw [(runScenario_leaves proxy ran).provenance]
    rfl
  · rw [runScenario_direct proxy, Option.some.injEq] at ran
    obtain ⟨metrics, _, same⟩ := bind_eq_ok.mp ran
    cases same
    apply Exists.intro s!"{identifier spec}-client.log"
    constructor
    · simp only [scenarioArtifacts]
      split <;> split <;> simp [Dict.get?_set]
    · rw [Directory.toJsonPath, Dict.get?_set, Dict.get?_set, if_pos rfl]
      split <;> rfl

end Counted

section Evaluations
variable {record evaluated : RunRecord} {runDir after : Directory}

/-- The second form of a record replaces the first one. -/
theorem toJsonPath_again (same : evaluated.runId = record.runId) :
    (runDir.toJsonPath record).toJsonPath evaluated = runDir.toJsonPath evaluated := by
  rw [Directory.toJsonPath, Directory.toJsonPath, Directory.toJsonPath, same, Dict.set_set]

theorem evaluateV16_artifacts {host : String → Option Bytes} {spec : ScenarioSpec}
    (returned : evaluateV16 host record runDir spec = .ok (evaluated, after)) :
    evaluated.artifacts = record.artifacts := by
  obtain ⟨summary, _, returned⟩ := bind_eq_ok.mp returned
  simp only [bind_eq_ok, Except.ok.injEq, Prod.mk.injEq] at returned
  obtain ⟨_, _, _, _, _, _, rfl, _⟩ := returned
  rfl

/-- This is what an evaluation of this version leaves behind. -/
structure Evaluated (record : RunRecord) (runDir : Directory) (evaluated : RunRecord)
    (after : Directory) : Prop where
  runId : evaluated.runId = record.runId
  written : after = runDir.toJsonPath evaluated
  artifacts : evaluated.artifacts = record.artifacts
  counted : ∀ tables, ∃ next, addRecord tables evaluated = .ok next

/-- A record for the reports stays one. -/
theorem Evaluated.reported (result : Evaluated record runDir evaluated after)
    (reported : Reported runDir record) : Reported after evaluated := by
  obtain ⟨name, listed, present⟩ := reported.clientLog
  refine ⟨result.counted, name, ?_, ?_⟩
  · rw [result.artifacts, listed]
  · rw [result.written]
    exact grows_set _ _ _ name present

theorem evaluateBrowser_evaluated {host : String → Option Bytes} {spec : ScenarioSpec}
    {browser : String} (survey : spec.faultType = "client-default")
    (returned : evaluateBrowser host spec browser record runDir = .ok (evaluated, after)) :
    Evaluated record runDir evaluated after := by
  obtain ⟨⟨first, middle⟩, counted, returned⟩ := bind_eq_ok.mp returned
  simp only [bind_eq_ok, Except.ok.injEq, Prod.mk.injEq] at returned
  obtain ⟨command, _, binary, _, rfl, rfl⟩ := returned
  obtain ⟨runId, rfl⟩ := evaluateV16_own counted
  have artifacts := evaluateV16_artifacts counted
  obtain ⟨summary, _, run⟩ := evaluateV16_surveyRun survey counted
  constructor
  · exact runId
  · exact toJsonPath_again rfl
  · exact artifacts
  · have marked := surveyRun_set run (by simp : "browser" ∉ _) (.bool true)
    exact counted_of_surveyRun (surveyRun_set marked (by simp : "binary_sha256" ∉ _) _)

theorem evaluateTrace_evaluated {patterns : Patterns} {tsharkSummary : String → Option String}
    {provenance : Dict String Value} (unmarked : provenance.get? "part" = none)
    (returned : evaluateTrace patterns tsharkSummary provenance record runDir =
      .ok (evaluated, after)) : Evaluated record runDir evaluated after := by
  obtain ⟨⟨first, middle⟩, measured, returned⟩ := bind_eq_ok.mp returned
  simp only [bind_eq_ok, Except.ok.injEq, Prod.mk.injEq] at returned
  obtain ⟨name, _, log, _, audit, _, rfl, rfl⟩ := returned
  obtain ⟨⟨runId, rfl⟩, artifacts, provided⟩ := evaluateV12_returned measured
  constructor
  · exact runId
  · exact toJsonPath_again rfl
  · exact artifacts
  · apply counted_of_unmarked
    rw [← unmarked, ← provided]

end Evaluations

section Jobs
variable {setting : Setting} {job : Job}

/-- A round of this version is a round of the browser survey or of the traces. -/
theorem runV17_job (known : (runV17 setting).Contains job) :
    job.spec.proxyUpstreamPort = none ∧ job.spec.proxyLog = none ∧
      ∀ record runDir evaluated after, job.evaluate record runDir = .ok (evaluated, after) →
        Evaluated record runDir evaluated after := by
  obtain ⟨jobs, built, member⟩ := known
  cases built
  rcases List.mem_append.mp member with survey | trace
  · obtain ⟨repetition, _, inside⟩ := List.mem_flatMap.mp survey
    obtain ⟨browser, _, same⟩ := List.mem_map.mp inside
    obtain ⟨spec, made, rfl⟩ := map_eq_ok.mp same
    simp only [browserSpec, bind_eq_ok, Except.ok.injEq] at made
    obtain ⟨_, _, _, _, rfl⟩ := made
    refine ⟨rfl, rfl, ?_⟩
    intro record runDir evaluated after returned
    exact evaluateBrowser_evaluated rfl returned
  · unfold traceJobs at trace
    split at trace
    · simp at trace
    · obtain ⟨repetition, _, inside⟩ := List.mem_flatMap.mp trace
      obtain ⟨⟨version, serverSetting⟩, _, same⟩ := List.mem_map.mp inside
      obtain ⟨spec, made, rfl⟩ := map_eq_ok.mp same
      obtain ⟨base, planned, same⟩ := bind_eq_ok.mp made
      have plain := v12Spec_plain planned
      cases same
      refine ⟨plain.proxy, plain.proxyLog, ?_⟩
      intro record runDir evaluated after returned
      obtain ⟨provenance, provided, returned⟩ := bind_eq_ok.mp returned
      exact evaluateTrace_evaluated (provenanceFor_unmarked provided) returned

theorem runV17_jsonLaws (setting : Setting) : JsonLaws (runV17 setting)
    (fun runDir _ file => ∃ record, file = .record record ∧ Reported runDir record) Reported := by
  constructor
  · intro job known
    obtain ⟨proxy, proxyLog, evaluates⟩ := runV17_job known
    refine ⟨proxy, proxyLog, ?_⟩
    intro record runDir evaluated after returned
    have result := evaluates record runDir evaluated after returned
    exact ⟨result.runId, result.written⟩
  · intro before after name file grown ⟨record, same, reported⟩
    exact ⟨record, same, reported.grows grown⟩
  · intro inventory runDir content planned
    cases planned
  · intro job outcome before record after known ran
    exact reported_of_scenario (runV17_job known).1 ran
  · intro job record before evaluated after known _ reported returned
    exact ⟨evaluated, rfl, ((runV17_job known).2.2 _ _ _ _ returned).reported reported⟩

/-- A run keeps a directory of records for the reports. -/
theorem allReported_of_run {before : Directory} (start : AllReported before) {events : List Event}
    {state : State}
    (reached : Transition.run (step (runV17 setting)) (.initial before) events = some state)
    (whole : state.phase ≠ .torn) : AllReported state.runDir := by
  have json := jsonFiles_of_run (runV17_jsonLaws setting) start reached
  intro name read file found
  by_cases own : ∃ record, state.phase = .recorded record ∧ name = s!"{record.runId}.json"
  · obtain ⟨record, phase, rfl⟩ := own
    obtain ⟨_, placed, reported⟩ := json.recorded record phase
    rw [placed, Option.some.injEq] at found
    exact ⟨record, found.symm, reported⟩
  · apply json.files whole name read _ file found
    intro record phase same
    exact own ⟨record, phase, same⟩

end Jobs

section Readers
variable {runDir : Directory}

theorem traceAudit_returns (patterns : Patterns) (text : String) :
    ∃ audit, traceAudit patterns text = .ok audit := ⟨_, rfl⟩

/-- A report of the traces returns at a record for the reports. -/
theorem addTrace_returns {name : String} {record : RunRecord}
    (found : runDir.get? name = some (.record record)) (reported : Reported runDir record)
    (patterns : Patterns) (table : Dict String TraceCounts) :
    ∃ next, addTrace patterns runDir table name = .ok next := by
  rw [addTrace, (fromJson_eq_ok found).mpr rfl, ok_bind]
  split
  · exact ⟨table, rfl⟩
  · obtain ⟨log, listed, present⟩ := reported.clientLog
    obtain ⟨file, opened⟩ := Option.isSome_iff_exists.mp present
    obtain ⟨audit, judged⟩ := traceAudit_returns patterns file.readTextReplace
    rw [Dict.getItem_eq_ok.mpr listed, ok_bind, Directory.file, opened, ok_bind, judged, ok_bind]
    exact ⟨_, rfl⟩

/-- A row of a verbose pass needs only a record. -/
theorem auditRow_returns_iff (patterns : Patterns) (tshark : File → Option String) (name : String)
    {jsonPath : String} : (∃ row, auditRow patterns tshark name runDir jsonPath = .ok row) ↔
      ∃ record, runDir.fromJson jsonPath = .ok record := by
  simp [auditRow, bind_eq_ok]

/-- A verbose pass returns exactly when all its run directories hold only records. -/
theorem auditRows_returns_iff (patterns : Patterns) (tshark : File → Option String)
    (runDirs : List (String × Directory)) :
    (∃ rows, auditRows patterns tshark runDirs = .ok rows) ↔
      ∀ runDir ∈ runDirs, RecordsOnly runDir.2 := by
  constructor
  · intro returns entry member name read file found
    obtain ⟨rows, returned⟩ := returns
    have listed : (entry.1, entry.2, name) ∈ runDirs.flatMap fun entry =>
        entry.2.jsonPaths.map fun jsonPath => (entry.1, entry.2, jsonPath) :=
      List.mem_flatMap.mpr ⟨entry, member,
        List.mem_map.mpr ⟨name, mem_jsonPaths.mpr ⟨read, file, found⟩, rfl⟩⟩
    have row := returns_of_mapM returned listed
    simpa only [auditRow_returns_iff, fromJson_eq_ok found] using row
  · intro records
    apply mapM_returns
    intro call member
    obtain ⟨entry, listed, inside⟩ := List.mem_flatMap.mp member
    obtain ⟨jsonPath, known, same⟩ := List.mem_map.mp inside
    obtain ⟨read, file, found⟩ := mem_jsonPaths.mp known
    rw [← same, auditRow_returns_iff]
    simp only [fromJson_eq_ok found]
    exact records entry listed jsonPath read file found

/-- The reports of a version return when its records are for the reports. -/
theorem renderV17_returns (reported : AllReported runDir) (patterns : Patterns)
    (verbose : Option (List AuditRow)) : ∃ text, renderV17 patterns runDir verbose = .ok text := by
  have each : ∀ name ∈ runDir.jsonPaths, ∃ record, runDir.get? name = some (.record record) ∧
      Reported runDir record := by
    intro name member
    obtain ⟨read, file, found⟩ := mem_jsonPaths.mp member
    obtain ⟨record, rfl, known⟩ := reported name read file found
    exact ⟨record, found, known⟩
  obtain ⟨records, loaded⟩ : ∃ records, recordsOf runDir = .ok records := by
    apply mapM_returns
    intro name member
    obtain ⟨record, found, _⟩ := each name member
    exact ⟨record, (fromJson_eq_ok found).mpr rfl⟩
  obtain ⟨tables, counted⟩ : ∃ tables, tablesOf records = .ok tables := by
    apply foldlM_returns
    intro record member
    obtain ⟨name, inside, read⟩ := exists_of_mem_mapM loaded member
    obtain ⟨other, found, known⟩ := each name inside
    rw [fromJson_eq_ok found, File.record.injEq] at read
    rw [← read]
    exact known.counted
  obtain ⟨traces, added⟩ : ∃ traces,
      runDir.jsonPaths.foldlM (addTrace patterns runDir) Dict.empty = .ok traces := by
    apply foldlM_returns
    intro name member table
    obtain ⟨record, found, known⟩ := each name member
    exact addTrace_returns found known patterns table
  rw [renderV17, renderV16, loaded, ok_bind, counted, ok_bind, ok_bind, added, ok_bind]
  exact ⟨_, rfl⟩

theorem AllReported.recordsOnly (reported : AllReported runDir) : RecordsOnly runDir := by
  intro name read file found
  obtain ⟨record, same, _⟩ := reported name read file found
  exact ⟨record, same⟩

/-- A directory of records for the reports is readable. -/
theorem AllReported.readable (reported : AllReported runDir) : Readable runDir := by
  constructor
  · exact reported.recordsOnly
  · exact renderV17_returns reported
  · intro patterns tshark name
    obtain ⟨rows, listed⟩ := (auditRows_returns_iff patterns tshark [(name, runDir)]).mpr (by
      intro entry member
      rw [List.mem_singleton.mp member]
      exact reported.recordsOnly)
    rw [verbosePass, listed, ok_bind]
    exact ⟨_, rfl⟩

/-- A directory with another JSON file is unreadable. -/
theorem unreadable_of_mixed (mixed : ¬RecordsOnly runDir) : Unreadable runDir := by
  constructor
  · intro patterns verbose
    apply raises_of_not_returns
    intro text returned
    obtain ⟨survey, rendered, _⟩ := bind_eq_ok.mp returned
    obtain ⟨records, loaded, _⟩ := bind_eq_ok.mp rendered
    apply mixed
    intro name read file found
    obtain ⟨record, opened⟩ := returns_of_mapM loaded (mem_jsonPaths.mpr ⟨read, file, found⟩)
    exact ⟨record, (fromJson_eq_ok found).mp opened⟩
  · intro patterns tshark name
    apply raises_of_not_returns
    intro result returned
    obtain ⟨rows, listed, _⟩ := bind_eq_ok.mp returned
    exact mixed ((auditRows_returns_iff patterns tshark _).mp ⟨rows, listed⟩ _ List.mem_cons_self)

end Readers

/-- The directory has the file of a verbose pass. -/
def Audited (runDir : Directory) : Prop := ∃ content, runDir.get? auditName = some (.text content)

section Operations
variable {before after : Directory} {operation : Operation}

theorem read_auditName : Read auditName := by
  constructor
  · exact ⟨"tshark-verbose-audit".toList, rfl⟩
  · decide

theorem Audited.mixed (audited : Audited before) : ¬RecordsOnly before := by
  obtain ⟨content, found⟩ := audited
  intro records
  obtain ⟨record, same⟩ := records auditName read_auditName _ found
  cases same

/-- A verbose pass ends with its file or with an exception. -/
theorem operate_verbosePass_ends (before : Directory) (patterns : Patterns)
    (tshark : File → Option String) {runDirs : List RunDir} (given : runDirs ≠ []) :
    ∃ after, operate before (.verbosePass patterns tshark runDirs) = some after := by
  rw [operate, if_neg given]
  split
  · exact ⟨_, rfl⟩
  · exact ⟨before, rfl⟩

/-- A verbose pass that reads only records leaves its file behind and every other one changes
nothing. -/
theorem operate_verbosePass {patterns : Patterns} {tshark : File → Option String}
    {runDirs : List RunDir}
    (taken : operate before (.verbosePass patterns tshark runDirs) = some after) :
    (Audits before (.verbosePass patterns tshark runDirs) → Audited after) ∧
      (¬Audits before (.verbosePass patterns tshark runDirs) → after = before) := by
  have listed : (∃ rows, auditRows patterns tshark
      (runDirs.map fun runDir => (runDir.name, runDir.files before)) = .ok rows) ↔
        ∀ runDir ∈ runDirs, RecordsOnly (runDir.files before) := by
    rw [auditRows_returns_iff]
    simp
  rw [operate] at taken
  split at taken
  · cases taken
  · rename_i given
    rw [Audits, ← listed]
    split at taken
    · rename_i rows files returned
      obtain ⟨audited, found, same⟩ := bind_eq_ok.mp returned
      cases same
      cases taken
      constructor
      · intro _
        exact ⟨_, (Dict.get?_set _ _ _ _).trans (if_pos rfl)⟩
      · intro refused
        exact absurd ⟨given, rows, found⟩ refused
    · rename_i error raised
      cases taken
      constructor
      · intro ⟨_, rows, found⟩
        rw [verbosePass, found] at raised
        cases raised
      · exact fun _ => rfl

/-- A call that is no successful verbose pass keeps a directory of records for the reports. -/
theorem operate_allReported (reported : AllReported before) (free : ¬Audits before operation)
    (taken : operate before operation = some after) : AllReported after := by
  cases operation with
  | run setting events =>
      obtain ⟨state, reached, ended⟩ := Option.bind_eq_some_iff.mp taken
      split at ended
      · cases ended
      · rename_i whole
        cases ended
        exact allReported_of_run reported reached whole
  | verbosePass patterns tshark runDirs =>
      rw [(operate_verbosePass taken).2 free]
      exact reported
  | report patterns verbose =>
      cases taken
      exact reported

/-- The file of a verbose pass remains. -/
theorem operate_audited (audited : Audited before) (taken : operate before operation = some after) :
    Audited after := by
  cases operation with
  | run setting events =>
      obtain ⟨state, reached, ended⟩ := Option.bind_eq_some_iff.mp taken
      have kept : state.runDir = before := by
        cases guard : (runV17 setting).guard before with
        | ok passed =>
            obtain ⟨content, found⟩ := audited
            rw [get?_of_freshGuard setting.outDir guard read_auditName] at found
            cases found
        | error error => exact (unchanged_of_guard guard reached).1
      split at ended
      · cases ended
      · cases ended
        rw [kept]
        exact audited
  | verbosePass patterns tshark runDirs =>
      by_cases audits : Audits before (.verbosePass patterns tshark runDirs)
      · exact (operate_verbosePass taken).1 audits
      · rw [(operate_verbosePass taken).2 audits]
        exact audited
  | report patterns verbose =>
      cases taken
      exact audited

end Operations

section Calls
variable {operations : List Operation} {runDir : Directory}

theorem allReported_empty : AllReported .empty := by
  intro name _ file found
  cases found

/-- The directory stays readable exactly when no call is a verbose pass that reads only records.
Otherwise every report and every verbose pass on it raises. -/
theorem calls_readable_iff (reached : Transition.run operate .empty operations = some runDir) :
    (Readable runDir ↔
      Transition.Meets operate (fun before operation => ¬Audits before operation) .empty
        operations) ∧
      (¬Readable runDir → Unreadable runDir) := by
  have readable (free : Transition.Meets operate (fun before operation => ¬Audits before operation)
      .empty operations) : Readable runDir := by
    have reported : AllReported runDir :=
      Transition.run_of_meets operate (fun _ _ _ => operate_allReported) allReported_empty free
        reached
    exact reported.readable
  have mixed (listed : ¬Transition.Meets operate (fun before operation => ¬Audits before operation)
      .empty operations) : ¬RecordsOnly runDir := by
    obtain ⟨before, operation, next, rest, audits, taken, behind⟩ :=
      Transition.exists_of_not_meets operate listed reached
    have written : Audited next := by
      cases operation with
      | verbosePass patterns tshark runDirs =>
          exact (operate_verbosePass taken).1 (not_not.mp audits)
      | run setting events => exact absurd id audits
      | report patterns verbose => exact absurd id audits
    have keeps (events : List Operation) (before : Directory) (operation : Operation)
        (next : Directory) (audited : Audited before) (taken : operate before operation = some next) :
        Audited next := operate_audited audited taken
    have remains : Audited runDir :=
      @Transition.run_invariant _ _ operate _ (fun _ => Audited) written keeps _ _ behind
    exact remains.mixed
  refine ⟨⟨?_, readable⟩, ?_⟩
  · intro read
    by_contra listed
    exact mixed listed read.records
  · intro unread
    exact unreadable_of_mixed (mixed fun free => unread (readable free))

end Calls

section Sample

def samplePatterns : Patterns where
  search := fun _ _ => none
  findAll := fun _ _ => []
  before := fun _ text => text

def sampleSetting : Setting where
  host := fun _ => none
  environ := .empty
  patterns := samplePatterns
  tsharkSummary := fun _ => none
  outDir := "results"
  repetitions := 1

/-- The run is interrupted behind its first round. -/
def sampleRun : Operation := .run sampleSetting [.enter, .scenario refusedOutcome, .evaluate]

def samplePass (runDir : RunDir) : Operation :=
  .verbosePass samplePatterns (fun _ => none) [runDir]

/-- This other run directory has a record that is written in part. -/
def tornDirectory : Directory := Dict.empty.set "torn.json" (.text "\x7b")

theorem sampleRun_returns : ∃ after, operate .empty sampleRun = some after := by
  have returns : (operate .empty sampleRun).isSome := by decide +kernel
  exact Option.isSome_iff_exists.mp returns

/-- A verbose pass that raises leaves the directory readable. -/
theorem calls_readable_iff_sample : ∃ runDir,
    Transition.run operate .empty [sampleRun, samplePass ⟨"torn", some tornDirectory⟩,
      .report samplePatterns none] = some runDir ∧ Readable runDir := by
  have torn : ¬RecordsOnly tornDirectory := by
    intro records
    obtain ⟨record, same⟩ := records "torn.json" ⟨⟨"torn".toList, rfl⟩, by decide⟩ _ rfl
    cases same
  have refused (before : Directory) : ¬Audits before (samplePass ⟨"torn", some tornDirectory⟩) :=
    fun audits => torn (audits.2 _ List.mem_cons_self)
  obtain ⟨surveyed, ran⟩ := sampleRun_returns
  obtain ⟨after, passed⟩ := operate_verbosePass_ends surveyed samplePatterns (fun _ => none)
    (List.cons_ne_nil ⟨"torn", some tornDirectory⟩ [])
  have reached : Transition.run operate .empty [sampleRun,
      samplePass ⟨"torn", some tornDirectory⟩, .report samplePatterns none] = some after := by
    rw [Transition.run_cons_eq_some]
    refine ⟨surveyed, ran, ?_⟩
    rw [Transition.run_cons_eq_some]
    exact ⟨after, passed, rfl⟩
  refine ⟨after, reached, (calls_readable_iff reached).1.mpr ?_⟩
  exact ⟨id, fun _ _ => ⟨refused _, fun _ _ => ⟨id, fun _ _ => trivial⟩⟩⟩

/-- A verbose pass over the surveyed directory makes it unreadable. -/
theorem calls_unreadable : ∃ runDir,
    Transition.run operate .empty [sampleRun, samplePass ⟨"v1.7", none⟩] = some runDir ∧
      ¬Readable runDir ∧ Unreadable runDir := by
  obtain ⟨surveyed, ran⟩ := sampleRun_returns
  obtain ⟨after, passed⟩ := operate_verbosePass_ends surveyed samplePatterns (fun _ => none)
    (List.cons_ne_nil ⟨"v1.7", none⟩ [])
  have reported : AllReported surveyed := operate_allReported allReported_empty id ran
  have audits : Audits surveyed (samplePass ⟨"v1.7", none⟩) := by
    refine ⟨List.cons_ne_nil _ _, ?_⟩
    intro runDir member
    rw [List.mem_singleton.mp member]
    exact reported.recordsOnly
  have mixed : ¬RecordsOnly after := ((operate_verbosePass passed).1 audits).mixed
  refine ⟨after, ?_, fun read => mixed read.records, unreadable_of_mixed mixed⟩
  rw [Transition.run_cons_eq_some]
  refine ⟨surveyed, ran, ?_⟩
  rw [Transition.run_singleton]
  exact passed

end Sample

end FaultInject.V17
