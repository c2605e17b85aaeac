import FaultInject.Proof.Evaluation
import FaultInject.Proof.WriteOnce

namespace FaultInject.Matrix
open Python Record Harness V12 Analyze

/-- The run has no evaluated record for some repetition of the cell. -/
def Unfinished (repetitions : Int) (state : State) (cell : Cell) : Prop :=
  ∃ repetition, 1 ≤ repetition ∧ repetition ≤ repetitions ∧
    ∀ record ∈ state.records, splitCondition record.condition = .ok cell →
      record.repetition ≠ repetition

/-- The comparison of the files returns. The verdict is false for every expected matrix with an
unfinished cell, and a reason names the cell. -/
def Judged (repetitions : Int) (state : State) : Prop :=
  ∃ counts, comparisonV12 state.runDir = .ok counts ∧
    ∀ expected : Expected, ∀ cell ∈ expected.entries.map Prod.fst,
      Unfinished repetitions state cell →
        (cveVerdict counts repetitions.toNat expected).1 = false ∧
        ∃ text, reason (cellLabel cell) text ∈ (cveVerdict counts repetitions.toNat expected).2

/-- The record of the current specification is not in its final form. -/
def BetweenWrites (state : State) : Prop :=
  (∃ record, state.phase = .recorded record) ∨ state.phase = .torn

section Reader
variable {runDir : Directory}

/-- The comparison reads the files with these names. -/
def Read (name : String) : Prop := ".json".toList <:+ name.toList ∧ '/' ∉ name.toList

theorem mem_jsonPaths {name : String} :
    name ∈ runDir.jsonPaths ↔ Read name ∧ ∃ file, runDir.get? name = some file := by
  rw [Directory.jsonPaths, List.mem_insertionSort, List.mem_filter, Bool.and_eq_true,
    List.isSuffixOf_iff_suffix, decide_eq_true_eq, Read, and_comm, List.mem_map]
  apply and_congr_right
  intro read
  constructor
  · rintro ⟨⟨other, file⟩, member, rfl⟩
    exact ⟨file, Dict.get?_eq_some.mpr member⟩
  · rintro ⟨file, found⟩
    exact ⟨(name, file), Dict.get?_eq_some.mp found, rfl⟩

/-- A file is read as a record exactly when it holds the record. -/
theorem fromJson_eq_ok {name : String} {file : File} {record : RunRecord}
    (found : runDir.get? name = some file) :
    runDir.fromJson name = .ok record ↔ file = .record record := by
  rw [Directory.fromJson, Directory.file, found, ok_bind]
  cases file <;> simp

/-- A comparison that returns read a record from each of its files, with a key if it counts. -/
theorem exists_of_comparisonV12 {counts : Counts} (returned : comparisonV12 runDir = .ok counts)
    {name : String} {file : File} (read : Read name) (found : runDir.get? name = some file) :
    ∃ record, file = .record record ∧
      (record.faultType = "server-setting" → ∃ key, recordKey record = .ok key) := by
  obtain ⟨before, after, taken⟩ :=
    exists_of_mem_foldlM (mem_jsonPaths.mpr ⟨read, file, found⟩) returned
  obtain ⟨record, loaded, counted⟩ := bind_eq_ok.mp taken
  refine ⟨record, (fromJson_eq_ok found).mp loaded, ?_⟩
  intro setting
  rw [comparisonStep, if_neg (not_not.mpr setting)] at counted
  obtain ⟨key, keyed, _⟩ := bind_eq_ok.mp counted
  exact ⟨key, keyed⟩

end Reader

/-- A cell with a missing repetition has a reason. -/
theorem cellFailures_of_missing (runDir : Directory) {records : List RunRecord}
    (labelled : ∀ record ∈ records, record.faultType = "server-setting" → Labelled record)
    {repetitions : Nat} {repetition : Int} (inside : repetition ∈ repetitionRange repetitions)
    {cell : Cell} (missing : ∀ record ∈ cellRecords cell records, record.repetition ≠ repetition)
    (expected : Bool × String) :
    cellFailures (Dict.tally keyOf {} (Count.add runDir) (counted records) Dict.empty)
      repetitions cell expected ≠ [] := by
  intro empty
  rw [cellFailures, get?_comparison runDir cell labelled] at empty
  by_cases none : cellRecords cell records = []
  · rw [if_pos none] at empty
    cases empty
  · rw [if_neg none] at empty
    have seen := (countFailures_eq_nil.mp empty).1.2
    rw [repetitions_foldl] at seen
    have member : repetition ∈ repetitionSet repetitions := List.mem_toFinset.mpr inside
    rw [← seen, Finset.mem_union, List.mem_toFinset, List.mem_map] at member
    rcases member with ⟨record, among, same⟩ | start
    · exact missing record among same
    · exact absurd start (Finset.notMem_empty _)

/-- The provenance of the record carries the labels of its condition. -/
def Complete (record : RunRecord) : Prop :=
  ∃ version setting, splitCondition record.condition = .ok (version, setting) ∧
    record.provenance.get? "server_version" = some (.str version) ∧
    record.provenance.get? "server_setting" = some (.str setting)

theorem Complete.labelled {record : RunRecord} (complete : Complete record) : Labelled record := by
  obtain ⟨version, setting, _, hasVersion, hasSetting⟩ := complete
  exact ⟨.str version, .str setting, hasVersion, hasSetting⟩

/-- The labels of a complete record of a cell are the cell. -/
theorem Complete.splitCondition {record : RunRecord} (complete : Complete record) {cell : Cell}
    (counted : ofCell cell record = true) : splitCondition record.condition = .ok cell := by
  obtain ⟨version, setting, divided, hasVersion, hasSetting⟩ := complete
  rw [ofCell, Bool.and_eq_true, Bool.and_eq_true, hasText_eq_true, hasText_eq_true, hasVersion,
    hasSetting] at counted
  obtain ⟨⟨_, versions⟩, settings⟩ := counted
  cases versions
  cases settings
  exact divided

/-- A file with the name of a record holds an evaluated record. -/
def Listed (state : State) (name : String) : Prop :=
  ∀ file, state.runDir.get? name = some file → ∃ record ∈ state.records, file = .record record

/-- A run is judged when its files hold only complete records that it evaluated. -/
theorem judged_of_listed {repetitions : Int} {state : State}
    (complete : ∀ record ∈ state.records, Complete record)
    (listed : ∀ name, Read name → Listed state name) : Judged repetitions state := by
  have each : ∀ name ∈ state.runDir.jsonPaths, ∃ record ∈ state.records,
      state.runDir.fromJson name = .ok record := by
    intro name member
    obtain ⟨read, file, found⟩ := mem_jsonPaths.mp member
    obtain ⟨record, known, rfl⟩ := listed name read file found
    exact ⟨record, known, (fromJson_eq_ok found).mpr rfl⟩
  obtain ⟨records, loaded⟩ : ∃ records, loadRecords state.runDir = .ok records :=
    mapM_returns fun name member => (each name member).imp fun _ found => found.2
  have known : ∀ record ∈ records, record ∈ state.records := by
    intro record member
    obtain ⟨name, inside, read⟩ := exists_of_mem_mapM loaded member
    obtain ⟨other, among, same⟩ := each name inside
    rw [read] at same
    cases same
    exact among
  have labelled : ∀ record ∈ records, record.faultType = "server-setting" → Labelled record :=
    fun record member _ => (complete record (known record member)).labelled
  refine ⟨_, comparisonV12_eq state.runDir loaded labelled, ?_⟩
  rintro expected cell member ⟨repetition, first, last, missing⟩
  obtain ⟨entry, among, rfl⟩ := List.mem_map.mp member
  have inside : repetition ∈ repetitionRange repetitions.toNat := by
    rw [repetitionRange, List.mem_map]
    exact ⟨(repetition - 1).toNat, List.mem_range.mpr (by omega), by omega⟩
  have absent : ∀ record ∈ cellRecords entry.1 records, record.repetition ≠ repetition := by
    intro record member
    obtain ⟨found, counted⟩ := List.mem_filter.mp member
    have evaluated := known record found
    exact missing record evaluated ((complete record evaluated).splitCondition counted)
  have fails := cellFailures_of_missing state.runDir labelled inside absent entry.2
  obtain ⟨message, visible⟩ := List.exists_mem_of_ne_nil _ fails
  obtain ⟨text, rfl⟩ := label_of_mem_cellFailures visible
  rw [cveVerdict_eq]
  refine ⟨?_, text, List.mem_flatMap.mpr ⟨entry, among, visible⟩⟩
  rw [List.isEmpty_eq_false_iff]
  intro none
  exact fails (List.flatMap_eq_nil_iff.mp none entry among)

/-- These facts hold of a round of the server-setting matrix. -/
structure SettingJob (job : Job) : Prop extends OwnJob job where
  plain : PlainSpec job.spec
  faultType : job.spec.faultType = "server-setting"
  complete : ∀ record runDir evaluated after,
    job.evaluate record runDir = .ok (evaluated, after) →
      record.condition = job.spec.condition → Complete evaluated

/-- The evaluation completes the provenance of a record. -/
theorem complete_of_evaluateV12 {search : Audit.Search} {tsharkSummary : String → Option String}
    {spec : ScenarioSpec} {paths : Dict String String} {hashes : Dict String (Option String)}
    {provenance : Dict String Value} {record evaluated : RunRecord} {runDir after : Directory}
    (provided : provenanceFor spec paths hashes = .ok provenance)
    (returned : evaluateV12 search tsharkSummary record runDir provenance = .ok (evaluated, after))
    (own : record.condition = spec.condition) : Complete evaluated := by
  obtain ⟨metrics, _, returned⟩ := bind_eq_ok.mp returned
  obtain ⟨clientLog, _, same⟩ := bind_eq_ok.mp returned
  cases same
  obtain ⟨version, setting, divided, labels⟩ := provenanceFor_labels provided
  rw [← own] at divided
  exact ⟨version, setting, divided, labels⟩

/-- This is the record of a scenario before its evaluation. -/
structure FirstWrite (spec : ScenarioSpec) (record : RunRecord) : Prop where
  runId : record.runId = identifier spec
  faultType : record.faultType = "server-setting"
  condition : record.condition = spec.condition
  provenance : record.provenance = .empty

/-- This is what the files of a run hold at each of its phases. -/
structure Disk (state : State) : Prop where
  complete : ∀ record ∈ state.records, Complete record
  idle : ¬BetweenWrites state → ∀ name, Read name → Listed state name
  recorded : ∀ record, state.phase = .recorded record → ∃ job rest,
    state.todo = .ok job :: rest ∧ FirstWrite job.spec record ∧
      state.runDir.get? (recordName job.spec) = some (.record record) ∧
      ∀ name, Read name → name ≠ recordName job.spec → Listed state name
  torn : state.phase = .torn → ∃ name content,
    Read name ∧ state.runDir.get? name = some (.text content)

section Disk
variable {plan : Plan} {state next : State}

theorem PlainSpec.read_recordName {spec : ScenarioSpec} (plain : PlainSpec spec) :
    Read (recordName spec) := by
  refine ⟨suffix_append _ ".json", ?_⟩
  rw [recordName, String.toList_append, List.mem_append, not_or]
  exact ⟨plain.identifier.slash, by decide⟩

/-- A record of a run is written under the name of the run. -/
theorem get?_toJsonPath {spec : ScenarioSpec} {record : RunRecord}
    (own : record.runId = identifier spec) (runDir : Directory) (name : String) :
    (runDir.toJsonPath record).get? name =
      if name = recordName spec then some (.record record) else runDir.get? name := by
  rw [Directory.toJsonPath, Dict.get?_set, own, recordName]

/-- A program of a scenario writes no JSON file. -/
theorem get?_output {spec : ScenarioSpec} (proxyLog : spec.proxyLog = none) {name other : String}
    (own : name ∈ outputNames spec (identifier spec)) (read : Read other) {runDir : Directory}
    {file : File} : Dict.get? (Dict.set runDir name file) other = runDir.get? other := by
  have different : other ≠ name := by
    rintro rfl
    exact not_json_of_mem_outputNames (.inl proxyLog) own read.1
  rw [Dict.get?_set, if_neg different]

/-- A scenario without a proxy writes its record and no other JSON file. -/
theorem get?_scenario {spec : ScenarioSpec} (proxy : spec.proxyUpstreamPort = none)
    (proxyLog : spec.proxyLog = none) {outcome : Outcome} {record : RunRecord}
    {runDir after : Directory} (ran : runScenario spec outcome runDir = some (.ok (record, after)))
    {name : String} (read : Read name) :
    after.get? name = if name = recordName spec then some (.record record)
      else runDir.get? name := by
  have leaves := runScenario_leaves proxy ran
  obtain ⟨files, rfl, kept⟩ := leaves.files
  rw [get?_toJsonPath leaves.runId, kept name]
  intro inside
  exact not_json_of_mem_outputNames (.inl proxyLog) inside read.1

/-- These facts suffice for an idle run. -/
theorem Disk.of_idle (complete : ∀ record ∈ state.records, Complete record)
    (idle : ¬BetweenWrites state) (listed : ∀ name, Read name → Listed state name) :
    Disk state := by
  rw [BetweenWrites, not_or, not_exists] at idle
  constructor
  · exact complete
  · exact fun _ => listed
  · exact fun record phase => absurd phase (idle.1 record)
  · exact fun phase => absurd phase idle.2

/-- A torn run has the torn record of a specification. -/
theorem Disk.of_torn {spec : ScenarioSpec} (plain : PlainSpec spec) (content : String)
    (complete : ∀ record ∈ state.records, Complete record) (phase : state.phase = .torn)
    (placed : state.runDir.get? (recordName spec) = some (.text content)) : Disk state := by
  constructor
  · exact complete
  · exact fun idle => absurd (.inr phase) idle
  · intro record other
    rw [phase] at other
    cases other
  · exact fun _ => ⟨recordName spec, content, plain.read_recordName, placed⟩

/-- A step that writes no file and no record leaves an idle run idle. -/
theorem Disk.idle_next (disk : Disk state) (idle : ¬BetweenWrites state)
    (runDir : next.runDir = state.runDir) (records : next.records = state.records)
    (still : ¬BetweenWrites next) : Disk next := by
  apply Disk.of_idle _ still
  · intro name read
    rw [Listed, runDir, records]
    exact disk.idle idle name read
  · rw [records]
    exact disk.complete

theorem Disk.initial {runDir : Directory} (fresh : ∀ name, Read name → runDir.get? name = none) :
    Disk (.initial runDir) := by
  apply Disk.of_idle
  · intro record member
    cases member
  · simp [BetweenWrites, State.initial]
  · intro name read file found
    have none : runDir.get? name = none := fresh name read
    rw [State.initial, none] at found
    cases found

/-- The entry writes nothing. -/
theorem enter_keeps (plan : Plan) (state : State) :
    (plan.enter state).runDir = state.runDir ∧ (plan.enter state).records = state.records ∧
      ¬BetweenWrites (plan.enter state) := by
  unfold Plan.enter
  split
  · exact ⟨rfl, rfl, by simp [BetweenWrites]⟩
  · split
    · exact ⟨rfl, rfl, by simp [BetweenWrites]⟩
    · refine ⟨rfl, rfl, ?_⟩
      cases plan.inventory <;> simp [BetweenWrites]

/-- Every move of the server-setting matrix keeps the facts about its files. -/
theorem Disk.move (own : ∀ job, plan.Contains job → SettingJob job)
    (inventory : plan.inventory = none) (todo : ∀ job, .ok job ∈ state.todo → plan.Contains job)
    (disk : Disk state) (taken : Move plan state next) : Disk next := by
  cases taken with
  | enter phase =>
      obtain ⟨runDir, records, still⟩ := enter_keeps plan state
      have idle : ¬BetweenWrites state := by simp [BetweenWrites, phase]
      exact disk.idle_next idle runDir records still
  | list listed content written phase planned following =>
      rw [inventory] at planned
      cases planned
  | fail error rest phase head =>
      have idle : ¬BetweenWrites state := by simp [BetweenWrites, phase]
      exact disk.idle_next idle rfl rfl (by simp [BetweenWrites])
  | output job rest name file phase head inside =>
      have known := own job (contains_head todo head)
      have idle : ¬BetweenWrites state := by simp [BetweenWrites, phase]
      refine Disk.of_idle disk.complete idle ?_
      intro other read found placed
      rw [get?_output known.proxyLog inside read] at placed
      exact disk.idle idle other read found placed
  | scenario job rest outcome record after phase head ran =>
      have known := own job (contains_head todo head)
      have idle : ¬BetweenWrites state := by simp [BetweenWrites, phase]
      have leaves := runScenario_leaves known.proxy ran
      constructor
      · exact disk.complete
      · exact fun still => absurd (.inl ⟨record, rfl⟩) still
      · intro other same
        cases same
        refine ⟨job, rest, head, ?_, ?_, ?_⟩
        · exact ⟨leaves.runId, leaves.faultType.trans known.faultType, leaves.condition,
            leaves.provenance⟩
        · rw [get?_scenario known.proxy known.proxyLog ran known.plain.read_recordName, if_pos rfl]
        · intro name read apart file found
          rw [get?_scenario known.proxy known.proxyLog ran read, if_neg apart] at found
          exact disk.idle idle name read file found
      · intro torn
        cases torn
  | tearScenario job rest outcome record after content phase head ran =>
      have known := own job (contains_head todo head)
      have leaves := runScenario_leaves known.proxy ran
      refine Disk.of_torn known.plain content disk.complete rfl ?_
      rw [leaves.runId, Dict.get?_set, recordName, if_pos rfl]
  | evaluate job rest record evaluated after phase head returned =>
      obtain ⟨found, others, same, first, _, listed⟩ := disk.recorded record phase
      rw [head] at same
      cases same
      have known := own job (contains_head todo head)
      have complete := known.complete _ _ _ _ returned first.condition
      obtain ⟨kept, rfl⟩ := known.evaluate _ _ _ _ returned
      apply Disk.of_idle
      · intro other member
        rcases List.mem_append.mp member with before | new
        · exact disk.complete other before
        · rw [List.mem_singleton.mp new]
          exact complete
      · simp [BetweenWrites]
      · intro name read file found
        rw [get?_toJsonPath (kept.trans first.runId)] at found
        by_cases current : name = recordName job.spec
        · rw [if_pos current] at found
          exact ⟨evaluated, List.mem_append_right _ (List.mem_singleton_self _),
            (Option.some.inj found).symm⟩
        · rw [if_neg current] at found
          obtain ⟨other, member, same⟩ := listed name read current file found
          exact ⟨other, List.mem_append_left _ member, same⟩
  | tearEvaluate job rest record evaluated after content phase head returned =>
      obtain ⟨found, others, same, first, _, _⟩ := disk.recorded record phase
      rw [head] at same
      cases same
      have known := own job (contains_head todo head)
      have kept := (known.evaluate _ _ _ _ returned).1.trans first.runId
      refine Disk.of_torn known.plain content disk.complete rfl ?_
      rw [kept, Dict.get?_set, recordName, if_pos rfl]

/-- The comparison of the files raises between the two writes of a record. -/
theorem Disk.judged_iff (disk : Disk state) (todo : ∀ job, .ok job ∈ state.todo → plan.Contains job)
    (own : ∀ job, plan.Contains job → SettingJob job) (repetitions : Int) :
    Judged repetitions state ↔ ¬BetweenWrites state := by
  constructor
  · rintro ⟨counts, compared, _⟩ (⟨record, phase⟩ | phase)
    · obtain ⟨job, rest, head, first, placed, _⟩ := disk.recorded record phase
      have known := own job (contains_head todo head)
      obtain ⟨other, same, keyed⟩ :=
        exists_of_comparisonV12 compared known.plain.read_recordName placed
      cases same
      obtain ⟨key, returned⟩ := keyed first.faultType
      rw [recordKey, first.provenance] at returned
      cases returned
    · obtain ⟨name, content, read, placed⟩ := disk.torn phase
      obtain ⟨record, same, _⟩ := exists_of_comparisonV12 compared read placed
      cases same
  · intro idle
    exact judged_of_listed disk.complete (disk.idle idle)

end Disk

section Run
variable (host : String → Option Bytes) (search : Audit.Search)
  (tsharkSummary : String → Option String) (environ : Dict String String) (outDir : String)
  (repetitions : Int) (settings versions : List String) (groups : String)

theorem runV12_settingJob {job : Job} (known : (runV12 host search tsharkSummary environ outDir
    repetitions settings versions groups).Contains job) : SettingJob job := by
  obtain ⟨paths, hashes, version, setting, repetition, inputs, made, evaluates⟩ :=
    runV12_job host environ outDir repetitions known
  have plain := v12Spec_plain made
  refine ⟨⟨plain.proxy, plain.proxyLog, ?_⟩, plain, ?_, ?_⟩
  · intro record runDir evaluated after returned
    rw [evaluates] at returned
    obtain ⟨provenance, _, returned⟩ := bind_eq_ok.mp returned
    exact (evaluateV12_returned returned).1
  · simp only [v12Spec, bind_eq_ok, Except.ok.injEq] at made
    obtain ⟨_, _, _, _, _, _, _, _, _, _, _, _, same⟩ := made
    rw [← same]
  · intro record runDir evaluated after returned own
    rw [evaluates] at returned
    obtain ⟨provenance, provided, returned⟩ := bind_eq_ok.mp returned
    exact complete_of_evaluateV12 provided returned own

/-- A fresh directory has no file that the comparison reads. -/
theorem get?_of_freshGuard {runDir : Directory} (passed : freshGuard outDir runDir = .ok ())
    {name : String} (read : Read name) : runDir.get? name = none := by
  have empty : runDir.glob "*.json" = [] := by
    by_contra filled
    rw [freshGuard, if_neg filled] at passed
    cases passed
  obtain ⟨⟨stem, whole⟩, slash⟩ := read
  have same : name = String.ofList stem ++ ".json" := by
    apply String.toList_injective
    rw [← whole]
    simp
  rw [← whole, List.mem_append, not_or] at slash
  rw [same]
  apply get?_of_glob empty (globMatch_json _)
  rw [String.toList_ofList]
  exact slash.1

/-- An interrupted matrix is judged exactly when the interruption is not between the two writes
of a record or inside one of them. -/
theorem interrupted_judged_iff {runDir : Directory}
    (passed : (runV12 host search tsharkSummary environ outDir repetitions settings versions
      groups).guard runDir = .ok ()) {events : List Event} {state : State}
    (reached : Transition.run (step (runV12 host search tsharkSummary environ outDir repetitions
      settings versions groups)) (.initial runDir) events = some state) :
    Judged repetitions state ↔ ¬BetweenWrites state := by
  have own (job : Job) (known : (runV12 host search tsharkSummary environ outDir repetitions
      settings versions groups).Contains job) : SettingJob job :=
    runV12_settingJob host search tsharkSummary environ outDir repetitions settings versions
      groups known
  have fresh : Disk (.initial runDir) :=
    .initial fun _ read => get?_of_freshGuard outDir passed read
  have facts : Framed (runV12 host search tsharkSummary environ outDir repetitions settings versions
      groups) runDir state ∧ Disk state := by
    apply run_keeps ⟨.initial, fresh⟩ _ reached
    intro before next kept taken
    exact ⟨kept.1.move (fun job known => (own job known).toOwnJob) taken,
      kept.2.move own rfl kept.1.todo taken⟩
  exact facts.2.judged_iff facts.1.todo own repetitions

end Run

section Sample

def refusedOutcome : Outcome where
  serverOutput := .text "ACCEPT"
  captureOutput := .text ""
  pcap := .bytes []
  events := []
  clientText := "connect:errno=111"
  returncode := 1

/-- This matrix has one cell with two repetitions. -/
def sampleMatrix : Plan :=
  runV12 (fun _ => none) (fun _ _ => none) (fun _ => none) .empty "results" 2 ["S1"] ["3.5.6"]

/-- An interruption behind the first round is judged. -/
theorem interrupted_judged_sample : ∃ state,
    Transition.run (step sampleMatrix) (.initial .empty)
      [.enter, .scenario refusedOutcome, .evaluate] = some state ∧ Judged 2 state := by
  have ends : (Transition.run (step sampleMatrix) (.initial .empty)
      [.enter, .scenario refusedOutcome, .evaluate]).map State.phase = some .running := rfl
  obtain ⟨state, reached, running⟩ := Option.map_eq_some_iff.mp ends
  refine ⟨state, reached, (interrupted_judged_iff _ _ _ _ _ _ _ _ _ rfl reached).mpr ?_⟩
  simp [BetweenWrites, running]

/-- An interruption between the two writes of the first record is fatal. -/
theorem interrupted_raises : ∃ state,
    Transition.run (step sampleMatrix) (.initial .empty) [.enter, .scenario refusedOutcome] =
      some state ∧
    comparisonV12 state.runDir = .error (.keyError "server_version") ∧ ¬Judged 2 state := by
  have raised : ((Transition.run (step sampleMatrix) (.initial .empty)
      [.enter, .scenario refusedOutcome]).map fun state =>
        match comparisonV12 state.runDir with
        | .error error => some error
        | .ok _ => none) = some (some (.keyError "server_version")) := by
    decide +kernel
  obtain ⟨state, reached, compared⟩ := Option.map_eq_some_iff.mp raised
  have failed : comparisonV12 state.runDir = .error (.keyError "server_version") := by
    split at compared
    · rename_i error raises
      rw [raises, Option.some.inj compared]
    · cases compared
  refine ⟨state, reached, failed, ?_⟩
  rintro ⟨counts, returned, _⟩
  rw [failed] at returned
  cases returned

end Sample

end FaultInject.Matrix
