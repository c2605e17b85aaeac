import FaultInject.Construction.V12
import FaultInject.Proof.Scan
import FaultInject.Proof.Verdict

namespace FaultInject.V12
open Python Record Harness Audit PcapHello Analyze

/-- An evaluation has a record, the files at its time, and the inputs of its provenance. -/
structure Evaluation where
  search : Search
  tsharkSummary : String → Option String
  input : RunRecord
  files : Directory
  spec : ScenarioSpec
  paths : Dict String String
  hashes : Dict String (Option String)

/-- The evaluation returned the record. -/
def Evaluation.Produces (evaluation : Evaluation) (record : RunRecord) : Prop :=
  ∃ provenance after,
    provenanceFor evaluation.spec evaluation.paths evaluation.hashes = .ok provenance ∧
    evaluateV12 evaluation.search evaluation.tsharkSummary evaluation.input evaluation.files
      provenance = .ok (record, after)

/-- This is the capture that the evaluation read. -/
def Evaluation.capture (evaluation : Evaluation) : Option Bytes :=
  captureBytes evaluation.input evaluation.files

/-- The hello messages of a capture back an expected cell. -/
structure SummaryBacks (expected : Bool × String) (summary : HelloSummary) : Prop where
  hrr : 0 < summary.hrrCount ↔ expected.1 = true
  server : ∃ code, summary.serverHellos.filter (fun hello => !hello.1) = [(false, some code)] ∧
    (expected.2 = "X25519MLKEM768" → code = 0x11EC) ∧ (expected.2 = "X25519" → code = 0x001D)
  client : ∃ groups rest, summary.clientHellos = (groups, [0x001D]) :: rest ∧
    0x001D ∈ groups ∧ 0x11EC ∈ groups

/-- The read capture is not empty and backs the expected cell. -/
def Evaluation.Backs (evaluation : Evaluation) (expected : Bool × String) : Prop :=
  ∃ pcap summary, evaluation.capture = some pcap ∧ pcap ≠ [] ∧
    summarizeHellos pcap = .ok summary ∧ SummaryBacks expected summary

/-- A name without a leading zero is the name of its code in the table. -/
theorem groupName_eq {code : Nat} {name : String}
    (named : groupName (some code) = some name) (letter : name.toList.head? ≠ some '0') :
    groupNames.lookup code = some name := by
  simp only [groupName, Option.map_some, Option.some.injEq] at named
  cases found : groupNames.lookup code with
  | some known =>
      rw [found] at named
      exact congrArg some named
  | none =>
      rw [found] at named
      apply absurd _ letter
      rw [← named]
      dsimp only [Option.getD_none]
      rw [String.toList_append]
      rfl

/-- The provenance carries the two labels of the condition as texts. -/
theorem provenanceFor_labels {spec : ScenarioSpec} {paths : Dict String String}
    {hashes : Dict String (Option String)} {provenance : Dict String Value}
    (returned : provenanceFor spec paths hashes = .ok provenance) :
    ∃ version setting, splitCondition spec.condition = .ok (version, setting) ∧
      provenance.get? "server_version" = some (.str version) ∧
      provenance.get? "server_setting" = some (.str setting) := by
  simp only [provenanceFor, bind_eq_ok, Except.ok.injEq] at returned
  obtain ⟨⟨version, setting⟩, divided, _, _, _, _, _, _, _, _, _, _, rfl⟩ := returned
  refine ⟨version, setting, divided, ?_, ?_⟩
  · simp [Dict.get?_set]
  · simp [Dict.get?_set]

/-- A single final ServerHello with a known group is the whole list of final messages. -/
theorem finalGroup_of_single {summary : HelloSummary} {code : Nat}
    (single : summary.serverHelloCount = 1) (final : summary.finalGroup = some code) :
    summary.serverHellos.filter (fun hello => !hello.1) = [(false, some code)] := by
  rw [HelloSummary.serverHelloCount, List.countP_eq_length_filter, List.length_eq_one_iff] at single
  obtain ⟨⟨retry, group⟩, only⟩ := single
  rw [HelloSummary.finalGroup, only] at final
  have member : (retry, group) ∈ summary.serverHellos.filter fun hello => !hello.1 := by
    rw [only]
    exact List.mem_singleton_self _
  have flag : retry = false := by simpa using (List.mem_filter.mp member).2
  have code : group = some code := final
  rw [only, flag, code]

/-- The precondition on the client speaks about its first ClientHello. -/
theorem clientPrecondition_eq_true {summary : HelloSummary}
    (verified : clientPrecondition summary = true) :
    ∃ groups rest, summary.clientHellos = (groups, [0x001D]) :: rest ∧
      0x001D ∈ groups ∧ 0x11EC ∈ groups := by
  unfold clientPrecondition at verified
  split at verified
  · cases verified
  · rename_i groups shares rest first
    rw [Bool.and_eq_true, decide_eq_true_eq, beq_iff_eq] at verified
    obtain ⟨⟨classical, hybrid⟩, rfl⟩ := verified
    exact ⟨groups, rest, first, classical, hybrid⟩

/-- A read capture is not empty. -/
theorem captureBytes_ne_nil {record : RunRecord} {runDir : Directory} {pcap : Bytes}
    (read : captureBytes record runDir = some pcap) : pcap ≠ [] := by
  unfold captureBytes at read
  split at read
  · split at read
    · cases read
    · split at read
      · split at read
        · rename_i size
          cases read
          exact List.ne_nil_of_length_pos size
        · cases read
      · cases read
  · cases read

/-- The summary of the capture decides the metrics of a verified record. -/
theorem captureMetrics_verified {before after : Metrics} {capture : Option Bytes}
    (returned : captureMetrics before capture = .ok after)
    (verified : after.clientPreconditionVerified = some true) :
    ∃ pcap summary, capture = some pcap ∧ summarizeHellos pcap = .ok summary ∧
      after.hrrPcapPresent = some (decide (summary.hrrCount > 0)) ∧
      after.serverHelloCount = some (summary.serverHelloCount : Int) ∧
      after.finalNegotiatedGroup = groupName summary.finalGroup ∧
      clientPrecondition summary = true := by
  cases capture with
  | none =>
      cases returned
      cases verified
  | some pcap =>
      obtain ⟨summary, summarized, same⟩ := bind_eq_ok.mp returned
      cases same
      exact ⟨pcap, summary, rfl, summarized, rfl, rfl, rfl, Option.some.inj verified⟩

/-- The final group of a record that supports its cell has the expected code. -/
theorem finalGroup_of_groupName {summary : HelloSummary} {expected : String}
    (known : expected = "X25519" ∨ expected = "X25519MLKEM768")
    (named : groupName summary.finalGroup = some expected) :
    ∃ code, summary.finalGroup = some code ∧
      (expected = "X25519MLKEM768" → code = 0x11EC) ∧ (expected = "X25519" → code = 0x001D) := by
  cases final : summary.finalGroup with
  | none =>
      rw [final] at named
      cases named
  | some code =>
      rw [final] at named
      have letter : expected.toList.head? ≠ some '0' := by
        rcases known with rfl | rfl <;> decide
      have member : (code, expected) ∈ groupNames := by
        obtain ⟨before, behind, same, _⟩ := List.lookup_eq_some_iff.mp (groupName_eq named letter)
        rw [same]
        exact List.mem_append_right before List.mem_cons_self
      refine ⟨code, rfl, ?_, ?_⟩
      · rintro rfl
        simpa [groupNames] using member
      · rintro rfl
        simpa [groupNames] using member

/-- A record that supports its cell was evaluated from a capture that backs the cell. -/
theorem Evaluation.backs_of_recordHolds {evaluation : Evaluation} {record : RunRecord}
    {runDir : Directory} {expected : Bool × String}
    (known : expected.2 = "X25519" ∨ expected.2 = "X25519MLKEM768")
    (produced : evaluation.Produces record) (holds : RecordHolds runDir expected record) :
    evaluation.Backs expected := by
  obtain ⟨provenance, after, _, evaluated⟩ := produced
  simp only [evaluateV12, bind_eq_ok, Except.ok.injEq, Prod.mk.injEq] at evaluated
  obtain ⟨metrics, read, _, _, rfl, _⟩ := evaluated
  obtain ⟨pcap, summary, capture, summarized, hrr, count, group, client⟩ :=
    captureMetrics_verified read holds.precondition
  obtain ⟨code, final, hybrid, classical⟩ :=
    finalGroup_of_groupName known (group.symm.trans holds.final)
  have single : summary.serverHelloCount = 1 := by
    have one : (summary.serverHelloCount : Int) = 1 :=
      Option.some.inj (count.symm.trans holds.single)
    omega
  refine ⟨pcap, summary, capture, captureBytes_ne_nil capture, summarized, ?_, ?_, ?_⟩
  · rw [← holds.hrr, show _ = some (decide (summary.hrrCount > 0)) from hrr, Option.some.injEq,
      decide_eq_true_eq]
  · exact ⟨code, finalGroup_of_single single final, hybrid, classical⟩
  · exact clientPrecondition_eq_true client

/-- A produced record carries its labels. -/
theorem Evaluation.Produces.labelled {evaluation : Evaluation} {record : RunRecord}
    (produced : evaluation.Produces record) : Labelled record := by
  obtain ⟨provenance, after, provided, evaluated⟩ := produced
  simp only [evaluateV12, bind_eq_ok, Except.ok.injEq, Prod.mk.injEq] at evaluated
  obtain ⟨_, _, _, _, rfl, _⟩ := evaluated
  obtain ⟨version, setting, _, hasVersion, hasSetting⟩ := provenanceFor_labels provided
  exact ⟨.str version, .str setting, hasVersion, hasSetting⟩

/-- A true verdict is backed by the evaluated capture of every repetition of every cell. -/
theorem cveVerdict_backed {runDir : Directory} {records : List RunRecord}
    (loaded : loadRecords runDir = .ok records)
    (produced : ∀ record ∈ records, record.faultType = "server-setting" →
      ∃ evaluation : Evaluation, evaluation.Produces record)
    {counts : Counts} (compared : comparisonV12 runDir = .ok counts)
    {repetitions : Nat} {expected : Expected} (known : ExpectsKnown expected)
    (accepted : (cveVerdict counts repetitions expected).1 = true) :
    ∀ entry ∈ expected.entries, ∀ repetition ∈ repetitionRange repetitions,
      ∃ record ∈ cellRecords entry.1 records, record.repetition = repetition ∧
        ∀ evaluation : Evaluation, evaluation.Produces record → evaluation.Backs entry.2 := by
  intro entry member repetition inside
  have labelled (record) (among : record ∈ records) (setting : record.faultType = "server-setting") :
      Labelled record := by
    obtain ⟨evaluation, evaluated⟩ := produced record among setting
    exact evaluated.labelled
  have positive : 1 ≤ repetitions := by
    have width := List.length_pos_of_mem inside
    rwa [length_repetitionRange] at width
  rw [comparisonV12_eq runDir loaded labelled] at compared
  cases compared
  rw [cveVerdict_eq, List.isEmpty_iff, List.flatMap_eq_nil_iff] at accepted
  have groups := known entry member
  have holds := (cellFailures_eq_nil labelled positive entry.1 groups).mp (accepted entry member)
  obtain ⟨record, among, rfl⟩ := List.mem_map.mp (holds.once.mem_iff.mpr inside)
  exact ⟨record, among, rfl, fun evaluation evaluated =>
    evaluation.backs_of_recordHolds groups evaluated (holds.each record among)⟩

/-- This ClientHello advertises both groups and has a share of the classical group only. -/
def sampleClientHello : Bytes :=
  [0x16, 0x03, 0x01, 0x00, 0x44, 0x01, 0x00, 0x00, 0x40, 0x03, 0x03] ++ List.replicate 32 0 ++
    [0x00, 0x00, 0x02, 0x13, 0x01, 0x01, 0x00, 0x00, 0x15] ++
    [0x00, 0x0a, 0x00, 0x06, 0x00, 0x04, 0x00, 0x1d, 0x11, 0xec] ++
    [0x00, 0x33, 0x00, 0x07, 0x00, 0x05, 0x00, 0x1d, 0x00, 0x01, 0x00]

def sampleServerHello (random group : Bytes) : Bytes :=
  [0x16, 0x03, 0x03, 0x00, 0x32, 0x02, 0x00, 0x00, 0x2e, 0x03, 0x03] ++ random ++
    [0x00, 0x13, 0x01, 0x00, 0x00, 0x06, 0x00, 0x33, 0x00, 0x02] ++ group

/-- The server selects the classical group at once or retries for the hybrid group. -/
def sampleCapture (hrr : Bool) : Bytes :=
  if hrr then
    sampleClientHello ++ sampleServerHello hrrRandom [0x11, 0xec] ++
      sampleServerHello (List.replicate 32 0) [0x11, 0xec]
  else sampleClientHello ++ sampleServerHello (List.replicate 32 0) [0x00, 0x1d]

theorem summarizeHellos_sampleCapture (hrr : Bool) : summarizeHellos (sampleCapture hrr) = .ok {
    clientHellos := [([0x001D, 0x11EC], [0x001D])]
    serverHellos := if hrr then [(true, some 0x11EC), (false, some 0x11EC)]
      else [(false, some 0x001D)] } := by
  cases hrr <;> decide +kernel

/-- This evaluation gives the sample record of a setting. -/
def sampleEvaluation (setting : String) (hrr : Bool) : Evaluation where
  search := fun _ _ => none
  tsharkSummary := fun _ => none
  input := { sampleRecord setting "" hrr with
    metrics := {
      negotiatedGroup := none
      isHybrid := false
      downgradeVisible := false
      handshakeResult := "success" }
    manipulationVerified := false
    provenance := .empty }
  files := (Dict.empty.set "pcap" (.bytes (sampleCapture hrr))).set "client_log"
    (.text (if hrr then "HelloRetryRequest" else ""))
  spec := {
    impl := "openssl"
    faultType := "server-setting"
    repetition := 1
    condition := s!"3.5.6-{setting}"
    serverCmd := []
    clientCmd := ["X25519:X25519MLKEM768"]
    listenPort := 8545
    env := .empty
    serverEnv := some .empty }
  paths := (Dict.empty.set "server_bin_3.5.6" "openssl").set "client_bin" "openssl"
  hashes := (Dict.empty.set "server_bin_3.5.6" (some "00")).set "client_bin" (some "00")

def Evaluation.provenance (evaluation : Evaluation) : Result (Dict String Value) :=
  provenanceFor evaluation.spec evaluation.paths evaluation.hashes

def evaluatedRecord (setting : String) (hrr : Bool) : RunRecord :=
  let evaluation := sampleEvaluation setting hrr
  { sampleRecord setting (if hrr then "X25519MLKEM768" else "X25519") hrr with
    provenance := evaluation.provenance.toOption.getD .empty
    audit := auditRecord evaluation.search evaluation.tsharkSummary evaluation.input
      evaluation.files }

theorem evaluatedRecord_produced {setting : String} (hrr : Bool)
    (provided : (sampleEvaluation setting hrr).provenance.toOption.isSome = true) :
    (sampleEvaluation setting hrr).Produces (evaluatedRecord setting hrr) := by
  obtain ⟨provenance, returned⟩ := Option.isSome_iff_exists.mp provided
  have same : (evaluatedRecord setting hrr).provenance = provenance := by
    rw [evaluatedRecord, returned]
    rfl
  have capture : captureBytes (sampleEvaluation setting hrr).input
      (sampleEvaluation setting hrr).files = some (sampleCapture hrr) := by
    have size : (sampleCapture hrr).length > 0 := by cases hrr <;> decide +kernel
    exact if_pos size
  have clientLog : (sampleEvaluation setting hrr).input.artifacts.getItem "client_log"
      "client_log" = .ok "client_log" := rfl
  have log : (Dict.get? (sampleEvaluation setting hrr).files "client_log").map
      (fun clientLog => detectHrr clientLog.readTextReplace) = some hrr := by
    have detected (hrr : Bool) : detectHrr (File.readTextReplace
        (.text (if hrr then "HelloRetryRequest" else ""))) = hrr := by
      cases hrr <;> decide +kernel
    exact congrArg some (detected hrr)
  have evaluated : evaluateV12 (sampleEvaluation setting hrr).search
      (sampleEvaluation setting hrr).tsharkSummary (sampleEvaluation setting hrr).input
      (sampleEvaluation setting hrr).files (evaluatedRecord setting hrr).provenance =
      .ok (evaluatedRecord setting hrr, Directory.toJsonPath (sampleEvaluation setting hrr).files
        (evaluatedRecord setting hrr)) := by
    rw [evaluateV12, capture, captureMetrics, summarizeHellos_sampleCapture, ok_bind, ok_bind,
      clientLog, ok_bind]
    dsimp only
    rw [log]
    cases hrr <;> rfl
  rw [same] at evaluated
  exact ⟨provenance, _, toOption_eq_some.mp returned, evaluated⟩

def evaluatedRecords : List RunRecord :=
  [evaluatedRecord "S1" false, evaluatedRecord "S2" true, evaluatedRecord "S3" true]

def evaluatedDir : Directory :=
  evaluatedRecords.foldl Directory.toJsonPath
    (requiredArtifactsV12.foldl (fun runDir name => Dict.set runDir name (.bytes [0])) .empty)

theorem cveVerdict_backed_sample :
    ∃ record ∈ cellRecords ("3.5.6", "S2") evaluatedRecords, record.repetition = 1 ∧
      ∀ evaluation : Evaluation, evaluation.Produces record →
        evaluation.Backs (true, "X25519MLKEM768") := by
  have loaded : loadRecords evaluatedDir = .ok evaluatedRecords := by
    have paths : evaluatedDir.jsonPaths = ["openssl_server-setting_r01_3.5.6-S1.json",
        "openssl_server-setting_r01_3.5.6-S2.json",
        "openssl_server-setting_r01_3.5.6-S3.json"] := by decide +kernel
    rw [loadRecords, paths]
    rfl
  have produced : ∀ record ∈ evaluatedRecords, record.faultType = "server-setting" →
      ∃ evaluation : Evaluation, evaluation.Produces record := by
    intro record member _
    simp only [evaluatedRecords, List.mem_cons, List.not_mem_nil, or_false] at member
    rcases member with rfl | rfl | rfl
    · exact ⟨_, evaluatedRecord_produced _ (by decide +kernel)⟩
    · exact ⟨_, evaluatedRecord_produced _ (by decide +kernel)⟩
    · exact ⟨_, evaluatedRecord_produced _ (by decide +kernel)⟩
  have accepted : (comparisonV12 evaluatedDir).map (fun counts =>
      (cveVerdict counts 1 (expectedMatrix [] ["3.5.6"])).1) = .ok true := by decide +kernel
  cases compared : comparisonV12 evaluatedDir with
  | error error =>
      rw [compared] at accepted
      cases accepted
  | ok counts =>
      rw [compared] at accepted
      exact cveVerdict_backed loaded produced compared
        (expectedMatrix_expectsKnown [] ["3.5.6"]) (Except.ok.inj accepted)
        (("3.5.6", "S2"), true, "X25519MLKEM768") (by decide) 1 (by decide)

end FaultInject.V12
