import FaultInject.Proof.Classification
import FaultInject.Proof.Exceptions
import FaultInject.Proof.SpecLists

namespace FaultInject.Evaluators
open Python Record Harness Audit PcapHello V12 V15 V16 V18
open Identity (serverNames fixedClients)

/-- These are the retry flag, the number of ServerHellos and the final group. -/
abbrev CaptureFields := Option Bool × Option Int × Option String

def captureFields (metrics : Metrics) : CaptureFields :=
  (metrics.hrrPcapPresent, metrics.serverHelloCount, metrics.finalNegotiatedGroup)

def noFields : CaptureFields := (none, none, none)

def summaryFields (summary : HelloSummary) : CaptureFields :=
  (some (decide (summary.hrrCount > 0)), some summary.serverHelloCount,
    groupName summary.finalGroup)

/-- These are the fields of a capture. -/
def fieldsOf (pcap : Bytes) : CaptureFields :=
  match summarizeHellos pcap with
  | .ok summary => summaryFields summary
  | .error _ => noFields

/-- An evaluation reads every file. -/
def openFields : Option File → CaptureFields
  | some pcap => fieldsOf pcap.readBytes
  | none => noFields

/-- An evaluation with the check of the size does not read an empty file. -/
def guardedFields : Option File → CaptureFields
  | some pcap => if pcap.size > 0 then fieldsOf pcap.readBytes else noFields
  | none => noFields

theorem captureBytes_eq (record : RunRecord) (runDir : Directory) :
    captureBytes record runDir = (runDir.artifactFile record "pcap").bind fun pcap =>
      if pcap.size > 0 then some pcap.readBytes else none := by
  unfold captureBytes Directory.artifactFile
  cases record.artifacts.get? "pcap" with
  | none => rfl
  | some name =>
      by_cases empty : name = ""
      · simp [empty]
      · simp only [empty, if_false]
        cases runDir.get? name <;> rfl

section Fields
variable {host : String → Option Bytes} {environ : Dict String String} {record evaluated : RunRecord}
  {runDir after : Directory}

theorem evaluateV12_fields {search : Search} {tsharkSummary : String → Option String}
    {provenance : Dict String Value}
    (returned : evaluateV12 search tsharkSummary record runDir provenance = .ok (evaluated, after)) :
    captureFields evaluated.metrics = guardedFields (runDir.artifactFile record "pcap") := by
  obtain ⟨metrics, read, returned⟩ := bind_eq_ok.mp returned
  obtain ⟨clientLog, _, same⟩ := bind_eq_ok.mp returned
  cases same
  show captureFields metrics = _
  rw [captureBytes_eq] at read
  cases found : runDir.artifactFile record "pcap" with
  | none =>
      rw [found] at read
      cases read
      rfl
  | some pcap =>
      rw [found, Option.bind_some] at read
      rw [guardedFields]
      split at read
      · rename_i size
        obtain ⟨summary, summarized, same⟩ := bind_eq_ok.mp read
        cases same
        rw [if_pos size, fieldsOf, summarized]
        rfl
      · rename_i size
        cases read
        rw [if_neg size]
        rfl

theorem evaluateV15_fields {server client : String}
    (fresh : captureFields record.metrics = noFields)
    (returned : evaluateV15 host environ record runDir server client = .ok (evaluated, after)) :
    captureFields evaluated.metrics = guardedFields (runDir.artifactFile record "pcap") := by
  obtain ⟨metrics, read, returned⟩ := bind_eq_ok.mp returned
  simp only [bind_eq_ok, Except.ok.injEq, Prod.mk.injEq] at returned
  obtain ⟨_, _, _, _, _, _, rfl, _⟩ := returned
  show captureFields metrics = _
  cases found : runDir.artifactFile record "pcap" with
  | none =>
      rw [found] at read
      cases read
      exact fresh
  | some pcap =>
      rw [found, captureMetricsV15] at read
      rw [guardedFields]
      split at read
      · rename_i size
        obtain ⟨summary, summarized, read⟩ := bind_eq_ok.mp read
        obtain ⟨verified, _, same⟩ := bind_eq_ok.mp read
        cases same
        rw [if_pos size, fieldsOf, summarized]
        rfl
      · rename_i size
        cases read
        rw [if_neg size]
        exact fresh

/-- The fields of a summary replace those of the record. -/
theorem summaryMetrics_fields {summary : Option HelloSummary}
    (fresh : captureFields record.metrics = noFields)
    (read : captureSummary runDir record = .ok summary) :
    captureFields (summaryMetrics record.metrics summary) =
      openFields (runDir.artifactFile record "pcap") := by
  unfold captureSummary at read
  cases found : runDir.artifactFile record "pcap" with
  | none =>
      rw [found] at read
      cases read
      exact fresh
  | some pcap =>
      rw [found] at read
      dsimp only at read
      rw [openFields, fieldsOf]
      cases summarized : summarizeHellos pcap.readBytes with
      | error error =>
          rw [summarized] at read
          cases read
      | ok summary =>
          rw [summarized] at read
          cases read
          rfl

theorem evaluateV16_fields {spec : ScenarioSpec} (fresh : captureFields record.metrics = noFields)
    (returned : evaluateV16 host record runDir spec = .ok (evaluated, after)) :
    captureFields evaluated.metrics = openFields (runDir.artifactFile record "pcap") := by
  obtain ⟨summary, read, returned⟩ := bind_eq_ok.mp returned
  simp only [bind_eq_ok, Except.ok.injEq, Prod.mk.injEq] at returned
  obtain ⟨_, _, _, _, _, _, rfl, _⟩ := returned
  exact summaryMetrics_fields fresh read

theorem evaluateV18_fields {client server : String}
    (fresh : captureFields record.metrics = noFields)
    (returned : evaluateV18 host environ record runDir client server = .ok (evaluated, after)) :
    captureFields evaluated.metrics = openFields (runDir.artifactFile record "pcap") := by
  obtain ⟨summary, read, returned⟩ := bind_eq_ok.mp returned
  obtain ⟨candidate, _, returned⟩ := bind_eq_ok.mp returned
  have fields : captureFields evaluated.metrics =
      captureFields (summaryMetrics record.metrics summary) := by
    split at returned
    · cases returned
      rfl
    · obtain ⟨serverCmd, _, same⟩ := bind_eq_ok.mp returned
      cases same
      rfl
  rw [fields]
  exact summaryMetrics_fields fresh read

end Fields

/-- These are the inputs of the evaluations other than the record and its files. -/
structure Inputs where
  host : String → Option Bytes
  environ : Dict String String
  search : Search
  tsharkSummary : String → Option String
  provenance : Dict String Value
  /-- These are the labels for `evaluate_v15`. -/
  server : String
  client : String
  spec : ScenarioSpec
  /-- These are the labels for `evaluate_v18`. -/
  candidate : String
  control : String

structure Results where
  v12 : RunRecord
  v15 : RunRecord
  v16 : RunRecord
  v18 : RunRecord

def Results.fields (results : Results) : List CaptureFields :=
  [results.v12, results.v15, results.v16, results.v18].map fun record =>
    captureFields record.metrics

/-- The four evaluations of a record returned these records. -/
structure Inputs.Returns (inputs : Inputs) (record : RunRecord) (runDir : Directory)
    (results : Results) : Prop where
  v12 : ∃ after, evaluateV12 inputs.search inputs.tsharkSummary record runDir inputs.provenance =
    .ok (results.v12, after)
  v15 : ∃ after, evaluateV15 inputs.host inputs.environ record runDir inputs.server inputs.client =
    .ok (results.v15, after)
  v16 : ∃ after, evaluateV16 inputs.host record runDir inputs.spec = .ok (results.v16, after)
  v18 : ∃ after, evaluateV18 inputs.host inputs.environ record runDir inputs.candidate
    inputs.control = .ok (results.v18, after)

/-- All evaluations assign the same fields. -/
def Results.Agree (results : Results) : Prop :=
  ∀ first ∈ results.fields, ∀ second ∈ results.fields, first = second

/-- The capture of the record is missing or empty. -/
def Unmeasured (runDir : Directory) (record : RunRecord) : Prop :=
  ∀ pcap, runDir.artifactFile record "pcap" = some pcap → pcap.size = 0

/-- The capture of the record is an empty file. -/
def EmptyCapture (runDir : Directory) (record : RunRecord) : Prop :=
  ∃ pcap, runDir.artifactFile record "pcap" = some pcap ∧ pcap.size = 0

variable {inputs : Inputs} {record : RunRecord} {runDir : Directory} {results : Results}

/-- Two evaluations check the size of the capture and two do not. -/
theorem fields_eq (fresh : captureFields record.metrics = noFields)
    (returned : inputs.Returns record runDir results) :
    results.fields =
      [guardedFields (runDir.artifactFile record "pcap"),
        guardedFields (runDir.artifactFile record "pcap"),
        openFields (runDir.artifactFile record "pcap"),
        openFields (runDir.artifactFile record "pcap")] := by
  obtain ⟨_, first⟩ := returned.v12
  obtain ⟨_, second⟩ := returned.v15
  obtain ⟨_, third⟩ := returned.v16
  obtain ⟨_, fourth⟩ := returned.v18
  rw [Results.fields, List.map_cons, List.map_cons, List.map_cons, List.map_singleton,
    evaluateV12_fields first, evaluateV15_fields fresh second, evaluateV16_fields fresh third,
    evaluateV18_fields fresh fourth]

/-- An empty file is read as a capture without messages. -/
theorem fieldsOf_empty {pcap : File} (empty : pcap.size = 0) :
    fieldsOf pcap.readBytes = (some false, some 0, none) := by
  have bytes : pcap.readBytes = [] := List.length_eq_zero_iff.mp empty
  have summary : summarizeHellos [] = .ok {} := by decide +kernel
  rw [bytes, fieldsOf, summary]
  rfl

/-- The returned evaluations agree and do not measure a missing or empty capture exactly when the
capture is not an empty file. -/
theorem Inputs.Returns.agree_iff (fresh : captureFields record.metrics = noFields)
    (returned : inputs.Returns record runDir results) :
    (results.Agree ∧ (Unmeasured runDir record → ∀ fields ∈ results.fields, fields = noFields)) ↔
      ¬EmptyCapture runDir record := by
  have values := fields_eq fresh returned
  constructor
  · rintro ⟨agree, _⟩ ⟨pcap, found, empty⟩
    rw [Results.Agree, values, found, guardedFields, openFields, fieldsOf_empty empty, empty,
      if_neg (Nat.lt_irrefl 0)] at agree
    have same := agree noFields (by simp) (some false, some 0, none) (by simp)
    cases congrArg Prod.fst same
  · intro measured
    rw [Results.Agree, values]
    cases found : runDir.artifactFile record "pcap" with
    | none =>
        have equal : ∀ fields ∈ [guardedFields none, guardedFields none, openFields none,
            openFields none], fields = noFields := by simp [guardedFields, openFields]
        constructor
        · intro first here second there
          rw [equal first here, equal second there]
        · exact fun _ => equal
    | some pcap =>
        have size : pcap.size > 0 := Nat.pos_of_ne_zero fun empty => measured ⟨pcap, found, empty⟩
        have equal : ∀ fields ∈ [guardedFields (some pcap), guardedFields (some pcap),
            openFields (some pcap), openFields (some pcap)], fields = fieldsOf pcap.readBytes := by
          simp [guardedFields, openFields, size]
        constructor
        · intro first here second there
          rw [equal first here, equal second there]
        · intro unmeasured
          exact absurd (unmeasured pcap found) (Nat.ne_of_gt size)

section Returns

/-- The evaluations find these values. The record names its client log. -/
structure Inputs.Known (inputs : Inputs) (record : RunRecord) : Prop where
  clientLog : (record.artifacts.get? "client_log").isSome
  server : inputs.server ∈ serverNames
  client : inputs.client ∈ fixedClients
  /-- The first argument of this command is the evaluated program. -/
  command : (if inputs.spec.faultType ∈ ["client-default", "default-direct"] then
    inputs.spec.clientCmd else inputs.spec.serverCmd) ≠ []
  condition : ∃ names, conditionNames inputs.spec.faultType inputs.spec.condition = .ok names ∧
    (inputs.spec.faultType = "server-software" → names.2 ∈ fixedClients)
  candidate : inputs.candidate ∈ candidates.map Prod.fst
  control : inputs.control = "openssl-3.5.6-default" ∨ inputs.control ∈ serverNames

variable (record runDir)

theorem evaluateV12_returns (search : Search) (tsharkSummary : String → Option String)
    (provenance : Dict String Value) (clientLog : (record.artifacts.get? "client_log").isSome) :
    ∃ result, evaluateV12 search tsharkSummary record runDir provenance = .ok result := by
  obtain ⟨name, named⟩ := Dict.getItem_returns clientLog "client_log"
  obtain ⟨metrics, read⟩ : ∃ metrics,
      captureMetrics record.metrics (captureBytes record runDir) = .ok metrics := by
    cases captureBytes record runDir with
    | none => exact ⟨_, rfl⟩
    | some pcap => exact ⟨_, by rw [captureMetrics, summarizeHellos_eq]; rfl⟩
  exact ⟨_, by rw [evaluateV12, read, ok_bind, named]; rfl⟩

theorem clientPreconditionV15_returns (summary : HelloSummary) {client : String}
    (known : client ∈ fixedClients) :
    ∃ verified, clientPreconditionV15 summary client = .ok verified := by
  obtain ⟨expected, found⟩ := Identity.fixedClient_returns known
  unfold clientPreconditionV15
  split
  · exact ⟨false, rfl⟩
  · exact ⟨_, by rw [found]; rfl⟩

/-- A known server has a command with a program. -/
theorem serverProgram_returns (environ : Dict String String) {server : String}
    (known : server ∈ serverNames) : ∃ command program,
      Dict.item (servers environ) server = .ok command ∧ firstArgument command = .ok program := by
  simp only [serverNames, List.mem_cons, List.not_mem_nil, or_false] at known
  rcases known with rfl | rfl | rfl | rfl | rfl | rfl | rfl <;> exact ⟨_, _, rfl, rfl⟩

theorem evaluateV15_returns (host : String → Option Bytes) (environ : Dict String String)
    {server client : String} (known : server ∈ serverNames) (fixed : client ∈ fixedClients) :
    ∃ result, evaluateV15 host environ record runDir server client = .ok result := by
  obtain ⟨metrics, read⟩ : ∃ metrics, captureMetricsV15 record.metrics client
      (runDir.artifactFile record "pcap") = .ok metrics := by
    unfold captureMetricsV15
    split
    · split
      · rw [summarizeHellos_eq, ok_bind]
        obtain ⟨verified, found⟩ := clientPreconditionV15_returns _ fixed
        exact ⟨_, by rw [found]; rfl⟩
      · exact ⟨_, rfl⟩
    · exact ⟨_, rfl⟩
  obtain ⟨command, program, server, started⟩ := serverProgram_returns environ known
  obtain ⟨values, client⟩ := Identity.fixedClient_returns fixed
  exact ⟨_, by rw [evaluateV15, read, ok_bind, server, ok_bind, client, ok_bind, started]; rfl⟩

theorem captureSummary_returns : ∃ summary, captureSummary runDir record = .ok summary := by
  unfold captureSummary
  split
  · exact ⟨_, by rw [summarizeHellos_eq]; rfl⟩
  · exact ⟨_, rfl⟩

theorem evaluateV16_returns (known : inputs.Known record) :
    ∃ result, evaluateV16 inputs.host record runDir inputs.spec = .ok result := by
  obtain ⟨summary, read⟩ := captureSummary_returns record runDir
  obtain ⟨names, condition, fixed⟩ := known.condition
  obtain ⟨program, started⟩ : ∃ program, firstArgument
      (if inputs.spec.faultType ∈ ["client-default", "default-direct"] then
        inputs.spec.clientCmd else inputs.spec.serverCmd) = .ok program := by
    obtain ⟨program, rest, same⟩ := List.exists_cons_of_ne_nil known.command
    exact ⟨program, by rw [same]; rfl⟩
  obtain ⟨verified, checked⟩ : ∃ verified,
      verifiedV16 inputs.spec names.2 summary = .ok verified := by
    unfold verifiedV16
    split
    · rename_i software
      split
      · exact clientPreconditionV15_returns _ (fixed software)
      · exact ⟨_, rfl⟩
    · exact ⟨_, rfl⟩
  exact ⟨_, by
    rw [evaluateV16, read, ok_bind]
    dsimp only
    rw [started, ok_bind, condition, ok_bind]
    rw [checked]
    rfl⟩

theorem evaluateV18_returns (known : inputs.Known record) : ∃ result,
    evaluateV18 inputs.host inputs.environ record runDir inputs.candidate inputs.control =
      .ok result := by
  obtain ⟨summary, read⟩ := captureSummary_returns record runDir
  obtain ⟨candidate, listed⟩ := Dict.item_returns.mpr known.candidate
  simp only [evaluateV18, read, listed, ok_bind]
  by_cases default : inputs.control = defaultServer
  · rw [if_pos default]
    exact ⟨_, rfl⟩
  · obtain ⟨command, _, found, _⟩ :=
      serverProgram_returns inputs.environ (known.control.resolve_left default)
    rw [if_neg default, found]
    exact ⟨_, rfl⟩

/-- All four evaluations of a record return, whatever its files are. -/
theorem Inputs.Known.returns (known : inputs.Known record) :
    ∃ results, inputs.Returns record runDir results := by
  obtain ⟨v12, first⟩ := evaluateV12_returns record runDir inputs.search inputs.tsharkSummary
    inputs.provenance known.clientLog
  obtain ⟨v15, second⟩ := evaluateV15_returns record runDir inputs.host inputs.environ
    known.server known.client
  obtain ⟨v16, third⟩ := evaluateV16_returns record runDir known
  obtain ⟨v18, fourth⟩ := evaluateV18_returns record runDir known
  exact ⟨⟨v12.1, v15.1, v16.1, v18.1⟩,
    ⟨⟨_, first⟩, ⟨_, second⟩, ⟨_, third⟩, ⟨_, fourth⟩⟩⟩

end Returns

/-- The four evaluations of a record return. They agree and do not measure a missing or empty
capture exactly when the capture is not an empty file. -/
theorem evaluators_agree_iff (runDir : Directory)
    (fresh : captureFields record.metrics = noFields) (known : inputs.Known record) :
    ∃ results, inputs.Returns record runDir results ∧
      ((results.Agree ∧
          (Unmeasured runDir record → ∀ fields ∈ results.fields, fields = noFields)) ↔
        ¬EmptyCapture runDir record) := by
  obtain ⟨results, returned⟩ := known.returns record runDir
  exact ⟨results, returned, returned.agree_iff fresh⟩

/-- These inputs use labels of the tables. -/
def sampleInputs : Inputs where
  host := fun _ => none
  environ := .empty
  search := fun _ _ => none
  tsharkSummary := fun _ => none
  provenance := .empty
  server := "go"
  client := "C1"
  spec := {
    impl := "openssl"
    faultType := "client-default"
    repetition := 1
    condition := "go"
    serverCmd := surveyServer
    clientCmd := ["goclient"]
    listenPort := v12Port
    env := .empty }
  candidate := "java"
  control := defaultServer

/-- This is the record of a run before its evaluation. -/
def sampleRun : RunRecord where
  runId := "openssl_client-default_r01_go"
  implementation := "openssl"
  faultType := "client-default"
  repetition := 1
  condition := "go"
  metrics := {
    negotiatedGroup := none
    isHybrid := false
    downgradeVisible := false
    handshakeResult := "failure" }
  manipulationVerified := false
  artifacts := (Dict.empty.set "pcap" "go.pcapng").set "client_log" "go-client.log"

/-- The labels of the sample are known. -/
theorem sampleInputs_known : sampleInputs.Known sampleRun where
  clientLog := rfl
  server := by decide
  client := by decide
  command := by decide
  condition := ⟨_, rfl, fun software => absurd software (by decide)⟩
  candidate := by decide
  control := .inl rfl

/-- All four evaluations read the ClientHello of a capture. -/
theorem evaluators_agree_iff_sample :
    captureFields sampleRun.metrics = noFields ∧ sampleInputs.Known sampleRun ∧
      ∃ runDir results,
        Dict.get? runDir "go.pcapng" = some (.bytes (helloCapture [0x11EC, 0x001D] [0x001D])) ∧
        sampleInputs.Returns sampleRun runDir results ∧ results.Agree := by
  have fresh : captureFields sampleRun.metrics = noFields := rfl
  let runDir : Directory :=
    Dict.empty.set "go.pcapng" (.bytes (helloCapture [0x11EC, 0x001D] [0x001D]))
  have measured : ¬EmptyCapture runDir sampleRun := by
    rintro ⟨pcap, found, empty⟩
    cases found
    exact absurd empty (by decide)
  obtain ⟨results, returned, agree⟩ :=
    evaluators_agree_iff runDir fresh sampleInputs_known
  exact ⟨fresh, sampleInputs_known, runDir, results, rfl, returned, (agree.mpr measured).1⟩

/-- An empty capture file is not measured by two evaluations and measured by the other two. -/
theorem evaluators_disagree :
    captureFields sampleRun.metrics = noFields ∧
      ∃ runDir results, Dict.get? runDir "go.pcapng" = some (.bytes []) ∧
        sampleInputs.Returns sampleRun runDir results ∧
        results.fields = [noFields, noFields, (some false, some 0, none),
          (some false, some 0, none)] ∧ ¬results.Agree := by
  obtain ⟨results, returned⟩ :=
    sampleInputs_known.returns sampleRun (Dict.empty.set "go.pcapng" (.bytes []))
  have values := fields_eq rfl returned
  have found : Directory.artifactFile (Dict.empty.set "go.pcapng" (.bytes [])) sampleRun "pcap" =
      some (.bytes []) := rfl
  rw [found, guardedFields, if_neg (by decide), openFields, fieldsOf_empty rfl] at values
  refine ⟨rfl, _, results, rfl, returned, values, ?_⟩
  intro agree
  rw [Results.Agree, values] at agree
  cases congrArg Prod.fst (agree noFields (by simp) (some false, some 0, none) (by simp))

end FaultInject.Evaluators
