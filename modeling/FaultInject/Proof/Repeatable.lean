import FaultInject.Proof.Progress
import FaultInject.Proof.SpecLists

/-
This file repeats the evaluations of the matrix runs. None of them reads a field that it sets.
-/

namespace FaultInject.Matrix
open Python Record Harness V12 V15 V16 V18
open Analyze (repetitionRange)

section Evaluations
variable {host : String → Option Bytes} {environ : Dict String String} {record evaluated : RunRecord}
  {runDir other after : Directory}

/-- A record with the labels and the artifacts of another one is of the same specification. -/
theorem OfSpec.of_same {spec : ScenarioSpec} (ofSpec : OfSpec spec record)
    (labels : (evaluated.runId, evaluated.implementation, evaluated.faultType, evaluated.repetition,
        evaluated.condition, evaluated.artifacts) =
      (record.runId, record.implementation, record.faultType, record.repetition,
        record.condition, record.artifacts)) : OfSpec spec evaluated := by
  simp only [Prod.mk.injEq] at labels
  obtain ⟨runIds, implementations, faults, repetitions, conditions, artifacts⟩ := labels
  constructor
  · rw [runIds, ofSpec.runId]
  · rw [implementations, ofSpec.implementation]
  · rw [faults, ofSpec.faultType]
  · rw [repetitions, ofSpec.repetition]
  · rw [conditions, ofSpec.condition]
  · rw [artifacts, ofSpec.artifacts]

theorem evaluateV12_ofSpec {spec : ScenarioSpec} {search : Audit.Search}
    {tsharkSummary : String → Option String} {provenance : Dict String Value}
    (returned : evaluateV12 search tsharkSummary record runDir provenance = .ok (evaluated, after))
    (ofSpec : OfSpec spec record) : OfSpec spec evaluated := by
  obtain ⟨metrics, _, returned⟩ := bind_eq_ok.mp returned
  obtain ⟨clientLog, _, same⟩ := bind_eq_ok.mp returned
  cases same
  exact ofSpec.of_same rfl

theorem evaluateV15_ofSpec {spec : ScenarioSpec} {server client : String}
    (returned : evaluateV15 host environ record runDir server client = .ok (evaluated, after))
    (ofSpec : OfSpec spec record) : OfSpec spec evaluated := by
  obtain ⟨metrics, _, returned⟩ := bind_eq_ok.mp returned
  simp only [bind_eq_ok, Except.ok.injEq, Prod.mk.injEq] at returned
  obtain ⟨_, _, _, _, _, _, rfl, _⟩ := returned
  exact ofSpec.of_same rfl

theorem evaluateV16_ofSpec {spec setting : ScenarioSpec}
    (returned : evaluateV16 host record runDir setting = .ok (evaluated, after))
    (ofSpec : OfSpec spec record) : OfSpec spec evaluated := by
  obtain ⟨summary, _, returned⟩ := bind_eq_ok.mp returned
  simp only [bind_eq_ok, Except.ok.injEq, Prod.mk.injEq] at returned
  obtain ⟨_, _, _, _, _, _, rfl, _⟩ := returned
  exact ofSpec.of_same rfl

theorem evaluateV18_ofSpec {spec : ScenarioSpec} {client server : String}
    (returned : evaluateV18 host environ record runDir client server = .ok (evaluated, after))
    (ofSpec : OfSpec spec record) : OfSpec spec evaluated := by
  obtain ⟨summary, _, returned⟩ := bind_eq_ok.mp returned
  obtain ⟨candidate, _, returned⟩ := bind_eq_ok.mp returned
  split at returned
  · cases returned
    exact ofSpec.of_same rfl
  · obtain ⟨serverCmd, _, same⟩ := bind_eq_ok.mp returned
    cases same
    exact ofSpec.of_same rfl

/-- The same artifacts give the same files. -/
theorem artifactFile_of_same (same : SameArtifacts record runDir other) (key : String) :
    other.artifactFile record key = runDir.artifactFile record key := by
  unfold Directory.artifactFile
  cases found : record.artifacts.get? key with
  | none => rfl
  | some name => simp only [same key name found]

theorem captureBytes_of_same (same : SameArtifacts record runDir other) :
    captureBytes record other = captureBytes record runDir := by
  unfold captureBytes
  cases found : record.artifacts.get? "pcap" with
  | none => rfl
  | some name => simp only [same "pcap" name found]

theorem auditRecord_of_same (search : Audit.Search) (tsharkSummary : String → Option String)
    (same : SameArtifacts record runDir other) :
    Audit.auditRecord search tsharkSummary record other =
      Audit.auditRecord search tsharkSummary record runDir := by
  have read (key : String) :
      Audit.readArtifact record other key = Audit.readArtifact record runDir key := by
    unfold Audit.readArtifact
    cases found : record.artifacts.get? key with
    | none => rfl
    | some name => simp only [same key name found]
  simp only [Audit.auditRecord, read]

/-- The captured metrics do not depend on the fields that the capture sets. -/
theorem captureMetrics_again {before metrics : Metrics} {capture : Option Bytes}
    (captured : captureMetrics before capture = .ok metrics) (log flagged : Option Bool) :
    captureMetrics { metrics with hrrLogPresent := log, downgradeFlagged := flagged } capture =
      .ok { metrics with hrrLogPresent := log, downgradeFlagged := flagged } := by
  cases capture with
  | none =>
      cases captured
      rfl
  | some pcap =>
      obtain ⟨summary, parsed, same⟩ := bind_eq_ok.mp captured
      cases same
      rw [captureMetrics, parsed, ok_bind]

/-- The evaluation of the server-setting matrix can be repeated. -/
theorem evaluateV12_again {search : Audit.Search} {tsharkSummary : String → Option String}
    {provenance : Dict String Value}
    (returned : evaluateV12 search tsharkSummary record runDir provenance = .ok (evaluated, after))
    (same : SameArtifacts record runDir other) :
    evaluateV12 search tsharkSummary evaluated other provenance =
      .ok (evaluated, other.toJsonPath evaluated) := by
  obtain ⟨metrics, captured, returned⟩ := bind_eq_ok.mp returned
  obtain ⟨clientLog, named, result⟩ := bind_eq_ok.mp returned
  cases result
  have log := same "client_log" clientLog (Dict.getItem_eq_ok.mp named)
  rw [← captureBytes_of_same same] at captured
  rw [← log, ← auditRecord_of_same search tsharkSummary same]
  change (captureMetrics _ (captureBytes record other) >>= _) = _
  rw [captureMetrics_again captured, ok_bind]
  change (record.artifacts.getItem "client_log" "client_log" >>= _) = _
  rw [named]
  rfl

/-- The metrics of the comparison are those of its capture. -/
theorem captureMetricsV15_again {before metrics : Metrics} {client : String} {pcap : Option File}
    (captured : captureMetricsV15 before client pcap = .ok metrics) (flagged : Option Bool)
    (detail : String) :
    captureMetricsV15 { metrics with downgradeFlagged := flagged, detail := detail } client pcap =
      .ok { metrics with downgradeFlagged := flagged, detail := detail } := by
  cases pcap with
  | none =>
      cases captured
      rfl
  | some file =>
      rw [captureMetricsV15] at captured ⊢
      split at captured
      · rename_i filled
        obtain ⟨summary, parsed, captured⟩ := bind_eq_ok.mp captured
        obtain ⟨verified, checked, same⟩ := bind_eq_ok.mp captured
        cases same
        rw [if_pos filled, parsed, ok_bind, checked, ok_bind]
      · rename_i empty
        cases captured
        rw [if_neg empty]

/-- The evaluation of the comparison can be repeated. -/
theorem evaluateV15_again {server client : String}
    (returned : evaluateV15 host environ record runDir server client = .ok (evaluated, after))
    (same : SameArtifacts record runDir other) :
    evaluateV15 host environ evaluated other server client =
      .ok (evaluated, other.toJsonPath evaluated) := by
  obtain ⟨metrics, captured, returned⟩ := bind_eq_ok.mp returned
  obtain ⟨serverCmd, installed, returned⟩ := bind_eq_ok.mp returned
  obtain ⟨values, fixed, returned⟩ := bind_eq_ok.mp returned
  obtain ⟨serverBin, binary, result⟩ := bind_eq_ok.mp returned
  cases result
  rw [← artifactFile_of_same same] at captured ⊢
  change (captureMetricsV15 _ client (other.artifactFile record "pcap") >>= _) = _
  rw [captureMetricsV15_again captured, ok_bind, installed, ok_bind, fixed, ok_bind, binary]
  rfl

theorem captureSummary_of_same (same : SameArtifacts record runDir other) :
    captureSummary other record = captureSummary runDir record := by
  rw [captureSummary, captureSummary, artifactFile_of_same same]

/-- The evaluation of the survey can be repeated. -/
theorem evaluateV16_again {spec : ScenarioSpec}
    (returned : evaluateV16 host record runDir spec = .ok (evaluated, after))
    (same : SameArtifacts record runDir other) :
    evaluateV16 host evaluated other spec = .ok (evaluated, other.toJsonPath evaluated) := by
  obtain ⟨summary, read, returned⟩ := bind_eq_ok.mp returned
  obtain ⟨binary, first, returned⟩ := bind_eq_ok.mp returned
  obtain ⟨names, split, returned⟩ := bind_eq_ok.mp returned
  obtain ⟨verified, checked, result⟩ := bind_eq_ok.mp returned
  cases result
  rw [← captureSummary_of_same same] at read
  change (captureSummary other record >>= _) = _
  rw [read, ok_bind]
  change (firstArgument _ >>= _) = _
  rw [first, ok_bind]
  change (conditionNames spec.faultType spec.condition >>= _) = _
  rw [split, ok_bind]
  change (verifiedV16 spec names.2 summary >>= _) = _
  rw [checked]
  cases summary <;> rfl

/-- The evaluation of the client survey can be repeated. -/
theorem evaluateV18_again {client server : String}
    (returned : evaluateV18 host environ record runDir client server = .ok (evaluated, after))
    (same : SameArtifacts record runDir other) :
    evaluateV18 host environ evaluated other client server =
      .ok (evaluated, other.toJsonPath evaluated) := by
  obtain ⟨summary, read, returned⟩ := bind_eq_ok.mp returned
  obtain ⟨candidate, known, returned⟩ := bind_eq_ok.mp returned
  rw [← captureSummary_of_same same] at read
  split at returned
  · rename_i default
    cases returned
    change (captureSummary other record >>= _) = _
    rw [read, ok_bind, known, ok_bind, if_pos default]
    cases summary <;> rfl
  · rename_i named
    obtain ⟨serverCmd, installed, result⟩ := bind_eq_ok.mp returned
    cases result
    change (captureSummary other record >>= _) = _
    rw [read, ok_bind, known, ok_bind, if_neg named, installed]
    cases summary <;> rfl

end Evaluations

/-- These are the programs and the settings outside of a run. -/
structure Context where
  host : String → Option Bytes
  search : Audit.Search
  tsharkSummary : String → Option String
  environ : Dict String String
  outDir : String
  repetitions : Int

/-- These are the matrix runs with the arguments that select their rounds. -/
inductive MatrixRun where
  | v12 (settings versions : List String) (groups : String)
  | v15 (selected : Option (List String))
  | v16
  | v16Direct
  | v18 (clients : Option (List String))
  | e8 (servers : Option (List String))

def MatrixRun.plan (context : Context) : MatrixRun → Plan
  | .v12 settings versions groups =>
      runV12 context.host context.search context.tsharkSummary context.environ context.outDir
        context.repetitions settings versions groups
  | .v15 selected =>
      runV15 context.host context.environ context.outDir context.repetitions selected
  | .v16 => runV16 context.host context.environ context.outDir context.repetitions
  | .v16Direct => runV16Direct context.host context.environ context.outDir context.repetitions
  | .v18 clients =>
      runV18 context.host context.environ context.outDir context.repetitions clients
  | .e8 servers => runE8 context.host context.environ context.outDir context.repetitions servers

/-- No label is chosen twice. -/
def MatrixRun.Distinct : MatrixRun → Prop
  | .v12 settings versions _ => versions.Nodup ∧ settings.Nodup
  | .v16 | .v16Direct => True
  | .v15 choice | .v18 choice | .e8 choice => (choice.getD []).Nodup

section Rounds
variable (context : Context)

theorem runV12_repeatable {settings versions : List String} {groups : String} {job : Job}
    (known : ((MatrixRun.v12 settings versions groups).plan context).Contains job) :
    Repeatable job := by
  obtain ⟨paths, hashes, version, setting, repetition, inputs, made, evaluates⟩ :=
    runV12_job _ _ _ _ known
  have plain := v12Spec_plain made
  refine ⟨⟨plain.proxy, plain.proxyLog, ?_⟩, ?_, ?_⟩
  · intro record runDir evaluated after returned
    rw [evaluates] at returned
    obtain ⟨provenance, _, returned⟩ := bind_eq_ok.mp returned
    exact (evaluateV12_returned returned).1
  · intro record runDir evaluated after returned
    rw [evaluates] at returned
    obtain ⟨provenance, _, returned⟩ := bind_eq_ok.mp returned
    exact evaluateV12_ofSpec returned
  · intro record runDir other evaluated after returned same
    rw [evaluates] at returned
    obtain ⟨provenance, provided, returned⟩ := bind_eq_ok.mp returned
    rw [evaluates, provided]
    exact evaluateV12_again returned same

theorem runV15_repeatable {selected : Option (List String)} {job : Job}
    (known : ((MatrixRun.v15 selected).plan context).Contains job) : Repeatable job := by
  obtain ⟨specs, planned, inside, same⟩ := contains_map rfl known
  have plain := plainSpec_of_mem_v15Specs planned inside
  rw [same]
  refine ⟨⟨plain.proxy, plain.proxyLog, ?_⟩, ?_, ?_⟩
  · intro record runDir evaluated after returned
    obtain ⟨names, _, returned⟩ := bind_eq_ok.mp returned
    exact evaluateV15_own returned
  · intro record runDir evaluated after returned
    obtain ⟨names, _, returned⟩ := bind_eq_ok.mp returned
    exact evaluateV15_ofSpec returned
  · intro record runDir other evaluated after returned same
    obtain ⟨names, split, returned⟩ := bind_eq_ok.mp returned
    dsimp only
    rw [split]
    exact evaluateV15_again returned same

/-- The jobs of the survey and of the direct runs have one evaluation. -/
theorem evaluatedJobs_repeatable {spec : ScenarioSpec} (plain : PlainSpec spec) :
    Repeatable ⟨spec, fun record runDir => evaluateV16 context.host record runDir spec⟩ := by
  refine ⟨⟨plain.proxy, plain.proxyLog, ?_⟩, ?_, ?_⟩
  · exact fun record runDir evaluated after returned => evaluateV16_own returned
  · exact fun record runDir evaluated after returned => evaluateV16_ofSpec returned
  · exact fun record runDir other evaluated after returned same => evaluateV16_again returned same

/-- The jobs of the client survey and of the controls have one evaluation. -/
theorem labelledJob_repeatable {spec : ScenarioSpec} (plain : PlainSpec spec)
    (client server : String) :
    Repeatable ⟨spec, fun record runDir =>
      evaluateV18 context.host context.environ record runDir client server⟩ := by
  refine ⟨⟨plain.proxy, plain.proxyLog, ?_⟩, ?_, ?_⟩
  · exact fun record runDir evaluated after returned => evaluateV18_own returned
  · exact fun record runDir evaluated after returned => evaluateV18_ofSpec returned
  · exact fun record runDir other evaluated after returned same => evaluateV18_again returned same

/-- Every round of a matrix run can be evaluated again. -/
theorem MatrixRun.repeatable (run : MatrixRun) {job : Job}
    (known : (run.plan context).Contains job) : Repeatable job := by
  cases run with
  | v12 settings versions groups => exact runV12_repeatable context known
  | v15 selected => exact runV15_repeatable context known
  | v16 =>
      obtain ⟨specs, planned, inside, same⟩ := contains_map rfl known
      rw [same]
      exact evaluatedJobs_repeatable context (plainSpec_of_mem_v16Specs planned inside)
  | v16Direct =>
      obtain ⟨specs, planned, inside, same⟩ := contains_map rfl known
      rw [same]
      exact evaluatedJobs_repeatable context (plainSpec_of_mem_v16DirectSpecs planned inside)
  | v18 clients =>
      obtain ⟨jobs, built, member⟩ := known
      cases built
      obtain ⟨repetition, _, inside⟩ := List.mem_flatMap.mp member
      obtain ⟨client, _, same⟩ := List.mem_map.mp inside
      obtain ⟨spec, made, rfl⟩ := map_eq_ok.mp same
      exact labelledJob_repeatable context (v18SurveySpec_plain made).1 client defaultServer
  | e8 servers =>
      obtain ⟨jobs, built, member⟩ := known
      cases built
      obtain ⟨repetition, _, inside⟩ := List.mem_flatMap.mp member
      obtain ⟨server, _, inside⟩ := List.mem_flatMap.mp inside
      obtain ⟨client, _, same⟩ := List.mem_map.mp inside
      obtain ⟨spec, made, rfl⟩ := map_eq_ok.mp same
      exact labelledJob_repeatable context (e8Spec_plain made).1 client server

end Rounds

section Apart
open Identity

/-- The rounds of specifications with different files are apart. -/
theorem apart_of_specs {specs : List ScenarioSpec}
    {evaluate : ScenarioSpec → RunRecord → Directory → Result (RunRecord × Directory)}
    (apart : specs.Pairwise fun first second =>
      (artifactNames first).Disjoint (artifactNames second)) :
    (specs.map fun spec => (.ok ⟨spec, evaluate spec⟩ : Result Job)).Pairwise Apart := by
  rw [List.pairwise_map]
  apply apart.imp
  intro first second disjoint job other here there
  cases here
  cases there
  exact disjoint

/-- The rounds that are built in the loop for distinct conditions are apart. -/
theorem apart_of_builds {R : Type} {runs : List R} {build : R → Result Job}
    (key : R → Int × String × String) (distinct : runs.Nodup)
    (injective : ∀ first ∈ runs, ∀ second ∈ runs, key first = key second → first = second)
    (builds : ∀ run job, build run = .ok job → Builds conditionCell (key run) job.spec) :
    (runs.map build).Pairwise Apart := by
  rw [List.pairwise_map]
  apply distinct.imp_of_mem
  intro first second inFirst inSecond different job other here there name inJob inOther
  have built := builds first job here
  have again := builds second other there
  apply different
  apply injective first inFirst second inSecond
  exact built.run_eq again (identifier_eq_of_mem built.proxyLog again.proxyLog inJob inOther)

theorem v18SurveySpec_builds {environ : Dict String String} {client : String} {repetition : Int}
    {spec : ScenarioSpec} (built : V18.surveySpec environ client repetition = .ok spec) :
    Builds conditionCell (repetition, ("openssl", client)) spec := by
  simp only [V18.surveySpec, bind_eq_ok, Except.ok.injEq] at built
  obtain ⟨_, _, _, _, rfl⟩ := built
  constructor
  · rfl
  · exact (by decide : '_' ∉ "openssl".toList)
  · exact (by decide : '_' ∉ "client-default-v18".toList)
  · exact .inl rfl

theorem e8Spec_builds {environ : Dict String String} {server client : String} {repetition : Int}
    {spec : ScenarioSpec} (built : e8Spec environ server client repetition = .ok spec) :
    Builds conditionCell (repetition, ("openssl", s!"{server}--{client}")) spec := by
  simp only [e8Spec, bind_eq_ok, Except.ok.injEq] at built
  obtain ⟨_, _, _, _, _, _, rfl⟩ := built
  constructor
  · rfl
  · exact (by decide : '_' ∉ "openssl".toList)
  · exact (by decide : '_' ∉ "actual-client-e8".toList)
  · exact .inl rfl

variable {context : Context}

/-- No two rounds of a matrix run write one file. -/
theorem MatrixRun.apart {run : MatrixRun} (distinct : run.Distinct)
    {jobs : List (Result Job)} (planned : (run.plan context).jobs = .ok jobs) :
    jobs.Pairwise Apart := by
  cases run with
  | v12 settings versions groups =>
      obtain ⟨paths, _, planned⟩ := bind_eq_ok.mp planned
      obtain ⟨hashes, _, planned⟩ := bind_eq_ok.mp planned
      obtain ⟨specs, built, same⟩ := bind_eq_ok.mp planned
      cases same
      exact apart_of_specs (v12Specs_plans _ _ groups distinct.1 distinct.2 built).apart
  | v15 selected =>
      obtain ⟨specs, built, rfl⟩ := map_eq_ok.mp planned
      exact apart_of_specs (v15Specs_plans _ _ (nodup_selectedServers distinct) built).apart
  | v16 =>
      obtain ⟨specs, built, rfl⟩ := map_eq_ok.mp planned
      obtain ⟨others, again, plans⟩ := v16Specs_plans context.environ context.repetitions
      rw [built] at again
      cases again
      exact apart_of_specs plans.apart
  | v16Direct =>
      obtain ⟨specs, built, rfl⟩ := map_eq_ok.mp planned
      obtain ⟨others, again, plans⟩ := v16DirectSpecs_plans context.environ context.repetitions
      rw [built] at again
      cases again
      exact apart_of_specs plans.apart
  | v18 clients =>
      cases planned
      rw [← map_pairs _ _ fun run : Int × String =>
        (V18.surveySpec context.environ run.2 run.1).map fun spec => ({
          spec := spec
          evaluate := fun record runDir =>
            evaluateV18 context.host context.environ record runDir run.2 } : Job)]
      apply apart_of_builds (fun run => (run.1, "openssl", run.2))
        (nodup_runs (nodup_selectedOr distinct (by decide)))
      · intro first _ second _ same
        simp only [Prod.mk.injEq] at same
        exact Prod.ext same.1 same.2.2
      · intro run job built
        obtain ⟨spec, made, rfl⟩ := map_eq_ok.mp built
        exact v18SurveySpec_builds made
  | e8 servers =>
      cases planned
      rw [map_product _ _ _ fun repetition server client =>
        (e8Spec context.environ server client repetition).map fun spec => ({
          spec := spec
          evaluate := fun record runDir =>
            evaluateV18 context.host context.environ record runDir client server } : Job)]
      apply apart_of_builds (fun run => (run.1, "openssl", s!"{run.2.1}--{run.2.2}"))
        (nodup_runs ((nodup_selectedOr distinct (by decide)).product (by decide)))
      · intro first inFirst second inSecond same
        -- The controls have one client, so the condition gives the server.
        have firstClient := List.mem_singleton.mp (List.mem_product.mp (mem_runs.mp inFirst).2).2
        have secondClient := List.mem_singleton.mp (List.mem_product.mp (mem_runs.mp inSecond).2).2
        simp only [Prod.mk.injEq, firstClient, secondClient] at same
        have conditions : first.2.1 ++ "--" ++ "botan" = second.2.1 ++ "--" ++ "botan" :=
          same.2.2
        rw [String.append_left_inj, String.append_left_inj] at conditions
        exact Prod.ext same.1 (Prod.ext conditions (firstClient.trans secondClient.symm))
      · intro run job built
        obtain ⟨spec, made, rfl⟩ := map_eq_ok.mp built
        exact e8Spec_builds made
end Apart

/-- In every state of a matrix run, the returned records are those of the first rounds in their
order, also when the run has raised. Each is stored, and its evaluation on the directory gives the
same record and changes no file. -/
theorem MatrixRun.records_kept {context : Context} {run : MatrixRun}
    (distinct : run.Distinct) {runDir : Directory} {events : List Event}
    {state : State}
    (reached : Transition.run (step (run.plan context)) (.initial runDir) events = some state) :
    ∃ done, List.Forall₂ (Kept state.runDir) done state.records ∧
      (state.phase.Active ∨ state.records ≠ [] →
        (run.plan context).jobs = .ok (done.map .ok ++ state.todo)) := by
  obtain ⟨done, progress⟩ := progress_of_run (fun job known => run.repeatable context known)
    (fun jobs planned => MatrixRun.apart distinct planned) reached
  refine ⟨done, progress.kept, fun known => progress.planned (known.imp_right ?_)⟩
  rintro some rfl
  exact some (List.forall₂_nil_left_iff.mp progress.kept)

/-- This is a host without programs. -/
def sampleContext : Context where
  host := fun _ => none
  search := fun _ _ => none
  tsharkSummary := fun _ => none
  environ := .empty
  outDir := "results"
  repetitions := 2

/-- The first of two rounds is kept when the second one has written its capture. -/
theorem MatrixRun.records_kept_sample : ∃ state job record,
    Transition.run (step ((MatrixRun.v12 ["S1"] ["3.5.6"] clientGroups).plan sampleContext))
      (.initial .empty) [.enter, .scenario refusedOutcome, .evaluate,
        .output "openssl_server-setting_r02_3.5.6-S1.pcapng" (.bytes [1])] = some state ∧
    state.records = [record] ∧ Kept state.runDir job record := by
  have ends : (Transition.run
      (step ((MatrixRun.v12 ["S1"] ["3.5.6"] clientGroups).plan sampleContext))
      (.initial .empty) [.enter, .scenario refusedOutcome, .evaluate,
        .output "openssl_server-setting_r02_3.5.6-S1.pcapng" (.bytes [1])]).map
      (fun state => state.records.length) = some 1 := rfl
  obtain ⟨state, reached, count⟩ := Option.map_eq_some_iff.mp ends
  obtain ⟨record, only⟩ := List.length_eq_one_iff.mp count
  have distinct : (MatrixRun.v12 ["S1"] ["3.5.6"] clientGroups).Distinct :=
    ⟨List.nodup_singleton _, List.nodup_singleton _⟩
  obtain ⟨done, kept, _⟩ := MatrixRun.records_kept distinct reached
  rw [only] at kept
  cases kept with
  | cons first rest => exact ⟨state, _, record, reached, only, first⟩

end FaultInject.Matrix
