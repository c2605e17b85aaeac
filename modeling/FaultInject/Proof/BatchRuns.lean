import FaultInject.Proof.Batch

/-
This file shows that the runs with a verification can finish.
-/

namespace FaultInject.Run
open Python Record Harness FaultGroupList VerifyApplied MutationLog MitmProxy
open FaultInject.Matrix (artifactNames identifier)

section Finishing
variable {evidence : Evidence} {start : Directory} {batch : Batch}

/-- The round returns when its own files are those of the start. -/
def Finishes (evidence : Evidence) (start : Directory) (round : ScenarioSpec × Outcome) : Prop :=
  ∀ outDir : Directory, (∀ name ∈ artifactNames round.1, outDir.get? name = start.get? name) →
    ∃ record after, runVerified evidence round.1 round.2 outDir = some (.ok (record, after))

/-- A round that returns is a step of the batch. -/
theorem exists_step {spec : ScenarioSpec} {rest : List ScenarioSpec} {outcome : Outcome}
    {record : RunRecord} {after : Directory} (running : batch.raised = none)
    (head : batch.todo = spec :: rest)
    (ran : runVerified evidence spec outcome batch.outDir = some (.ok (record, after))) :
    ∃ next, Batch.step evidence batch outcome = some next ∧ next.raised = none ∧
      next.todo = rest := by
  obtain ⟨result, scenario, same⟩ := Option.map_eq_some_iff.mp ran
  obtain ⟨⟨first, files⟩, rfl, verified⟩ := bind_eq_ok.mp same
  rw [Batch.step, running, head]
  simp only [scenario, verified]
  exact ⟨_, rfl, rfl, rfl⟩

/-- A run whose rounds return can finish, because no round writes the files of another one. -/
theorem exists_finished {rounds : List (ScenarioSpec × Outcome)}
    (observed : ∀ spec ∈ rounds.map Prod.fst, Observed spec)
    (apart : (rounds.map Prod.fst).Pairwise fun first second =>
      (artifactNames first).Disjoint (artifactNames second))
    (finishes : ∀ round ∈ rounds, Finishes evidence start round) :
    ∃ batch, Transition.run (Batch.step evidence) (.initial (rounds.map Prod.fst) start)
      (rounds.map Prod.snd) = some batch ∧ batch.Finished := by
  -- The induction is on the rounds that are finished.
  have part (done rest : List (ScenarioSpec × Outcome)) (whole : rounds = done ++ rest) :
      ∃ batch, Transition.run (Batch.step evidence) (.initial (rounds.map Prod.fst) start)
        (done.map Prod.snd) = some batch ∧ batch.raised = none ∧ batch.todo = rest.map Prod.fst := by
    induction done using List.reverseRecOn generalizing rest with
    | nil => exact ⟨_, rfl, rfl, by rw [whole]; rfl⟩
    | append_singleton done round ih =>
        obtain ⟨batch, reached, running, todo⟩ := ih (round :: rest) (by rw [whole]; simp)
        obtain ⟨before, progress⟩ := progress_of_run observed apart reached
        have member : round ∈ rounds := by
          rw [whole]
          simp
        have own : ∀ name ∈ artifactNames round.1, batch.outDir.get? name = start.get? name := by
          intro name inside
          apply progress.keeps running
          intro other known written
          exact progress.apart apart todo other known written inside
        obtain ⟨record, after, ran⟩ := finishes round member batch.outDir own
        obtain ⟨next, taken, settled, left⟩ := exists_step running todo ran
        refine ⟨next, ?_, settled, left⟩
        rw [List.map_append]
        exact (Transition.run_concat_eq_some _).mpr ⟨batch, reached, taken⟩
  obtain ⟨batch, reached, running, todo⟩ := part rounds [] (List.append_nil _).symm
  exact ⟨batch, reached, todo, running⟩

/-- The plan of a verified run can finish when its rounds return. -/
theorem exists_finished_of_plan {run : VerifiedRun} {environ : Dict String String}
    {specs : List ScenarioSpec} (planned : run.specs environ = .ok specs)
    {outcome : ScenarioSpec → Outcome}
    (finishes : ∀ spec ∈ specs, Finishes evidence start (spec, outcome spec)) :
    ∃ batch, Transition.run (Batch.step evidence) (.initial specs start) (specs.map outcome) =
      some batch ∧ batch.Finished := by
  have first : (specs.map fun spec => (spec, outcome spec)).map Prod.fst = specs := by
    rw [List.map_map]
    exact List.map_id _
  have second : (specs.map fun spec => (spec, outcome spec)).map Prod.snd = specs.map outcome :=
    List.map_map
  have finished := @exists_finished evidence start (specs.map fun spec => (spec, outcome spec))
  rw [first, second] at finished
  apply finished
  · exact fun spec member => VerifiedRun.observed planned member
  · exact VerifiedRun.apart planned
  · intro round member
    obtain ⟨spec, inside, rfl⟩ := List.mem_map.mp member
    exact finishes spec inside

end Finishing

section Rounds
variable {start : Directory} {spec : ScenarioSpec} {outcome : Outcome}

/-- The events of a proxy that reads at most its first chunk are possible. -/
theorem proxyFiles_possible {event groupId : String} {transform : Bytes → Result Bytes}
    (logs : LogsMutation spec event groupId transform) {events : List MitmProxy.Event}
    (short : events = [] ∨ ∃ data, events = [.recv .client data]) (runDir : Directory) :
    ∃ proxied, proxyFiles spec events runDir = some proxied := by
  obtain ⟨port, upstream⟩ := Option.isSome_iff_exists.mp logs.upstream
  rw [proxyFiles, upstream, logs.mutate]
  rcases short with rfl | ⟨data, rfl⟩
  · exact ⟨_, rfl⟩
  · exact ⟨_, rfl⟩

/-- A round with a proxy returns when its log is there or its first chunk is changed. -/
theorem finishes_of_logs {evidence : Evidence} {event groupId : String}
    {transform : Bytes → Result Bytes} (logs : LogsMutation spec event groupId transform)
    (short : outcome.events = [] ∨ ∃ data, outcome.events = [.recv .client data])
    (whole : WholeLog (start.get? (proxyLogOf spec)))
    (seen : (start.get? (proxyLogOf spec)).isSome = true ∨
      ∃ chunk ∈ chunks .client outcome.events, forgeOf transform chunk ≠ chunk) :
    Finishes evidence start (spec, outcome) := by
  intro outDir same
  obtain ⟨proxied, forwarded⟩ := proxyFiles_possible logs short
    (scenarioFiles spec (identifierOf spec) outcome outDir)
  obtain ⟨result, ran⟩ : ∃ result, runVerified evidence spec outcome outDir = some result := by
    rw [runVerified, runScenario, ← identifierOf, forwarded]
    exact ⟨_, rfl⟩
  have log : outDir.get? (proxyLogOf spec) = start.get? (proxyLogOf spec) := by
    apply same
    rw [artifactNames, outputNames, logs.log]
    exact List.mem_cons_of_mem _ (List.mem_append_right _ List.mem_cons_self)
  have value := logs.assigned_eq evidence (log ▸ whole) ran
  rw [log] at value
  cases result with
  | ok returned => exact ⟨returned.1, returned.2, ran⟩
  | error error =>
      exfalso
      cases found : firstChanged (forgeOf transform) (chunks .client outcome.events) with
      | some chunk =>
          rw [found] at value
          cases value
      | none =>
          rw [found] at value
          rcases seen with present | changed
          · obtain ⟨file, there⟩ := Option.isSome_iff_exists.mp present
            rw [there] at value
            cases value
          · exact firstChanged_eq_none.mp found changed

/-- These tools see no groups, and every baseline is empty. -/
def emptyEvidence : Evidence := ⟨fun _ _ => .ok ⟨0, "", ""⟩, fun _ => some (.text "")⟩

/-- These artifacts of a captured scenario have their names. -/
theorem artifacts_of_captured (captures : spec.captureTraffic = true) (identifier : String) :
    (scenarioArtifacts spec identifier).get? "pcap" = some s!"{identifier}.pcapng" ∧
      (scenarioArtifacts spec identifier).get? "client_log" = some s!"{identifier}-client.log" := by
  rw [scenarioArtifacts, if_pos captures]
  cases spec.proxyLog with
  | none =>
      dsimp only
      constructor <;> simp [Dict.get?_set]
  | some name =>
      dsimp only
      constructor <;> simp [Dict.get?_set]

theorem groupList_other {fault : String} (list : fault = "group-list") :
    ¬fault = "condition" ∧ ¬fault = "binding" := by
  rw [list]
  decide

/-- The tools that see nothing let the verification of a group list return. -/
theorem verified_groupList {record : RunRecord} {outDir : Directory} {pcap client text : String}
    (fault : record.faultType = "group-list") (known : record.implementation ∈ implementations)
    (capture : record.artifacts.get? "pcap" = some pcap)
    (log : record.artifacts.get? "client_log" = some client)
    (written : outDir.get? client = some (.text text)) :
    ∃ value, verified emptyEvidence record outDir = .ok value := by
  obtain ⟨noCondition, noBinding⟩ := groupList_other fault
  rw [verified, if_neg noCondition, if_neg noBinding]
  by_cases ssh : record.implementation = "openssh"
  · have named : baselineName "openssh" = .ok "openssh-d01efaa1-baseline" := rfl
    have opened : outDir.file client = .ok (.text text) := by
      unfold Directory.file
      rw [written]
    rw [if_pos ssh, named, ok_bind, Dict.getItem_eq_ok.mpr log, ok_bind, verifySshGroupList, opened]
    exact ⟨_, rfl⟩
  · obtain ⟨baseline, named⟩ : ∃ baseline, baselineName record.implementation = .ok baseline := by
      simp only [implementations, List.mem_cons, List.not_mem_nil, or_false] at known
      rcases known with same | same | same
      · exact ⟨_, by rw [same]; rfl⟩
      · exact ⟨_, by rw [same]; rfl⟩
      · exact absurd same ssh
    rw [if_neg ssh, named, ok_bind, Dict.getItem_eq_ok.mpr capture]
    exact ⟨_, rfl⟩

/-- The tools that see nothing verify no group list. -/
theorem unverified_groupList {record : RunRecord} {outDir : Directory} {value : Bool}
    (fault : record.faultType = "group-list")
    (checked : verified emptyEvidence record outDir = .ok value) : value = false := by
  obtain ⟨noCondition, noBinding⟩ := groupList_other fault
  rw [verified, if_neg noCondition, if_neg noBinding] at checked
  by_cases ssh : record.implementation = "openssh"
  · rw [if_pos ssh] at checked
    obtain ⟨_, _, checked⟩ := bind_eq_ok.mp checked
    obtain ⟨client, _, checked⟩ := bind_eq_ok.mp checked
    obtain ⟨file, _, checked⟩ := bind_eq_ok.mp checked
    obtain ⟨text, _, checked⟩ := bind_eq_ok.mp checked
    obtain ⟨group, _, same⟩ := bind_eq_ok.mp checked
    have none : (group.isSome && false && group != .none) = value := Except.ok.inj same
    rw [← none, Bool.and_false, Bool.false_and]
  · rw [if_neg ssh] at checked
    obtain ⟨baseline, _, checked⟩ := bind_eq_ok.mp checked
    obtain ⟨pcap, _, same⟩ := bind_eq_ok.mp checked
    exact (Except.ok.inj same).symm

/-- The tools that see nothing let the verification of a direct condition return. -/
theorem verified_direct {record : RunRecord} {outDir : Directory} {pcap : String}
    (fault : record.faultType = "condition") (direct : record.condition ≠ "onpath-strip")
    (capture : record.artifacts.get? "pcap" = some pcap) :
    ∃ value, verified emptyEvidence record outDir = .ok value := by
  rw [verified, if_pos fault, verifyCondition]
  by_cases silent : record.condition = "silent-downgrade"
  · rw [if_pos silent, Dict.getItem_eq_ok.mpr capture]
    exact ⟨_, rfl⟩
  · rw [if_neg silent, if_neg direct]
    exact ⟨_, rfl⟩

/-- A round without a proxy returns. -/
theorem finishes_of_direct (direct : spec.proxyUpstreamPort = none)
    (captures : spec.captureTraffic = true) (known : spec.impl ∈ implementations)
    (kind : spec.faultType = "group-list" ∨
      spec.faultType = "condition" ∧ spec.condition ≠ "onpath-strip") :
    Finishes emptyEvidence start (spec, outcome) := by
  intro outDir _
  obtain ⟨metrics, collected⟩ := scenarioMetrics_returns known outcome
  obtain ⟨pcap, client⟩ := artifacts_of_captured captures (identifier spec)
  obtain ⟨record, files, returned⟩ : ∃ record files, scenarioRecord spec (identifier spec) outcome
      (scenarioFiles spec (identifier spec) outcome outDir) = .ok (record, files) := by
    rw [scenarioRecord, collected]
    exact ⟨_, _, rfl⟩
  have label := Matrix.ofSpec_of_scenarioRecord returned
  have written : files.get? s!"{identifier spec}-client.log" = some (.text outcome.clientText) := by
    obtain ⟨_, _, same⟩ := bind_eq_ok.mp returned
    cases same
    have json : s!"{identifier spec}-client.log" ≠ s!"{identifier spec}.json" := name_ne (by decide)
    exact (Dict.get?_set ..).trans ((if_neg json).trans ((Dict.get?_set ..).trans (if_pos rfl)))
  rw [← label.artifacts] at pcap client
  have checked : ∃ value, verified emptyEvidence record files = .ok value := by
    rcases kind with list | ⟨condition, other⟩
    · exact verified_groupList (label.faultType.trans list) (label.implementation ▸ known) pcap
        client written
    · exact verified_direct (label.faultType.trans condition)
        (fun same => other (label.condition.symm.trans same)) pcap
  obtain ⟨value, checked⟩ := checked
  have marked : verifyRecord emptyEvidence record files =
      .ok (mark record value, files.toJsonPath (mark record value)) :=
    verifyRecord_eq_ok.mpr ⟨value, checked, rfl, rfl⟩
  rw [runVerified, Matrix.runScenario_direct direct, returned, Option.map_some, ok_bind]
  exact ⟨_, _, congrArg some marked⟩

end Rounds

end FaultInject.Run
