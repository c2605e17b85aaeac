import FaultInject.Proof.Errors
import FaultInject.Proof.MitmProxy
import FaultInject.Proof.MutationLog
import FaultInject.Proof.SshKexinit

namespace FaultInject.Harness
open Python

/-- The metrics of a known implementation can be collected. -/
theorem collectMetrics_returns {impl : String} (known : impl ∈ ["openssl", "boringssl", "openssh"])
    (text : String) (exitCode : Int) : ∃ metrics, collectMetrics impl text exitCode = .ok metrics := by
  have pattern : ∃ markers, groupPattern impl = .ok markers := by
    rcases List.mem_cons.mp known with rfl | known
    · exact ⟨_, rfl⟩
    · rcases List.mem_cons.mp known with rfl | known
      · exact ⟨_, rfl⟩
      · rw [List.mem_singleton.mp known]
        exact ⟨_, rfl⟩
  have success : ∃ marked, successMark impl text = .ok marked := by
    rcases List.mem_cons.mp known with rfl | known
    · exact ⟨_, rfl⟩
    · rcases List.mem_cons.mp known with rfl | known
      · exact ⟨_, rfl⟩
      · rw [List.mem_singleton.mp known]
        exact ⟨_, rfl⟩
  obtain ⟨markers, pattern⟩ := pattern
  obtain ⟨marked, success⟩ := success
  rw [collectMetrics, parseGroup, pattern, parseHandshake, success]
  split <;> exact ⟨_, rfl⟩

theorem scenarioMetrics_returns {spec : ScenarioSpec}
    (known : spec.impl ∈ ["openssl", "boringssl", "openssh"]) (outcome : Outcome) :
    ∃ metrics, scenarioMetrics spec outcome = .ok metrics := by
  obtain ⟨base, result⟩ := collectMetrics_returns known outcome.clientText outcome.returncode
  unfold scenarioMetrics
  split
  · rw [collectMetricsV11, result]
    exact ⟨_, rfl⟩
  · exact ⟨base, result⟩

end FaultInject.Harness

namespace FaultInject.Run
open Python Record Harness Conditions FaultBinding VerifyApplied MutationLog MitmProxy

/-- These are the name of the proxy log and the identifier of the run. -/
def identifierOf (spec : ScenarioSpec) : String :=
  runId spec.impl spec.faultType spec.repetition spec.condition

def proxyLogOf (spec : ScenarioSpec) : String := identifierOf spec ++ "-proxy.log"

/-- This is the test that the verification applies to each line of the proxy log. -/
def isMutation (spec : ScenarioSpec) (line : String) : Bool :=
  if spec.faultType = "binding" then isBindingMutation line else isStripMutation line

/-- The scenario logs the mutation of its proxy and is verified by this log. -/
structure LogsMutation (spec : ScenarioSpec) (event groupId : String)
    (transform : Bytes → Result Bytes) : Prop where
  known : spec.impl ∈ ["openssl", "boringssl", "openssh"]
  upstream : spec.proxyUpstreamPort.isSome = true
  mutate : spec.proxyMutate = some (logMutation event (proxyLogOf spec) groupId transform)
  log : spec.proxyLog = some (proxyLogOf spec)
  only : ∀ data, OnlyValueErrors (transform data)
  plainEvent : Plain event
  plainGroup : Plain groupId
  recognized : ∀ data forged, isMutation spec (mutationLine event groupId data forged) =
    (Sha256.hexdigest data != Sha256.hexdigest forged)
  kind : spec.faultType = "binding" ∨
    spec.faultType = "condition" ∧ spec.condition = "onpath-strip"

theorem plain_openssl : Plain "0x11ec" := plain_of_all rfl

theorem plain_boringssl : Plain "0x6399" := plain_of_all rfl

theorem plain_openssh : Plain "sntrup761x25519-sha512@openssh.com" := plain_of_all rfl

theorem binding_values {impl : String} {paths : Dict String String} {values : Binding}
    (chosen : binding impl paths = .ok values) :
    impl ∈ ["openssl", "boringssl", "openssh"] ∧ Plain values.groupId ∧
      ∀ data, OnlyValueErrors (values.transform data) := by
  have openssl : (TlsClientHello.pqComponents.lookup 0x11EC).isSome = true := by decide
  have boringssl : (TlsClientHello.pqComponents.lookup 0x6399).isSome = true := by decide
  unfold binding at chosen
  split at chosen
  · simp only [bind_eq_ok, Except.ok.injEq] at chosen
    obtain ⟨_, _, _, _, rfl⟩ := chosen
    exact ⟨by decide, plain_openssl,
      fun data => TlsClientHello.forgePqComponent_onlyValueErrors data openssl⟩
  · simp only [bind_eq_ok, Except.ok.injEq] at chosen
    obtain ⟨_, _, _, _, _, _, rfl⟩ := chosen
    exact ⟨by decide, plain_boringssl,
      fun data => TlsClientHello.forgePqComponent_onlyValueErrors data boringssl⟩
  · simp only [bind_eq_ok, Except.ok.injEq] at chosen
    obtain ⟨_, _, _, _, _, _, _, _, rfl⟩ := chosen
    exact ⟨by decide, plain_openssh, SshKexinit.forgeSshPqComponent_onlyValueErrors⟩
  · cases chosen

theorem strip_values {impl : String} {values : Strip} (chosen : strip impl = .ok values) :
    impl ∈ ["openssl", "boringssl", "openssh"] ∧ Plain values.groupId ∧
      ∀ data, OnlyValueErrors (values.transform data) := by
  have openssl : s!"0x{formatHex 4 0x11EC}" = "0x11ec" := by decide
  have boringssl : s!"0x{formatHex 4 0x6399}" = "0x6399" := by decide
  unfold strip at chosen
  split at chosen
  · cases chosen
    refine ⟨by decide, ?_, fun data => TlsClientHello.stripHybrid_onlyValueErrors data 0x11EC⟩
    rw [openssl]
    exact plain_openssl
  · cases chosen
    refine ⟨by decide, ?_, fun data => TlsClientHello.stripHybrid_onlyValueErrors data 0x6399⟩
    rw [boringssl]
    exact plain_boringssl
  · cases chosen
    exact ⟨by decide, plain_openssh, fun data => SshKexinit.stripKexinitAlgorithm_onlyValueErrors
      data "sntrup761x25519-sha512@openssh.com"⟩
  · cases chosen

/-- A binding scenario logs the mutation of its values. -/
theorem bindingSpec_logs {impl : String} {rep : Int} {env paths : Dict String String}
    {values : Binding} {spec : ScenarioSpec} (chosen : binding impl paths = .ok values)
    (planned : bindingSpec impl rep env paths = .ok spec) :
    LogsMutation spec "binding_mutation" values.groupId values.transform := by
  obtain ⟨known, group, only⟩ := binding_values chosen
  rw [bindingSpec, chosen] at planned
  have same := (Except.ok.inj planned).symm
  subst same
  constructor
  · exact known
  · rfl
  · rfl
  · rfl
  · exact only
  · exact plain_bindingMutation
  · exact group
  · exact fun data forged => (if_pos rfl).trans (isBindingMutation_mutationLine data forged group)
  · exact .inl rfl

/-- Every binding scenario logs its mutation. -/
theorem bindingSpec_logsMutation {impl : String} {rep : Int} {env paths : Dict String String}
    {spec : ScenarioSpec} (planned : bindingSpec impl rep env paths = .ok spec) :
    ∃ event groupId transform, LogsMutation spec event groupId transform := by
  obtain ⟨values, chosen, _⟩ := bind_eq_ok.mp planned
  exact ⟨_, _, _, bindingSpec_logs chosen planned⟩

theorem conditionSpec_values {impl condition : String} {rep : Int} {env paths : Dict String String}
    {spec : ScenarioSpec} (planned : conditionSpec impl condition rep env paths = .ok spec) :
    spec.impl = impl ∧ spec.faultType = "condition" ∧ spec.repetition = rep := by
  obtain ⟨port, _, planned⟩ := bind_eq_ok.mp planned
  obtain ⟨commands, _, same⟩ := bind_eq_ok.mp planned
  cases same
  exact ⟨rfl, rfl, rfl⟩

/-- The log of a stripping scenario has the name of its run. -/
theorem stripLog_eq (impl : String) (repetition : Int) :
    s!"{impl}_condition_r{formatDecimal 2 repetition}_onpath-strip-proxy.log" =
      runId impl "condition" repetition "onpath-strip" ++ "-proxy.log" := by
  apply String.toList_injective
  show (impl ++ "_condition_r" ++ formatDecimal 2 repetition ++ "_onpath-strip-proxy.log").toList =
    (impl ++ "_" ++ "condition" ++ "_r" ++ formatDecimal 2 repetition ++ "_" ++ "onpath-strip" ++
      "-proxy.log").toList
  simp

/-- A stripping scenario logs the mutation of its values. -/
theorem stripSpec_logs {impl : String} {repetition : Int} {environment paths : Dict String String}
    {values : Strip} {spec : ScenarioSpec} (chosen : strip impl = .ok values)
    (planned : stripSpec impl repetition environment paths = .ok spec) :
    LogsMutation spec "strip_mutation" values.groupId values.transform := by
  obtain ⟨known, group, only⟩ := strip_values chosen
  obtain ⟨base, based, planned⟩ := bind_eq_ok.mp planned
  rw [chosen] at planned
  have same := (Except.ok.inj planned).symm
  subst same
  obtain ⟨rfl, condition, rfl⟩ := conditionSpec_values based
  have name : s!"{base.impl}_condition_r{formatDecimal 2 base.repetition}_onpath-strip-proxy.log" =
      runId base.impl base.faultType base.repetition "onpath-strip" ++ "-proxy.log" := by
    rw [condition]
    exact stripLog_eq base.impl base.repetition
  constructor
  · exact known
  · rfl
  · exact congrArg (fun path => some (logMutation "strip_mutation" path values.groupId
      values.transform)) name
  · exact congrArg some name
  · exact only
  · exact plain_stripMutation
  · exact group
  · have other : ¬base.faultType = "binding" := by
      rw [condition]
      decide
    exact fun data forged => (if_neg other).trans (isStripMutation_mutationLine data forged group)
  · exact .inr ⟨condition, rfl⟩

/-- Every stripping scenario logs its mutation. -/
theorem stripSpec_logsMutation {impl : String} {repetition : Int}
    {environment paths : Dict String String} {spec : ScenarioSpec}
    (planned : stripSpec impl repetition environment paths = .ok spec) :
    ∃ event groupId transform, LogsMutation spec event groupId transform := by
  obtain ⟨base, _, made⟩ := bind_eq_ok.mp planned
  obtain ⟨values, chosen, _⟩ := bind_eq_ok.mp made
  exact ⟨_, _, _, stripSpec_logs chosen planned⟩

/-- This is the byte result of a logged mutation. -/
def forgeOf (transform : Bytes → Result Bytes) (data : Bytes) : Bytes :=
  (transform data).toOption.getD data

/-- This is the effect of a logged mutation on the files. -/
def logEffect (event path groupId : String) (forge : Bytes → Bytes) (data : Bytes)
    (runDir : Directory) : Directory :=
  if forge data ≠ data then
    runDir.appendText path (mutationLine event groupId data (forge data) ++ "\n")
  else runDir

/-- A mutation that raises only value errors always returns. -/
theorem logMutation_eq (event path groupId : String) {transform : Bytes → Result Bytes}
    (only : ∀ data, OnlyValueErrors (transform data)) (data : Bytes) (runDir : Directory) :
    logMutation event path groupId transform data runDir =
      .ok (forgeOf transform data,
        logEffect event path groupId (forgeOf transform) data runDir) := by
  rw [logMutation, logEffect, forgeOf]
  cases result : transform data with
  | error error =>
      have caught := only data error result
      simp [exceptValueError, Except.map, Except.toOption, caught]
  | ok forged =>
      by_cases same : forged = data <;>
        simp [exceptValueError, Except.map, Except.toOption, same]

/-- This is the log behind a run that starts with the prior log. -/
def logAfter (event groupId : String) (forge : Bytes → Bytes) (received : List Bytes)
    (prior : Option File) : Option File :=
  match firstChanged forge received with
  | some chunk => some (.appended prior (mutationLine event groupId chunk (forge chunk) ++ "\n"))
  | none => prior

/-- This is the verdict of the verification on the log. -/
def logVerdict (spec : ScenarioSpec) : Option File → Result Bool
  | some file => do
    let text ← file.readText
    .ok ((splitlines text).any (isMutation spec))
  | none => .error (.fileNotFoundError (proxyLogOf spec))

section Names
variable {identifier : String}

/-- The files of one run have different names. -/
theorem name_ne {first second : String} (different : first ≠ second) :
    identifier ++ first ≠ identifier ++ second :=
  fun same => different ((String.append_right_inj identifier).mp same)

theorem get?_scenarioFiles (spec : ScenarioSpec) (outcome : Outcome) (runDir : Directory) :
    (scenarioFiles spec identifier outcome runDir).get? (identifier ++ "-proxy.log") =
      runDir.get? (identifier ++ "-proxy.log") := by
  have server : identifier ++ "-proxy.log" ≠ s!"{identifier}-server.log" := name_ne (by decide)
  have capture : identifier ++ "-proxy.log" ≠ s!"{identifier}-capture.log" := name_ne (by decide)
  have pcap : identifier ++ "-proxy.log" ≠ s!"{identifier}.pcapng" := name_ne (by decide)
  rw [scenarioFiles]
  split
  · rw [Dict.get?_set, if_neg pcap, Dict.get?_set, if_neg capture, Dict.get?_set, if_neg server]
  · rw [Dict.get?_set, if_neg capture, Dict.get?_set, if_neg server]

end Names

section Verdict
variable {spec : ScenarioSpec} {event groupId : String} {transform : Bytes → Result Bytes}

/-- The verification reads the log of the record. -/
theorem LogsMutation.verified_eq (logs : LogsMutation spec event groupId transform)
    (evidence : Evidence) {record : RunRecord} (outputDir : Directory)
    (fault : record.faultType = spec.faultType) (condition : record.condition = spec.condition)
    (artifact : record.artifacts.get? "proxy_log" = some (proxyLogOf spec)) :
    verified evidence record outputDir = logVerdict spec (outputDir.get? (proxyLogOf spec)) := by
  have item : record.artifacts.getItem "proxy_log" "proxy_log" = .ok (proxyLogOf spec) :=
    Dict.getItem_eq_ok.mpr artifact
  rcases logs.kind with binding | ⟨stripped, onpath⟩
  · have other : ¬spec.faultType = "condition" := by
      rw [binding]
      decide
    rw [verified, fault, if_neg other, if_pos binding, item, ok_bind, verifyBinding,
      Directory.file]
    cases outputDir.get? (proxyLogOf spec) with
    | none => rfl
    | some file =>
        have test : isMutation spec = isBindingMutation := funext fun line => if_pos binding
        rw [ok_bind, logVerdict, test]
  · have other : ¬spec.faultType = "binding" := by
      rw [stripped]
      decide
    have present : ¬spec.condition = "silent-downgrade" := by
      rw [onpath]
      decide
    rw [verified, fault, if_pos stripped, verifyCondition, condition, if_neg present,
      if_pos onpath, item, ok_bind, Directory.file]
    cases outputDir.get? (proxyLogOf spec) with
    | none => rfl
    | some file =>
        have test : isMutation spec = isStripMutation := funext fun line => if_neg other
        rw [ok_bind, logVerdict, test]

/-- The record of the scenario names the log and leaves it as it is. -/
theorem LogsMutation.scenarioRecord_eq (logs : LogsMutation spec event groupId transform)
    (outcome : Outcome) (runDir : Directory) :
    ∃ record after, scenarioRecord spec (identifierOf spec) outcome runDir = .ok (record, after) ∧
      record.runId = identifierOf spec ∧ record.faultType = spec.faultType ∧ record.condition = spec.condition ∧
      record.artifacts.get? "proxy_log" = some (proxyLogOf spec) ∧
      after.get? (proxyLogOf spec) = runDir.get? (proxyLogOf spec) := by
  obtain ⟨metrics, collected⟩ := scenarioMetrics_returns logs.known outcome
  rw [scenarioRecord]
  dsimp only
  rw [collected, ok_bind]
  refine ⟨_, _, rfl, rfl, rfl, rfl, ?_, ?_⟩
  · rw [scenarioArtifacts, logs.log]
    dsimp only
    rw [Dict.get?_set, if_pos rfl]
  · have json : proxyLogOf spec ≠ s!"{identifierOf spec}.json" := name_ne (by decide)
    have client : proxyLogOf spec ≠ s!"{identifierOf spec}-client.log" := name_ne (by decide)
    rw [Directory.toJsonPath, Dict.get?_set, if_neg json, Dict.get?_set, if_neg client]

/-- The proxy leaves the log with the line of the first effective mutation. -/
theorem LogsMutation.proxyFiles_eq (logs : LogsMutation spec event groupId transform)
    {events : List MitmProxy.Event} {runDir : Directory} {proxied : Result Directory}
    (ran : proxyFiles spec events runDir = some proxied) :
    ∃ after, proxied = .ok after ∧ after.get? (proxyLogOf spec) =
      logAfter event groupId (forgeOf transform) (chunks .client events)
        (runDir.get? (proxyLogOf spec)) := by
  obtain ⟨port, upstream⟩ := Option.isSome_iff_exists.mp logs.upstream
  rw [proxyFiles, upstream, logs.mutate] at ran
  obtain ⟨state, reached, same⟩ := Option.map_eq_some_iff.mp ran
  have determined := logMutation_eq event (proxyLogOf spec) groupId logs.only
  have sound := run_sound (fun data world => ⟨_, determined data world⟩) reached
  have world := run_world determined (fun data world unchanged => by
    rw [logEffect, if_neg (not_not.mpr unchanged)]) reached
  refine ⟨state.world, ?_, ?_⟩
  · rw [← same]
    split
    · rename_i error raised
      exact absurd raised (sound.sockets.raised error)
    · rfl
  · rw [world, logAfter]
    cases found : firstChanged (forgeOf transform) (chunks .client events) with
    | none => rfl
    | some chunk =>
        dsimp only
        rw [logEffect, if_pos (changed_of_firstChanged found), Directory.appendText, Dict.get?_set, if_pos rfl]

/-- The verified scenario gets the verdict on the log behind the run and leaves this log. -/
theorem LogsMutation.runVerified_eq (logs : LogsMutation spec event groupId transform)
    (evidence : Evidence) {outcome : Outcome} {outDir : Directory}
    {result : Result (RunRecord × Directory)}
    (ran : runVerified evidence spec outcome outDir = some result) :
    ∃ log, log = logAfter event groupId (forgeOf transform) (chunks .client outcome.events)
        (outDir.get? (proxyLogOf spec)) ∧
      result.map (fun returned => returned.1.manipulationVerified) = logVerdict spec log ∧
      ∀ record after, result = .ok (record, after) → after.get? (proxyLogOf spec) = log := by
  obtain ⟨scenario, started, same⟩ := Option.map_eq_some_iff.mp ran
  obtain ⟨proxied, forwarded, recorded⟩ := Option.map_eq_some_iff.mp started
  obtain ⟨files, finished, log⟩ := logs.proxyFiles_eq forwarded
  obtain ⟨record, after, returned, named, fault, condition, artifact, kept⟩ :=
    logs.scenarioRecord_eq outcome files
  have prior : (scenarioFiles spec (identifierOf spec) outcome outDir).get? (proxyLogOf spec) =
      outDir.get? (proxyLogOf spec) := get?_scenarioFiles spec outcome outDir
  have kept := kept.trans (log.trans (congrArg _ prior))
  refine ⟨_, rfl, ?_⟩
  rw [← same, ← recorded, finished, ok_bind, ← identifierOf, returned, ok_bind]
  dsimp only
  rw [verifyRecord, logs.verified_eq evidence after fault condition artifact, kept]
  cases logVerdict spec (logAfter event groupId (forgeOf transform)
      (chunks .client outcome.events) (outDir.get? (proxyLogOf spec))) with
  | error error => exact ⟨rfl, fun _ _ impossible => by cases impossible⟩
  | ok verdict =>
      refine ⟨rfl, fun marked last same => ?_⟩
      cases same
      have json : proxyLogOf spec ≠ s!"{record.runId}.json" := by
        rw [named]
        exact name_ne (by decide)
      exact (Dict.get?_set ..).trans ((if_neg json).trans kept)

end Verdict

end FaultInject.Run
