import FaultInject.Proof.Artifacts
import FaultInject.Proof.Evaluators

/-
This file shows that a matrix run can finish, whatever its programs do.
-/

namespace FaultInject.Matrix
open Python Record Harness V12
open Analyze (repetitionRange)

/-- The round returns on every directory, whatever its programs do. -/
def Job.Returns (job : Job) : Prop :=
  ∀ outcome runDir, ∃ record after evaluated written,
    runScenario job.spec outcome runDir = some (.ok (record, after)) ∧
      job.evaluate record after = .ok (evaluated, written)

section Rounds
variable {plan : Plan} {jobs : List Job} (outcome : Job → Outcome)

/-- These are the events of the rounds. -/
def roundEvents (jobs : List Job) : List Event :=
  jobs.flatMap fun job => [.scenario (outcome job), .evaluate]

/-- A round that returns is two steps of the run. -/
theorem exists_round {job : Job} (returns : job.Returns) {state : State} {rest : List (Result Job)}
    (running : state.phase = .running) (head : state.todo = .ok job :: rest) :
    ∃ next, Transition.run (step plan) state [.scenario (outcome job), .evaluate] = some next ∧
      next.phase = .running ∧ next.todo = rest := by
  obtain ⟨record, after, evaluated, written, ran, returned⟩ := returns (outcome job) state.runDir
  have first : step plan state (.scenario (outcome job)) =
      some { state with runDir := after, phase := .recorded record } := by
    simp only [step, running, head, ran]
  have second : step plan { state with runDir := after, phase := .recorded record } .evaluate =
      some ⟨written, .running, rest, state.records ++ [evaluated]⟩ := by
    simp only [step, head, returned]
  refine ⟨⟨written, .running, rest, state.records ++ [evaluated]⟩, ?_, rfl, rfl⟩
  apply (Transition.run_cons_eq_some _).mpr
  exact ⟨_, first, (Transition.run_singleton ..).trans second⟩

/-- Rounds that return can take place one after the other. -/
theorem exists_rounds (returns : ∀ job ∈ jobs, job.Returns) {state : State}
    (running : state.phase = .running) (todo : state.todo = jobs.map .ok) :
    ∃ last, Transition.run (step plan) state (roundEvents outcome jobs) = some last ∧
      Finished last := by
  induction jobs generalizing state with
  | nil => exact ⟨state, rfl, running, todo⟩
  | cons job jobs ih =>
      obtain ⟨next, taken, still, rest⟩ :=
        exists_round outcome (returns job List.mem_cons_self) running todo
      obtain ⟨last, reached, finished⟩ :=
        ih (fun other member => returns other (List.mem_cons_of_mem _ member)) still rest
      refine ⟨last, ?_, finished⟩
      rw [roundEvents, List.flatMap_cons, Transition.run_append, taken, Option.bind_some]
      exact reached

/-- A run behind its guard can finish when its rounds return. -/
theorem exists_finished {runDir : Directory} (guarded : plan.guard runDir = .ok ())
    (planned : plan.jobs = .ok (jobs.map .ok)) (returns : ∀ job ∈ jobs, job.Returns) :
    ∃ lead state, Transition.run (step plan) (.initial runDir) (lead ++ roundEvents outcome jobs) =
      some state ∧ Finished state := by
  have entered : step plan (.initial runDir) .enter = some (plan.enter (.initial runDir)) := rfl
  rw [Plan.enter, State.initial, guarded, planned] at entered
  cases listed : plan.inventory with
  | none =>
      rw [listed] at entered
      let started : State := ⟨runDir, .running, jobs.map .ok, []⟩
      obtain ⟨last, reached, finished⟩ :=
        exists_rounds outcome returns (rfl : started.phase = .running) rfl
      refine ⟨[.enter], last, ?_, finished⟩
      exact (Transition.run_cons_eq_some _).mpr ⟨_, entered, reached⟩
  | some inventory =>
      rw [listed] at entered
      let written := runDir.set inventory.name (.text (inventory.text fun _ => ""))
      have first : step plan ⟨runDir, .listing, jobs.map .ok, []⟩ (.inventory fun _ => "") =
          some ⟨written, .running, jobs.map .ok, []⟩ := by
        simp only [step, listed, written]
      let started : State := ⟨written, .running, jobs.map .ok, []⟩
      obtain ⟨last, reached, finished⟩ :=
        exists_rounds outcome returns (rfl : started.phase = .running) rfl
      refine ⟨[.enter, .inventory fun _ => ""], last, ?_, finished⟩
      apply (Transition.run_cons_eq_some _).mpr
      exact ⟨_, entered, (Transition.run_cons_eq_some _).mpr ⟨_, first, reached⟩⟩

end Rounds

section Settings
variable {host : String → Option Bytes} {search : Audit.Search}
  {tsharkSummary : String → Option String} {environ paths : Dict String String} {outDir : String}
  {repetitions : Int} {settings versions : List String} {groups : String}

theorem hashesV12_returns (host : String → Option Bytes)
    (servers : ∀ version ∈ versions, (paths.get? s!"server_bin_{version}").isSome) :
    ∃ hashes, hashesV12 host paths versions = .ok hashes := by
  have each : ∀ version ∈ versions, ∃ entry, (do
      let serverBin ← paths.getItem s!"server_bin_{version}" s!"server_bin_{version}"
      .ok (s!"server_lib_{version}", sha256File host (libsslPath serverBin)) :
        Result (String × Option String)) = .ok entry := by
    intro version member
    obtain ⟨serverBin, found⟩ :=
      Dict.getItem_returns (servers version member) s!"server_bin_{version}"
    exact ⟨_, by rw [found]; rfl⟩
  obtain ⟨libraries, built⟩ := mapM_returns each
  exact ⟨_, bind_eq_ok.mpr ⟨libraries, built, rfl⟩⟩

/-- The provenance of a specification of the matrix can be computed. -/
theorem provenanceFor_returns {version setting : String} {repetition : Int} {spec : ScenarioSpec}
    (made : v12Spec environ version setting repetition paths groups = .ok spec)
    (hashes : Dict String (Option String)) :
    ∃ provenance, provenanceFor spec paths hashes = .ok provenance := by
  obtain ⟨arguments, known, made⟩ := bind_eq_ok.mp made
  have divided := Identity.splitCondition_setting version known
  obtain ⟨serverBin, server, made⟩ := bind_eq_ok.mp made
  obtain ⟨cert, _, made⟩ := bind_eq_ok.mp made
  obtain ⟨clientBin, client, made⟩ := bind_eq_ok.mp made
  obtain ⟨env, _, made⟩ := bind_eq_ok.mp made
  obtain ⟨serverEnv, _, same⟩ := bind_eq_ok.mp made
  obtain ⟨shown, argument⟩ : ∃ shown, groupsArgument setting = .ok shown := by
    unfold Dict.item at known
    unfold groupsArgument
    cases found : serverSettings.lookup setting with
    | none =>
        rw [found] at known
        cases known
    | some value => cases value <;> exact ⟨_, rfl⟩
  cases same
  rw [provenanceFor, divided, ok_bind]
  dsimp only
  rw [argument, ok_bind, server, ok_bind, client, ok_bind]
  exact ⟨_, rfl⟩

/-- A direct round of a known implementation that evaluates the matrix returns. -/
theorem returns_of_v12 {spec : ScenarioSpec} {hashes : Dict String (Option String)}
    {version setting : String} {repetition : Int}
    (made : v12Spec environ version setting repetition paths groups = .ok spec) :
    Job.Returns ⟨spec, fun record runDir => do
      let provenance ← provenanceFor spec paths hashes
      evaluateV12 search tsharkSummary record runDir provenance⟩ := by
  intro outcome runDir
  have plain := v12Spec_plain made
  have known : spec.impl ∈ ["openssl", "boringssl", "openssh"] := by
    simp only [v12Spec, bind_eq_ok, Except.ok.injEq] at made
    obtain ⟨_, _, _, _, _, _, _, _, _, _, _, _, rfl⟩ := made
    exact List.mem_cons_self
  obtain ⟨metrics, collected⟩ := scenarioMetrics_returns known outcome
  obtain ⟨record, after, returned⟩ : ∃ record after, scenarioRecord spec (identifier spec) outcome
      (scenarioFiles spec (identifier spec) outcome runDir) = .ok (record, after) := by
    rw [scenarioRecord, collected]
    exact ⟨_, _, rfl⟩
  have clientLog : (record.artifacts.get? "client_log").isSome := by
    rw [(ofSpec_of_scenarioRecord returned).artifacts,
      (Run.artifacts_of_captured (v12Spec_captures made) (identifier spec)).2]
    rfl
  obtain ⟨provenance, provided⟩ := provenanceFor_returns made hashes
  obtain ⟨⟨evaluated, written⟩, evaluates⟩ :=
    Evaluators.evaluateV12_returns record after search tsharkSummary provenance clientLog
  refine ⟨record, after, evaluated, written, ?_, bind_eq_ok.mpr ⟨_, provided, evaluates⟩⟩
  rw [runScenario_direct plain.proxy, returned]

/-- The matrix of known servers and known settings has a round for each repetition of each cell,
and every round returns. -/
theorem runV12_returns (known : ∀ version ∈ versions, version ∈ prefixes.map Prod.fst)
    (named : ∀ setting ∈ settings, setting ∈ serverSettings.map Prod.fst) :
    ∃ jobs : List Job, (runV12 host search tsharkSummary environ outDir repetitions settings
        versions groups).jobs = .ok (jobs.map .ok) ∧
      jobs.length = repetitions.toNat * (versions.length * settings.length) ∧
      ∀ job ∈ jobs, job.Returns := by
  obtain ⟨paths, built, client, cert, servers⟩ := Identity.v12Paths_returns known
  obtain ⟨hashes, hashed⟩ := hashesV12_returns host servers
  have calls : ∀ run ∈ repetitionRange repetitions.toNat ×ˢ (versions ×ˢ settings),
      ∃ spec, Identity.v12Build environ groups paths run = .ok spec := by
    intro run member
    obtain ⟨_, cell⟩ := List.mem_product.mp member
    obtain ⟨version, setting⟩ := List.mem_product.mp cell
    exact Identity.v12Spec_returns environ (known _ version) (named _ setting) client cert
      (servers _ version) run.1 groups
  obtain ⟨specs, made⟩ := mapM_returns calls
  have entries := mapM_eq_ok.mp made
  let evaluate (spec : ScenarioSpec) : Job := ⟨spec, fun record runDir => do
    let provenance ← provenanceFor spec paths hashes
    evaluateV12 search tsharkSummary record runDir provenance⟩
  have listed : v12Specs environ repetitions settings (some paths) versions groups = .ok specs := by
    have chosen : pathsOr (some paths) versions = .ok paths := by
      rw [pathsOr]
      split_ifs
      · exact built
      · rfl
    rw [Identity.v12Specs_eq, chosen, ok_bind, mapM_id_map]
    exact made
  refine ⟨specs.map evaluate, ?_, ?_, ?_⟩
  · rw [List.map_map]
    exact bind_eq_ok.mpr ⟨paths, built, bind_eq_ok.mpr ⟨hashes, hashed,
      bind_eq_ok.mpr ⟨specs, listed, rfl⟩⟩⟩
  · rw [List.length_map, ← entries.length_eq, List.length_product, List.length_product,
      repetitionRange, List.length_map, List.length_range]
  · intro job member
    obtain ⟨spec, inside, rfl⟩ := List.mem_map.mp member
    obtain ⟨run, _, call⟩ := exists_of_mem_forall₂ entries.flip inside
    exact returns_of_v12 call

end Settings

end FaultInject.Matrix
