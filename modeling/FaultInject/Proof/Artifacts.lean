import FaultInject.Proof.BatchReports
import FaultInject.Proof.Finished
import FaultInject.Proof.JsonFiles

/-
This file shows that each finished round has left the outputs of its programs in the directory.
-/

namespace FaultInject.Matrix
open Python Record Harness V12 V15 V16 V18

/-- These are the files that a captured scenario leaves beside its record. -/
def leftNames (identifier : String) : List String :=
  [s!"{identifier}-server.log", s!"{identifier}-capture.log", s!"{identifier}.pcapng",
    s!"{identifier}-client.log"]

/-- The outputs of the scenario are in the directory. -/
def Left (runDir : Directory) (identifier : String) : Prop :=
  ∀ name ∈ leftNames identifier, (runDir.get? name).isSome

section Scenario
variable {spec : ScenarioSpec} {outcome : Outcome} {record : RunRecord} {runDir files after : Directory}

theorem Left.grows {identifier : String} (left : Left runDir identifier) (grown : Grows runDir after) :
    Left after identifier := fun name member => grown name (left name member)

theorem grows_scenarioFiles (spec : ScenarioSpec) (outcome : Outcome) (runDir : Directory) :
    Grows runDir (scenarioFiles spec (identifier spec) outcome runDir) := by
  have logs := (grows_set runDir s!"{identifier spec}-server.log" outcome.serverOutput).trans
    (grows_set _ s!"{identifier spec}-capture.log" outcome.captureOutput)
  rw [scenarioFiles]
  split
  · exact logs.trans (grows_set _ _ _)
  · exact logs

theorem present_scenarioFiles (captures : spec.captureTraffic = true) {name : String}
    (member : name ∈ [s!"{identifier spec}-server.log", s!"{identifier spec}-capture.log",
      s!"{identifier spec}.pcapng"]) :
    ((scenarioFiles spec (identifier spec) outcome runDir).get? name).isSome := by
  rw [scenarioFiles, if_pos captures]
  simp only [Dict.get?_set]
  rw [List.mem_cons, List.mem_cons, List.mem_singleton] at member
  rcases member with server | capture | pcap
  · rw [if_pos server]
    split_ifs <;> rfl
  · rw [if_pos capture]
    split_ifs <;> rfl
  · rw [if_pos pcap]
    rfl

/-- A captured scenario that returns has left all its outputs. -/
theorem left_of_scenarioRecord (captures : spec.captureTraffic = true)
    (grown : Grows (scenarioFiles spec (identifier spec) outcome runDir) files)
    (returned : scenarioRecord spec (identifier spec) outcome files = .ok (record, after)) :
    Left after (identifier spec) := by
  obtain ⟨metrics, _, same⟩ := bind_eq_ok.mp returned
  cases same
  intro name member
  apply grows_set
  by_cases client : name = s!"{identifier spec}-client.log"
  · rw [client, Dict.get?_set, if_pos rfl]
    rfl
  · apply grows_set
    apply grown
    apply present_scenarioFiles captures
    simpa [leftNames, client] using member

end Scenario

section Captures
variable {environ : Dict String String} {repetition : Int} {spec : ScenarioSpec}

theorem v12Spec_captures {version setting groups : String} {paths : Dict String String}
    (built : v12Spec environ version setting repetition paths groups = .ok spec) :
    spec.captureTraffic = true := by
  simp only [v12Spec, bind_eq_ok, Except.ok.injEq] at built
  obtain ⟨_, _, _, _, _, _, _, _, _, _, _, _, rfl⟩ := built
  rfl

theorem v15Spec_captures {server client : String}
    (built : v15Spec environ server client repetition = .ok spec) : spec.captureTraffic = true := by
  simp only [v15Spec, bind_eq_ok, Except.ok.injEq] at built
  obtain ⟨_, _, _, _, _, _, _, _, rfl⟩ := built
  rfl

theorem surveySpec_captures {client : String}
    (built : V16.surveySpec environ client repetition = .ok spec) : spec.captureTraffic = true := by
  simp only [V16.surveySpec, bind_eq_ok, Except.ok.injEq] at built
  obtain ⟨_, _, _, _, _, _, rfl⟩ := built
  rfl

theorem serverSpec_captures {server client : String}
    (built : serverSpec environ server client repetition = .ok spec) : spec.captureTraffic = true := by
  simp only [serverSpec, bind_eq_ok, Except.ok.injEq] at built
  obtain ⟨_, _, _, _, _, _, rfl⟩ := built
  rfl

theorem directSpec_captures {server client : String}
    (built : directSpec environ server client repetition = .ok spec) : spec.captureTraffic = true := by
  simp only [directSpec, bind_eq_ok, Except.ok.injEq] at built
  obtain ⟨_, _, _, _, _, _, rfl⟩ := built
  rfl

/-- Every round of a matrix run captures its traffic. -/
theorem MatrixRun.captures {context : Context} {run : MatrixRun} {job : Job}
    (known : (run.plan context).Contains job) : job.spec.captureTraffic = true := by
  cases run with
  | v12 settings versions groups =>
      obtain ⟨_, _, version, setting, repetition, inputs, made, _⟩ := runV12_job _ _ _ _ known
      exact v12Spec_captures made
  | v15 selected =>
      obtain ⟨specs, planned, inside, _⟩ := contains_map rfl known
      obtain ⟨call, member, made⟩ := exists_of_mem_mapM planned inside
      obtain ⟨repetition, _, member⟩ := List.mem_flatMap.mp member
      obtain ⟨server, _, member⟩ := List.mem_flatMap.mp member
      obtain ⟨client, _, rfl⟩ := List.mem_map.mp member
      exact v15Spec_captures made
  | v16 =>
      obtain ⟨specs, planned, inside, _⟩ := contains_map rfl known
      obtain ⟨call, member, made⟩ := exists_of_mem_mapM planned inside
      rcases List.mem_append.mp member with survey | software
      · obtain ⟨repetition, _, member⟩ := List.mem_flatMap.mp survey
        obtain ⟨client, _, rfl⟩ := List.mem_map.mp member
        exact surveySpec_captures made
      · obtain ⟨repetition, _, member⟩ := List.mem_flatMap.mp software
        obtain ⟨server, _, member⟩ := List.mem_flatMap.mp member
        obtain ⟨client, _, rfl⟩ := List.mem_map.mp member
        exact serverSpec_captures made
  | v16Direct =>
      obtain ⟨specs, planned, inside, _⟩ := contains_map rfl known
      obtain ⟨call, member, made⟩ := exists_of_mem_mapM planned inside
      obtain ⟨repetition, _, member⟩ := List.mem_flatMap.mp member
      obtain ⟨server, _, member⟩ := List.mem_flatMap.mp member
      obtain ⟨client, _, rfl⟩ := List.mem_map.mp member
      exact directSpec_captures made
  | v18 clients =>
      obtain ⟨jobs, built, member⟩ := known
      cases built
      obtain ⟨repetition, _, inside⟩ := List.mem_flatMap.mp member
      obtain ⟨client, _, same⟩ := List.mem_map.mp inside
      obtain ⟨spec, made, rfl⟩ := map_eq_ok.mp same
      simp only [V18.surveySpec, bind_eq_ok, Except.ok.injEq] at made
      obtain ⟨_, _, _, _, rfl⟩ := made
      rfl
  | e8 servers =>
      obtain ⟨jobs, built, member⟩ := known
      cases built
      obtain ⟨repetition, _, inside⟩ := List.mem_flatMap.mp member
      obtain ⟨server, _, inside⟩ := List.mem_flatMap.mp inside
      obtain ⟨client, _, same⟩ := List.mem_map.mp inside
      obtain ⟨spec, made, rfl⟩ := map_eq_ok.mp same
      simp only [e8Spec, bind_eq_ok, Except.ok.injEq] at made
      obtain ⟨_, _, _, _, _, _, rfl⟩ := made
      rfl

end Captures

section Runs
variable {context : Context} {run : MatrixRun} {runDir : Directory} {events : List Event}
  {state : State}

/-- A record has the outputs of its scenario beside it. -/
def Beside (runDir : Directory) (name : String) (file : File) : Prop :=
  ∀ identifier record, name = s!"{identifier}.json" → file = .record record → Left runDir identifier

theorem MatrixRun.besideLaws (run : MatrixRun) : JsonLaws (run.plan context) Beside
    (fun runDir record => Left runDir record.runId) := by
  constructor
  · exact fun job known => (run.repeatable context known).toOwnJob
  · exact fun before after name file grown beside identifier record same content =>
      (beside identifier record same content).grows grown
  · intro inventory runDir content _ identifier record _ other
    cases other
  · intro job outcome before record after known ran
    have proxy := (run.repeatable context known).proxy
    rw [(runScenario_leaves proxy ran).runId]
    rw [runScenario_direct proxy, Option.some.injEq] at ran
    exact left_of_scenarioRecord (MatrixRun.captures known) (fun _ present => present) ran
  · intro job record before evaluated after known runId left returned identifier other same _
    obtain ⟨_, rfl⟩ := (run.repeatable context known).evaluate _ _ _ _ returned
    have named : Matrix.identifier job.spec = identifier := by
      rw [recordName] at same
      exact (String.append_left_inj _).mp same
    rw [← named, ← runId]
    exact left.grows (grows_set _ _ _)

/-- The rounds of a finished run have left their outputs. -/
theorem left_of_finished (fresh : run.Fresh)
    (reached : Transition.run (step (run.plan context)) (.initial runDir) events = some state)
    (finished : Finished state) {job : Job} {record : RunRecord} (kept : Kept state.runDir job record)
    (plain : PlainSpec job.spec) : Left state.runDir (identifier job.spec) := by
  have active : state.phase.Active := by
    rw [finished.running]
    trivial
  have passed := guard_of_active active reached
  rw [fresh.guard] at passed
  have json := jsonFiles_of_run run.besideLaws (fun name read file found => by
    rw [get?_of_freshGuard context.outDir passed read] at found
    cases found) reached
  have idle : ∀ record, state.phase ≠ .recorded record := by
    rw [finished.running]
    simp
  have whole : state.phase ≠ .torn := by
    rw [finished.running]
    simp
  exact json.idle whole idle plain.read_recordName kept.stored _ _ rfl rfl

end Runs

end FaultInject.Matrix

namespace FaultInject.Run
open Python Record Harness VerifyApplied
open FaultInject.Matrix (Grows Left identifier grows_set grows_scenarioFiles left_of_scenarioRecord)

section Rounds
variable {evidence : Evidence} {spec : ScenarioSpec} {outcome : Outcome} {outDir after : Directory}
  {record : RunRecord} {specs : List ScenarioSpec} {start : Directory} {outcomes : List Outcome}
  {batch next : Batch}

/-- An observed scenario removes no file and leaves all its outputs. -/
theorem Observed.left (observed : Observed spec)
    (ran : runScenario spec outcome outDir = some (.ok (record, after))) :
    Grows outDir after ∧ Left after (identifier spec) := by
  obtain ⟨proxied, forwarded, returned⟩ := Option.map_eq_some_iff.mp ran
  obtain ⟨files, rfl, written⟩ := observed.proxyFiles forwarded
  rw [ok_bind, ← identifier] at returned
  have grown : Grows (scenarioFiles spec (identifier spec) outcome outDir) files := by
    rcases written with rfl | ⟨log, file, _, rfl⟩
    · exact fun _ present => present
    · exact grows_set _ _ _
  refine ⟨?_, left_of_scenarioRecord observed.captures grown returned⟩
  obtain ⟨metrics, _, same⟩ := bind_eq_ok.mp returned
  cases same
  exact ((grows_scenarioFiles spec outcome outDir).trans grown).trans
    ((grows_set _ _ _).trans (grows_set _ _ _))

/-- The scenarios that are not left to do have left their outputs. -/
def AllLeft (specs : List ScenarioSpec) (batch : Batch) : Prop :=
  batch.raised = none → ∀ done, specs = done ++ batch.todo →
    ∀ spec ∈ done, Left batch.outDir (identifier spec)

theorem AllLeft.step (observed : ∀ spec ∈ specs, Observed spec) (planned : batch.todo <:+ specs)
    (left : AllLeft specs batch) (taken : Batch.step evidence batch outcome = some next) :
    AllLeft specs next ∧ next.todo <:+ specs := by
  unfold Batch.step at taken
  split at taken
  · rename_i spec todo running head
    rw [head] at planned
    split at taken
    · rename_i record files ran
      obtain ⟨grown, own⟩ := (observed spec (planned.subset List.mem_cons_self)).left ran
      split at taken
      · rename_i marked after returned
        cases taken
        refine ⟨?_, (List.suffix_cons spec todo).trans planned⟩
        obtain ⟨value, _, _, rfl⟩ := verifyRecord_eq_ok.mp returned
        obtain ⟨front, whole⟩ := planned
        intro _ done all other member
        have same : done = front ++ [spec] := by
          rw [← whole, List.append_cons] at all
          exact (List.append_cancel_right all).symm
        rw [same, List.mem_append, List.mem_singleton] at member
        rcases member with earlier | rfl
        · have before := left running front (by rw [head, whole]) other earlier
          exact (before.grows grown).grows (grows_set _ _ _)
        · exact own.grows (grows_set _ _ _)
      · cases taken
        refine ⟨?_, head ▸ planned⟩
        intro running
        cases running
    · cases taken
  · cases taken

/-- In every reached state, the finished scenarios have left their outputs. -/
theorem allLeft_of_run (observed : ∀ spec ∈ specs, Observed spec)
    (reached : Transition.run (Batch.step evidence) (.initial specs start) outcomes = some batch) :
    AllLeft specs batch := by
  have begin : AllLeft specs (.initial specs start) ∧ (Batch.initial specs start).todo <:+ specs := by
    refine ⟨?_, List.suffix_refl _⟩
    intro _ done all spec member
    rw [List.self_eq_append_left.mp all] at member
    cases member
  have kept (outcomes : List Outcome) (before : Batch) (outcome : Outcome) (after : Batch)
      (left : AllLeft specs before ∧ before.todo <:+ specs)
      (taken : Batch.step evidence before outcome = some after) :
      AllLeft specs after ∧ after.todo <:+ specs := left.1.step observed left.2 taken
  exact (@Transition.run_invariant _ _ (Batch.step evidence) _
    (fun _ batch => AllLeft specs batch ∧ batch.todo <:+ specs) begin kept _ _ reached).1

end Rounds

end FaultInject.Run
