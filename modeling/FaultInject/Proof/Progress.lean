import FaultInject.Proof.Interrupted

/-
This file follows the finished rounds of a matrix run. Each of them left its record in the
directory, and a second evaluation of the record gives the record again.
-/

namespace FaultInject.Matrix
open Python Record Harness

/-- The record has the labels and the artifacts of the specification. -/
structure OfSpec (spec : ScenarioSpec) (record : RunRecord) : Prop where
  runId : record.runId = identifier spec
  implementation : record.implementation = spec.impl
  faultType : record.faultType = spec.faultType
  repetition : record.repetition = spec.repetition
  condition : record.condition = spec.condition
  artifacts : record.artifacts = scenarioArtifacts spec (identifier spec)

/-- Both directories have the same artifacts of the record. -/
def SameArtifacts (record : RunRecord) (runDir other : Directory) : Prop :=
  ∀ key name, record.artifacts.get? key = some name → Dict.get? other name = runDir.get? name

/-- The evaluation keeps the labels and the artifacts of a record. It reads only the artifacts,
and its result is evaluated to itself. -/
structure Repeatable (job : Job) : Prop extends OwnJob job where
  labels : ∀ record runDir evaluated after, job.evaluate record runDir = .ok (evaluated, after) →
    OfSpec job.spec record → OfSpec job.spec evaluated
  again : ∀ record runDir other evaluated after,
    job.evaluate record runDir = .ok (evaluated, after) → SameArtifacts record runDir other →
      job.evaluate evaluated other = .ok (evaluated, other.toJsonPath evaluated)

/-- The record of a finished round is stored, and its evaluation changes nothing. -/
structure Kept (runDir : Directory) (job : Job) (record : RunRecord) : Prop where
  ofSpec : OfSpec job.spec record
  stored : runDir.get? (recordName job.spec) = some (.record record)
  again : job.evaluate record runDir = .ok (record, runDir.toJsonPath record)

/-- The run is behind its guard and has not raised. -/
def Phase.Active : Phase → Prop
  | .entered | .raised _ => False
  | _ => True

/-- Two rounds write different files. -/
def Apart (first second : Result Job) : Prop :=
  ∀ job other, first = .ok job → second = .ok other →
    (artifactNames job.spec).Disjoint (artifactNames other.spec)

/-- The finished rounds are the first rounds of the plan, and their records are kept. -/
structure Progress (plan : Plan) (state : State) (done : List Job) : Prop where
  kept : List.Forall₂ (Kept state.runDir) done state.records
  /-- A run that has raised keeps its finished rounds. -/
  planned : state.phase.Active ∨ done ≠ [] → plan.jobs = .ok (done.map .ok ++ state.todo)
  start : state.phase = .entered ∨ state.phase = .listing → state.records = []
  recorded : ∀ record, state.phase = .recorded record →
    ∃ job rest, state.todo = .ok job :: rest ∧ OfSpec job.spec record

section Records
variable {job : Job} {record : RunRecord} {runDir other : Directory}

/-- The artifacts of a round are files of its programs. -/
theorem mem_outputNames_of_artifact {spec : ScenarioSpec} {identifier key name : String}
    (found : (scenarioArtifacts spec identifier).get? key = some name) :
    name ∈ outputNames spec identifier := by
  rw [outputNames, List.mem_append, Option.mem_toList]
  unfold scenarioArtifacts at found
  -- Each key of the artifacts is one of the assigned ones.
  cases log : spec.proxyLog <;> simp only [log] at found <;> split at found <;>
    simp only [Dict.get?_set, Dict.get?_empty] at found <;> split_ifs at found <;>
    cases found <;> simp

/-- Files of other rounds do not change the evaluation of a kept record. -/
theorem Kept.frame (kept : Kept runDir job record)
    (again : SameArtifacts record runDir other →
      job.evaluate record other = .ok (record, other.toJsonPath record))
    (same : ∀ name ∈ artifactNames job.spec, Dict.get? other name = runDir.get? name) :
    Kept other job record := by
  constructor
  · exact kept.ofSpec
  · rw [same _ List.mem_cons_self]
    exact kept.stored
  · apply again
    intro key name found
    rw [kept.ofSpec.artifacts] at found
    exact same name (List.mem_cons_of_mem _ (mem_outputNames_of_artifact found))

/-- A record that a scenario returns is a record of its round. -/
theorem ofSpec_of_scenarioRecord {spec : ScenarioSpec} {outcome : Outcome} {after : Directory}
    (returned : scenarioRecord spec (identifier spec) outcome runDir = .ok (record, after)) :
    OfSpec spec record := by
  obtain ⟨metrics, _, same⟩ := bind_eq_ok.mp returned
  cases same
  exact ⟨rfl, rfl, rfl, rfl, rfl, rfl⟩

/-- A scenario writes the files of its round and returns a record of the round. -/
theorem ofSpec_of_scenario (own : OwnJob job) {outcome : Outcome} {after : Directory}
    (ran : runScenario job.spec outcome runDir = some (.ok (record, after))) :
    OfSpec job.spec record ∧ ∀ name, name ∉ artifactNames job.spec → after.get? name = runDir.get? name := by
  have leaves := runScenario_leaves own.proxy ran
  constructor
  · rw [runScenario_direct own.proxy, Option.some.injEq] at ran
    exact ofSpec_of_scenarioRecord ran
  · obtain ⟨files, rfl, kept⟩ := leaves.files
    intro name other
    rw [artifactNames, List.mem_cons, not_or] at other
    rw [get?_toJsonPath leaves.runId, if_neg other.1, kept name other.2]

end Records

section Moves
variable {plan : Plan} {state next : State} {done : List Job}

/-- The finished rounds are rounds of the plan, and the current one writes none of their files. -/
theorem Progress.apart (apart : ∀ jobs, plan.jobs = .ok jobs → jobs.Pairwise Apart)
    (progress : Progress plan state done) (active : state.phase.Active) {job : Job} {rest : List (Result Job)}
    (head : state.todo = .ok job :: rest) {other : Job} (member : other ∈ done) :
    (artifactNames other.spec).Disjoint (artifactNames job.spec) := by
  have pairwise := apart _ (progress.planned (.inl active))
  rw [head, List.pairwise_append] at pairwise
  exact pairwise.2.2 (.ok other) (List.mem_map_of_mem member) (.ok job) List.mem_cons_self
    other job rfl rfl

/-- A round that writes only its own files keeps the finished rounds. -/
theorem Progress.frame (own : ∀ job, plan.Contains job → Repeatable job)
    (apart : ∀ jobs, plan.jobs = .ok jobs → jobs.Pairwise Apart)
    (progress : Progress plan state done) (active : state.phase.Active) {job : Job} {rest : List (Result Job)}
    (head : state.todo = .ok job :: rest) {after : Directory}
    (files : ∀ name, name ∉ artifactNames job.spec → after.get? name = state.runDir.get? name) :
    List.Forall₂ (Kept after) done state.records := by
  have planned := progress.planned (.inl active)
  have each : ∀ other ∈ done, plan.Contains other ∧
      (artifactNames other.spec).Disjoint (artifactNames job.spec) := by
    intro other member
    refine ⟨⟨_, planned, ?_⟩, progress.apart apart active head member⟩
    exact List.mem_append_left _ (List.mem_map_of_mem member)
  refine ((List.forall₂_and_left _ _).mpr ⟨each, progress.kept⟩).imp ?_
  intro other record known
  obtain ⟨⟨contained, disjoint⟩, kept⟩ := known
  apply kept.frame
  · exact (own other contained).again _ _ _ _ _ kept.again
  · exact fun name inside => files name (disjoint inside)

/-- No round is finished in front of the loop. -/
theorem Progress.done_nil (progress : Progress plan state done)
    (phase : state.phase = .entered ∨ state.phase = .listing) : done = [] ∧ state.records = [] := by
  have empty := progress.start phase
  have kept := progress.kept
  rw [empty, List.forall₂_nil_right_iff] at kept
  exact ⟨kept, empty⟩

/-- The record of the current round is waiting for its evaluation. -/
theorem Progress.current (progress : Progress plan state done) {record : RunRecord}
    (phase : state.phase = .recorded record) {job : Job} {rest : List (Result Job)}
    (head : state.todo = .ok job :: rest) : OfSpec job.spec record := by
  obtain ⟨current, others, same, ofSpec⟩ := progress.recorded record phase
  rw [head] at same
  cases same
  exact ofSpec

theorem Progress.enter (progress : Progress plan state done) (phase : state.phase = .entered) :
    Progress plan (plan.enter state) [] := by
  obtain ⟨rfl, empty⟩ := progress.done_nil (.inl phase)
  have raised (error : Error) : Progress plan { state with phase := .raised error } [] := by
    refine ⟨by rw [empty]; exact .nil, ?_, fun _ => empty, fun _ other => by cases other⟩
    rintro (active | some)
    · exact active.elim
    · exact absurd rfl some
  unfold Plan.enter
  split
  · exact raised _
  · split
    · exact raised _
    · rename_i jobs planned
      refine ⟨by rw [empty]; exact .nil, fun _ => planned, fun _ => empty, ?_⟩
      intro record other
      dsimp only at other
      split at other <;> cases other

theorem Progress.list (progress : Progress plan state done) {name content : String}
    {written : Phase} (phase : state.phase = .listing)
    (following : written = .running ∨ written = .torn) :
    Progress plan { state with
      runDir := state.runDir.set name (.text content)
      phase := written } [] := by
  obtain ⟨rfl, empty⟩ := progress.done_nil (.inr phase)
  refine ⟨by rw [empty]; exact .nil, ?_, fun _ => empty, ?_⟩
  · intro _
    exact progress.planned (.inl (by rw [phase]; trivial))
  · rintro record rfl
    rcases following with other | other <;> cases other

theorem Progress.fail (progress : Progress plan state done) {error : Error}
    (phase : state.phase = .running) :
    Progress plan { state with phase := .raised error } done := by
  refine ⟨progress.kept, ?_, ?_, ?_⟩
  · intro _
    exact progress.planned (.inl (by rw [phase]; trivial))
  · rintro (other | other) <;> cases other
  · intro record other
    cases other

section Round
variable (own : ∀ job, plan.Contains job → Repeatable job)
  (apart : ∀ jobs, plan.jobs = .ok jobs → jobs.Pairwise Apart)
  (todo : ∀ job, .ok job ∈ state.todo → plan.Contains job)
  (progress : Progress plan state done) {job : Job} {rest : List (Result Job)}
  (head : state.todo = .ok job :: rest)
include own apart progress head

theorem Progress.output {name : String} {file : File} (phase : state.phase = .running)
    (inside : name ∈ outputNames job.spec (identifier job.spec)) :
    Progress plan { state with runDir := state.runDir.set name file } done := by
  have active : state.phase.Active := by rw [phase]; trivial
  refine ⟨?_, progress.planned, progress.start, progress.recorded⟩
  apply progress.frame own apart active head
  intro other free
  rw [Dict.get?_set, if_neg]
  rintro rfl
  exact free (List.mem_cons_of_mem _ inside)

/-- A torn write leaves the finished rounds. -/
theorem Progress.tear {after : Directory} (active : state.phase.Active)
    (files : ∀ name, name ∉ artifactNames job.spec → after.get? name = state.runDir.get? name) :
    Progress plan { state with runDir := after, phase := .torn } done := by
  refine ⟨progress.frame own apart active head files, fun _ => progress.planned (.inl active), ?_, ?_⟩
  · rintro (other | other) <;> cases other
  · intro other same
    cases same

include todo

theorem Progress.scenario {outcome : Outcome} {record : RunRecord} {after : Directory}
    (phase : state.phase = .running)
    (ran : runScenario job.spec outcome state.runDir = some (.ok (record, after))) :
    Progress plan { state with runDir := after, phase := .recorded record } done := by
  have active : state.phase.Active := by rw [phase]; trivial
  have known := own job (contains_head todo head)
  obtain ⟨ofSpec, files⟩ := ofSpec_of_scenario known.toOwnJob ran
  refine ⟨progress.frame own apart active head files, fun _ => progress.planned (.inl active), ?_, ?_⟩
  · rintro (other | other) <;> cases other
  · intro other same
    cases same
    exact ⟨job, rest, head, ofSpec⟩

theorem Progress.tearScenario {outcome : Outcome} {record : RunRecord} {after : Directory}
    {content : String} (phase : state.phase = .running)
    (ran : runScenario job.spec outcome state.runDir = some (.ok (record, after))) :
    Progress plan { state with
      runDir := after.set s!"{record.runId}.json" (.text content)
      phase := .torn } done := by
  have known := own job (contains_head todo head)
  obtain ⟨ofSpec, files⟩ := ofSpec_of_scenario known.toOwnJob ran
  apply progress.tear own apart head (by rw [phase]; trivial)
  intro name free
  rw [Dict.get?_set, if_neg, files name free]
  rintro rfl
  rw [ofSpec.runId] at free
  exact free List.mem_cons_self

/-- The evaluated record is the next kept one. -/
theorem Progress.evaluate {record evaluated : RunRecord} {after : Directory}
    (phase : state.phase = .recorded record)
    (returned : job.evaluate record state.runDir = .ok (evaluated, after)) :
    Progress plan {
      runDir := after
      phase := .running
      todo := rest
      records := state.records ++ [evaluated] } (done ++ [job]) := by
  have active : state.phase.Active := by rw [phase]; trivial
  have ofSpec := progress.current phase head
  have known := own job (contains_head todo head)
  have labels := known.labels _ _ _ _ returned ofSpec
  obtain ⟨_, rfl⟩ := known.evaluate _ _ _ _ returned
  have files := get?_toJsonPath labels.runId state.runDir
  refine ⟨?_, ?_, ?_, ?_⟩
  · apply List.rel_append
    · apply progress.frame own apart active head
      intro name free
      rw [files, if_neg]
      rintro rfl
      exact free List.mem_cons_self
    · refine .cons ⟨labels, ?_, ?_⟩ .nil
      · rw [files, if_pos rfl]
      · apply known.again _ _ _ _ _ returned
        intro key name found
        rw [ofSpec.artifacts] at found
        rw [files, if_neg]
        rintro rfl
        exact not_json_of_mem_outputNames (.inl known.proxyLog)
          (mem_outputNames_of_artifact found) (suffix_append _ _)
  · intro _
    rw [progress.planned (.inl active), head, List.map_append, List.map_singleton,
      List.append_assoc, List.singleton_append]
  · rintro (other | other) <;> cases other
  · intro other same
    cases same

theorem Progress.tearEvaluate {record evaluated : RunRecord} {after : Directory} {content : String}
    (phase : state.phase = .recorded record)
    (returned : job.evaluate record state.runDir = .ok (evaluated, after)) :
    Progress plan { state with
      runDir := after.set s!"{evaluated.runId}.json" (.text content)
      phase := .torn } done := by
  have known := own job (contains_head todo head)
  have labels := known.labels _ _ _ _ returned (progress.current phase head)
  obtain ⟨_, rfl⟩ := known.evaluate _ _ _ _ returned
  apply progress.tear own apart head (by rw [phase]; trivial)
  intro name free
  have other : name ≠ recordName job.spec := by
    rintro rfl
    exact free List.mem_cons_self
  rw [labels.runId, Dict.get?_set, ← recordName, if_neg other, get?_toJsonPath labels.runId,
    if_neg other]

end Round

/-- Every move keeps the finished rounds and may finish the current one. -/
theorem Progress.move (own : ∀ job, plan.Contains job → Repeatable job)
    (apart : ∀ jobs, plan.jobs = .ok jobs → jobs.Pairwise Apart)
    (todo : ∀ job, .ok job ∈ state.todo → plan.Contains job)
    (progress : Progress plan state done) (taken : Move plan state next) :
    ∃ done, Progress plan next done := by
  cases taken with
  | enter phase => exact ⟨_, progress.enter phase⟩
  | list inventory content written phase _ following =>
      exact ⟨_, progress.list phase following⟩
  | fail error rest phase _ => exact ⟨_, progress.fail phase⟩
  | output job rest name file phase head inside =>
      exact ⟨_, progress.output own apart head phase inside⟩
  | scenario job rest outcome record after phase head ran =>
      exact ⟨_, progress.scenario own apart todo head phase ran⟩
  | tearScenario job rest outcome record after content phase head ran =>
      exact ⟨_, progress.tearScenario own apart todo head phase ran⟩
  | evaluate job rest record evaluated after phase head returned =>
      exact ⟨_, progress.evaluate own apart todo head phase returned⟩
  | tearEvaluate job rest record evaluated after content phase head returned =>
      exact ⟨_, progress.tearEvaluate own apart todo head phase returned⟩

/-- Every reached state has kept the records of its finished rounds. -/
theorem progress_of_run (own : ∀ job, plan.Contains job → Repeatable job)
    (apart : ∀ jobs, plan.jobs = .ok jobs → jobs.Pairwise Apart) {runDir : Directory}
    {events : List Event}
    (reached : Transition.run (step plan) (.initial runDir) events = some state) :
    ∃ done, Progress plan state done := by
  have both : Framed plan runDir state ∧ ∃ done, Progress plan state done := by
    have begin : Progress plan (.initial runDir) [] :=
      ⟨.nil, fun some => absurd rfl (some.resolve_left id), fun _ => rfl,
        fun _ other => by cases other⟩
    apply run_keeps ⟨.initial, [], begin⟩ _ reached
    intro before after kept taken
    obtain ⟨framed, done, progress⟩ := kept
    exact ⟨framed.move (fun job known => (own job known).toOwnJob) taken,
      progress.move own apart framed.todo taken⟩
  exact both.2

end Moves

end FaultInject.Matrix
