import FaultInject.Proof.Interrupted

/-
This file follows the JSON files of a run directory through a matrix run.
-/

namespace FaultInject.Matrix
open Python Record Harness

/-- No file disappears. -/
def Grows (before after : Directory) : Prop :=
  ∀ name, (before.get? name).isSome → (after.get? name).isSome

section Grows
variable {before middle after : Directory}

theorem Grows.trans (first : Grows before middle) (second : Grows middle after) :
    Grows before after :=
  fun name present => second name (first name present)

theorem grows_set (runDir : Directory) (name : String) (file : File) :
    Grows runDir (Dict.set runDir name file) := by
  intro other present
  rw [Dict.get?_set]
  split
  · rfl
  · exact present

/-- A scenario without a proxy removes no file. -/
theorem runScenario_grows {spec : ScenarioSpec} {outcome : Outcome} {record : RunRecord}
    (proxy : spec.proxyUpstreamPort = none)
    (ran : runScenario spec outcome before = some (.ok (record, after))) : Grows before after := by
  rw [runScenario_direct proxy, Option.some.injEq] at ran
  obtain ⟨metrics, _, same⟩ := bind_eq_ok.mp ran
  cases same
  have started : Grows before (scenarioFiles spec (identifier spec) outcome before) := by
    rw [scenarioFiles]
    split
    · exact ((grows_set _ _ _).trans (grows_set _ _ _)).trans (grows_set _ _ _)
    · exact (grows_set _ _ _).trans (grows_set _ _ _)
  exact (started.trans (grows_set _ _ _)).trans (grows_set _ _ _)

end Grows

/-- These facts about the rounds give facts about the files. A good file stays good when files are
added, and the first record of a round leads to a good evaluated record. -/
structure JsonLaws (plan : Plan) (good : Directory → String → File → Prop)
    (first : Directory → RunRecord → Prop) : Prop where
  own : ∀ job, plan.Contains job → OwnJob job
  grows : ∀ before after name file, Grows before after → good before name file →
    good after name file
  listed : ∀ inventory runDir content, plan.inventory = some inventory →
    good runDir inventory.name (.text content)
  scenario : ∀ job outcome before record after, plan.Contains job →
    runScenario job.spec outcome before = some (.ok (record, after)) → first after record
  evaluate : ∀ job record before evaluated after, plan.Contains job →
    record.runId = identifier job.spec → first before record →
    job.evaluate record before = .ok (evaluated, after) →
    good after (recordName job.spec) (.record evaluated)

/-- All JSON files are good, except for the record between its two writes and for a torn run. -/
structure JsonFiles (good : Directory → String → File → Prop) (first : Directory → RunRecord → Prop)
    (state : State) : Prop where
  files : state.phase ≠ .torn → ∀ name, Read name →
    (∀ record, state.phase = .recorded record → name ≠ s!"{record.runId}.json") →
    ∀ file, state.runDir.get? name = some file → good state.runDir name file
  recorded : ∀ record, state.phase = .recorded record →
    (∃ job rest, state.todo = .ok job :: rest ∧ record.runId = identifier job.spec) ∧
      state.runDir.get? s!"{record.runId}.json" = some (.record record) ∧
      first state.runDir record

section Moves
variable {plan : Plan} {good : Directory → String → File → Prop}
  {first : Directory → RunRecord → Prop} {state next : State}

/-- A state outside of a round has only good files. -/
theorem JsonFiles.of_idle (idle : ∀ record, state.phase ≠ .recorded record)
    (files : ∀ name, Read name → ∀ file, state.runDir.get? name = some file →
      good state.runDir name file) : JsonFiles good first state :=
  ⟨fun _ name read _ => files name read, fun record phase => absurd phase (idle record)⟩

theorem JsonFiles.of_torn (torn : state.phase = .torn) : JsonFiles good first state := by
  refine ⟨fun whole => absurd torn whole, ?_⟩
  intro record phase
  rw [torn] at phase
  cases phase

/-- The files outside of a round are good. -/
theorem JsonFiles.idle (json : JsonFiles good first state) (whole : state.phase ≠ .torn)
    (idle : ∀ record, state.phase ≠ .recorded record) {name : String} (read : Read name)
    {file : File} (found : state.runDir.get? name = some file) : good state.runDir name file :=
  json.files whole name read (fun record phase => absurd phase (idle record)) file found

/-- Every move keeps the facts about the JSON files. -/
theorem JsonFiles.move (laws : JsonLaws plan good first)
    (todo : ∀ job, .ok job ∈ state.todo → plan.Contains job) (json : JsonFiles good first state)
    (taken : Move plan state next) : JsonFiles good first next := by
  cases taken with
  | enter phase =>
      obtain ⟨runDir, _, still⟩ := enter_keeps plan state
      apply JsonFiles.of_idle
      · exact fun record other => still (.inl ⟨record, other⟩)
      · rw [runDir]
        intro name read file found
        exact json.idle (by rw [phase]; simp) (by rw [phase]; simp) read found
  | list inventory content written phase planned following =>
      apply JsonFiles.of_idle
      · rintro record rfl
        rcases following with other | other <;> cases other
      · intro name read file found
        rw [Dict.get?_set] at found
        split at found
        · rename_i same
          cases found
          rw [same]
          exact laws.listed inventory _ content planned
        · apply laws.grows _ _ _ _ (grows_set _ _ _)
          exact json.idle (by rw [phase]; simp) (by rw [phase]; simp) read found
  | fail error rest phase head =>
      apply JsonFiles.of_idle (by simp)
      intro name read file found
      exact json.idle (by rw [phase]; simp) (by rw [phase]; simp) read found
  | output job rest name file phase head inside =>
      have known := contains_head todo head
      apply JsonFiles.of_idle (by rw [phase]; simp)
      intro other read content found
      rw [get?_output (laws.own job known).proxyLog inside read] at found
      apply laws.grows _ _ _ _ (grows_set _ _ _)
      exact json.idle (by rw [phase]; simp) (by rw [phase]; simp) read found
  | scenario job rest outcome record after phase head ran =>
      have known := contains_head todo head
      have own := laws.own job known
      have leaves := runScenario_leaves own.proxy ran
      have grown := runScenario_grows own.proxy ran
      have fact := laws.scenario _ _ _ _ _ known ran
      constructor
      · intro _ name read apart file found
        have other : name ≠ recordName job.spec := by
          rw [recordName, ← leaves.runId]
          exact apart record rfl
        rw [get?_scenario own.proxy own.proxyLog ran read, if_neg other] at found
        apply laws.grows _ _ _ _ grown
        exact json.idle (by rw [phase]; simp) (by rw [phase]; simp) read found
      · intro other same
        cases same
        obtain ⟨files, rfl, _⟩ := leaves.files
        refine ⟨⟨job, rest, head, leaves.runId⟩, ?_, fact⟩
        rw [Directory.toJsonPath, Dict.get?_set, if_pos rfl]
  | tearScenario job rest outcome record after content phase head ran => exact .of_torn rfl
  | evaluate job rest record evaluated after phase head returned =>
      obtain ⟨⟨found, others, same, runId⟩, _, fact⟩ := json.recorded record phase
      rw [head] at same
      cases same
      have known := contains_head todo head
      have written := laws.evaluate _ _ _ _ _ known runId fact returned
      obtain ⟨kept, rfl⟩ := (laws.own job known).evaluate _ _ _ _ returned
      apply JsonFiles.of_idle (by simp)
      intro name read file placed
      rw [get?_toJsonPath (kept.trans runId)] at placed
      split at placed
      · rename_i current
        cases placed
        rw [current]
        exact written
      · rename_i other
        apply laws.grows _ _ _ _ (grows_set _ _ _)
        apply json.files (by rw [phase]; simp) name read _ file placed
        intro again phases
        rw [phase] at phases
        cases phases
        rw [runId]
        exact other
  | tearEvaluate job rest record evaluated after content phase head returned => exact .of_torn rfl

/-- Every reached state has good JSON files. -/
theorem jsonFiles_of_run (laws : JsonLaws plan good first) {runDir : Directory}
    (start : ∀ name, Read name → ∀ file, runDir.get? name = some file → good runDir name file)
    {events : List Event}
    (reached : Transition.run (step plan) (.initial runDir) events = some state) :
    JsonFiles good first state := by
  have both : Framed plan runDir state ∧ JsonFiles good first state := by
    apply run_keeps ⟨.initial, .of_idle (by simp [State.initial]) start⟩ _ reached
    intro before after kept taken
    exact ⟨kept.1.move laws.own taken, kept.2.move laws kept.1.todo taken⟩
  exact both.2

end Moves

end FaultInject.Matrix
