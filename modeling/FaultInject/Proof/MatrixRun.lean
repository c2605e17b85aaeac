import FaultInject.Proof.Names

namespace FaultInject.Matrix
open Python Record Harness

/-- These are the moves of a matrix run. -/
inductive Move (plan : Plan) (state : State) : State → Prop where
  | enter (phase : state.phase = .entered) : Move plan state (plan.enter state)
  | list (inventory : Inventory) (content : String) (written : Phase)
      (phase : state.phase = .listing) (planned : plan.inventory = some inventory)
      (next : written = .running ∨ written = .torn) :
      Move plan state { state with
        runDir := state.runDir.set inventory.name (.text content)
        phase := written }
  | fail (error : Error) (rest : List (Result Job)) (phase : state.phase = .running)
      (head : state.todo = .error error :: rest) :
      Move plan state { state with phase := .raised error }
  | output (job : Job) (rest : List (Result Job)) (name : String) (file : File)
      (phase : state.phase = .running) (head : state.todo = .ok job :: rest)
      (own : name ∈ outputNames job.spec (identifier job.spec)) :
      Move plan state { state with runDir := state.runDir.set name file }
  | scenario (job : Job) (rest : List (Result Job)) (outcome : Outcome) (record : RunRecord)
      (after : Directory) (phase : state.phase = .running) (head : state.todo = .ok job :: rest)
      (ran : runScenario job.spec outcome state.runDir = some (.ok (record, after))) :
      Move plan state { state with runDir := after, phase := .recorded record }
  | tearScenario (job : Job) (rest : List (Result Job)) (outcome : Outcome) (record : RunRecord)
      (after : Directory) (content : String) (phase : state.phase = .running)
      (head : state.todo = .ok job :: rest)
      (ran : runScenario job.spec outcome state.runDir = some (.ok (record, after))) :
      Move plan state { state with
        runDir := after.set s!"{record.runId}.json" (.text content)
        phase := .torn }
  | evaluate (job : Job) (rest : List (Result Job)) (record evaluated : RunRecord)
      (after : Directory) (phase : state.phase = .recorded record)
      (head : state.todo = .ok job :: rest)
      (returned : job.evaluate record state.runDir = .ok (evaluated, after)) :
      Move plan state {
        runDir := after
        phase := .running
        todo := rest
        records := state.records ++ [evaluated] }
  | tearEvaluate (job : Job) (rest : List (Result Job)) (record evaluated : RunRecord)
      (after : Directory) (content : String) (phase : state.phase = .recorded record)
      (head : state.todo = .ok job :: rest)
      (returned : job.evaluate record state.runDir = .ok (evaluated, after)) :
      Move plan state { state with
        runDir := after.set s!"{evaluated.runId}.json" (.text content)
        phase := .torn }

theorem tear_eq_some {runDir torn : Directory} {record : RunRecord} {content : String}
    (partly : tear runDir record content = some torn) :
    torn = runDir.set s!"{record.runId}.json" (.text content) := by
  simp only [tear] at partly
  split at partly
  · exact (Option.some.inj partly).symm
  · cases partly

/-- Every step is a move. -/
theorem move_of_step {plan : Plan} {state next : State} {event : Event}
    (taken : step plan state event = some next) : Move plan state next := by
  cases event with
  | enter =>
      simp only [step] at taken
      split at taken
      · cases taken
        exact .enter ‹_›
      · cases taken
  | inventory versions =>
      simp only [step] at taken
      split at taken
      · cases taken
        exact .list _ _ _ ‹_› ‹_› (.inl rfl)
      · cases taken
  | tearInventory content =>
      simp only [step] at taken
      split at taken
      · cases taken
        exact .list _ _ _ ‹_› ‹_› (.inr rfl)
      · cases taken
  | fail =>
      simp only [step] at taken
      split at taken
      · cases taken
        exact .fail _ _ ‹_› ‹_›
      · cases taken
  | output name file =>
      simp only [step] at taken
      split at taken
      · split at taken
        · cases taken
          exact .output _ _ _ _ ‹_› ‹_› ‹_›
        · cases taken
      · cases taken
  | scenario outcome =>
      simp only [step] at taken
      split at taken
      · split at taken
        · cases taken
          exact .scenario _ _ _ _ _ ‹_› ‹_› ‹_›
        · cases taken
      · cases taken
  | tearScenario outcome content =>
      simp only [step] at taken
      split at taken
      · split at taken
        · obtain ⟨torn, partly, rfl⟩ := Option.map_eq_some_iff.mp taken
          rw [tear_eq_some partly]
          exact .tearScenario _ _ _ _ _ _ ‹_› ‹_› ‹_›
        · cases taken
      · cases taken
  | evaluate =>
      simp only [step] at taken
      split at taken
      · split at taken
        · cases taken
          exact .evaluate _ _ _ _ _ ‹_› ‹_› ‹_›
        · cases taken
      · cases taken
  | tearEvaluate content =>
      simp only [step] at taken
      split at taken
      · split at taken
        · obtain ⟨torn, partly, rfl⟩ := Option.map_eq_some_iff.mp taken
          rw [tear_eq_some partly]
          exact .tearEvaluate _ _ _ _ _ _ ‹_› ‹_› ‹_›
        · cases taken
      · cases taken

/-- A fact about the state holds after every run when every move keeps it. -/
theorem run_keeps {plan : Plan} {runDir : Directory} {holds : State → Prop}
    (base : holds (.initial runDir))
    (preserved : ∀ state next, holds state → Move plan state next → holds next)
    {events : List Event} {state : State}
    (reached : Transition.run (step plan) (.initial runDir) events = some state) :
    holds state := by
  have kept (events : List Event) (before : State) (event : Event) (next : State)
      (fact : holds before) (taken : step plan before event = some next) : holds next :=
    preserved before next fact (move_of_step taken)
  exact @Transition.run_invariant _ _ (step plan) _ (fun _ => holds) base kept _ _ reached

/-- This is what a scenario without a proxy leaves behind. -/
structure ScenarioLeaves (spec : ScenarioSpec) (runDir : Directory) (record : RunRecord)
    (after : Directory) : Prop where
  runId : record.runId = identifier spec
  faultType : record.faultType = spec.faultType
  repetition : record.repetition = spec.repetition
  condition : record.condition = spec.condition
  provenance : record.provenance = .empty
  files : ∃ files : Directory, after = files.toJsonPath record ∧
    ∀ name, name ∉ outputNames spec (identifier spec) → files.get? name = runDir.get? name

/-- A scenario without a proxy keeps the files of its programs. -/
theorem runScenario_direct {spec : ScenarioSpec} (proxy : spec.proxyUpstreamPort = none)
    (outcome : Outcome) (runDir : Directory) :
    runScenario spec outcome runDir = some (scenarioRecord spec (identifier spec) outcome
      (scenarioFiles spec (identifier spec) outcome runDir)) := by
  have direct (files : Directory) : proxyFiles spec outcome.events files = some (.ok files) := by
    rw [proxyFiles, proxy]
  rw [runScenario, direct, Option.map_some, ok_bind]
  rfl

theorem runScenario_leaves {spec : ScenarioSpec} {outcome : Outcome} {runDir after : Directory}
    {record : RunRecord} (proxy : spec.proxyUpstreamPort = none)
    (ran : runScenario spec outcome runDir = some (.ok (record, after))) :
    ScenarioLeaves spec runDir record after := by
  rw [runScenario_direct proxy, Option.some.injEq] at ran
  obtain ⟨metrics, _, same⟩ := bind_eq_ok.mp ran
  cases same
  constructor
  · rfl
  · rfl
  · rfl
  · rfl
  · rfl
  · refine ⟨_, rfl, ?_⟩
    intro name other
    simp only [outputNames, List.mem_append, List.mem_cons, List.not_mem_nil,
      or_false, not_or] at other
    obtain ⟨⟨server, capture, pcap, client⟩, _⟩ := other
    rw [Dict.get?_set, if_neg client, scenarioFiles]
    split
    · rw [Dict.get?_set, if_neg pcap, Dict.get?_set, if_neg capture, Dict.get?_set, if_neg server]
    · rw [Dict.get?_set, if_neg capture, Dict.get?_set, if_neg server]

/-- A round without a proxy writes only the files of its own run. -/
structure OwnJob (job : Job) : Prop where
  proxy : job.spec.proxyUpstreamPort = none
  proxyLog : job.spec.proxyLog = none
  evaluate : ∀ record runDir evaluated after, job.evaluate record runDir = .ok (evaluated, after) →
    evaluated.runId = record.runId ∧ after = runDir.toJsonPath evaluated

/-- These are the rounds of a plan that can be built. -/
def Plan.Contains (plan : Plan) (job : Job) : Prop :=
  ∃ jobs, plan.jobs = .ok jobs ∧ .ok job ∈ jobs

/-- A run writes the files of its rounds and its inventory. -/
def Plan.Writes (plan : Plan) (name : String) : Prop :=
  (∃ job, plan.Contains job ∧ name ∈ artifactNames job.spec) ∨
    ∃ inventory, plan.inventory = some inventory ∧ name = inventory.name

/-- The files outside of the written ones are those of the start. -/
structure Framed (plan : Plan) (runDir : Directory) (state : State) : Prop where
  keeps : ∀ name, ¬plan.Writes name → state.runDir.get? name = runDir.get? name
  todo : ∀ job, .ok job ∈ state.todo → plan.Contains job
  recorded : ∀ record, state.phase = .recorded record →
    ∃ job rest, state.todo = .ok job :: rest ∧ record.runId = identifier job.spec

section Frame
variable {plan : Plan} {runDir : Directory} {state next : State}

theorem Framed.initial : Framed plan runDir (.initial runDir) := by
  constructor
  · exact fun _ _ => rfl
  · intro job member
    cases member
  · intro record phase
    cases phase

/-- The current round is a round of the plan. -/
theorem contains_head (todo : ∀ job, .ok job ∈ state.todo → plan.Contains job) {job : Job}
    {rest : List (Result Job)} (head : state.todo = .ok job :: rest) : plan.Contains job := by
  apply todo job
  rw [head]
  exact List.mem_cons_self

/-- A record file has the name of its run. -/
theorem Plan.writes_record {job : Job} (known : plan.Contains job) {record : RunRecord}
    (own : record.runId = identifier job.spec) : plan.Writes s!"{record.runId}.json" := by
  rw [own]
  exact .inl ⟨job, known, List.mem_cons_self⟩

theorem Plan.writes_output {job : Job} (known : plan.Contains job) {name : String}
    (own : name ∈ outputNames job.spec (identifier job.spec)) : plan.Writes name :=
  .inl ⟨job, known, List.mem_cons_of_mem _ own⟩

/-- A file of the run is not an unwritten one. -/
theorem get?_set_of_not_writes {files : Directory} {name other : String} {file : File}
    (written : plan.Writes name) (free : ¬plan.Writes other) :
    Dict.get? (Dict.set files name file) other = Dict.get? files other := by
  rw [Dict.get?_set, if_neg]
  rintro rfl
  exact free written

/-- Every move keeps the files that the run does not write. -/
theorem Framed.move (own : ∀ job, plan.Contains job → OwnJob job)
    (framed : Framed plan runDir state) (taken : Move plan state next) :
    Framed plan runDir next := by
  obtain ⟨keeps, todo, recorded⟩ := framed
  cases taken with
  | enter phase =>
      unfold Plan.enter
      split
      · exact ⟨keeps, todo, fun _ other => by cases other⟩
      · split
        · exact ⟨keeps, todo, fun _ other => by cases other⟩
        · rename_i jobs planned
          refine ⟨keeps, fun job member => ⟨jobs, planned, member⟩, ?_⟩
          intro record other
          dsimp only at other
          split at other <;> cases other
  | list inventory content written phase planned following =>
      refine ⟨?_, todo, ?_⟩
      · intro name free
        rw [get?_set_of_not_writes (.inr ⟨inventory, planned, rfl⟩) free, keeps name free]
      · rintro record rfl
        rcases following with other | other <;> cases other
  | fail error rest phase head => exact ⟨keeps, todo, fun _ other => by cases other⟩
  | output job rest name file phase head inside =>
      have known := contains_head todo head
      refine ⟨?_, todo, recorded⟩
      intro other free
      rw [get?_set_of_not_writes (Plan.writes_output known inside) free, keeps other free]
  | scenario job rest outcome record after phase head ran =>
      have known := contains_head todo head
      have leaves := runScenario_leaves (own job known).proxy ran
      obtain ⟨files, rfl, kept⟩ := leaves.files
      refine ⟨?_, todo, ?_⟩
      · intro name free
        rw [Directory.toJsonPath,
          get?_set_of_not_writes (Plan.writes_record known leaves.runId) free,
          kept name fun inside => free (Plan.writes_output known inside), keeps name free]
      · intro other same
        cases same
        exact ⟨job, rest, head, leaves.runId⟩
  | tearScenario job rest outcome record after content phase head ran =>
      have known := contains_head todo head
      have leaves := runScenario_leaves (own job known).proxy ran
      obtain ⟨files, rfl, kept⟩ := leaves.files
      refine ⟨?_, todo, fun _ other => by cases other⟩
      intro name free
      rw [get?_set_of_not_writes (Plan.writes_record known leaves.runId) free, Directory.toJsonPath,
        get?_set_of_not_writes (Plan.writes_record known leaves.runId) free,
        kept name fun inside => free (Plan.writes_output known inside), keeps name free]
  | evaluate job rest record evaluated after phase head returned =>
      obtain ⟨found, others, same, runId⟩ := recorded record phase
      rw [head] at same
      cases same
      have known := contains_head todo head
      obtain ⟨kept, rfl⟩ := (own job known).evaluate _ _ _ _ returned
      refine ⟨?_, ?_, fun _ other => by cases other⟩
      · intro name free
        rw [Directory.toJsonPath,
          get?_set_of_not_writes (Plan.writes_record known (kept.trans runId)) free, keeps name free]
      · exact fun other member => todo other (by rw [head]; exact List.mem_cons_of_mem _ member)
  | tearEvaluate job rest record evaluated after content phase head returned =>
      obtain ⟨found, others, same, runId⟩ := recorded record phase
      rw [head] at same
      cases same
      have known := contains_head todo head
      obtain ⟨kept, rfl⟩ := (own job known).evaluate _ _ _ _ returned
      have written := Plan.writes_record known (kept.trans runId)
      refine ⟨?_, todo, fun _ other => by cases other⟩
      intro name free
      rw [get?_set_of_not_writes written free, Directory.toJsonPath,
        get?_set_of_not_writes written free, keeps name free]

/-- Every reached state keeps the files that the run does not write. -/
theorem framed_of_run (own : ∀ job, plan.Contains job → OwnJob job) {events : List Event}
    (reached : Transition.run (step plan) (.initial runDir) events = some state) :
    Framed plan runDir state :=
  run_keeps .initial (fun _ _ framed taken => framed.move own taken) reached

end Frame

end FaultInject.Matrix
