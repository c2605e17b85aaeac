import FaultInject.Proof.Repeatable
import FaultInject.Proof.Reclassify

/-
This file shows what a finished matrix run leaves in its directory. The record files are those
of the returned records, and the verdict depends on these records only.
-/

namespace FaultInject.Identity
open Python Harness
open Analyze (repetitionRange)

/-- The runs of a planned cell have each repetition once, and other cells have no runs. -/
theorem Plans.repetitions {C : Type} [DecidableEq C]
    {cellOf : String → String → String → Result C} {cells : List C} {repetitions : Int}
    {specs : List ScenarioSpec} (plans : Plans cellOf cells repetitions specs) (cell : C) :
    (((specs.map (runOf cellOf)).filter fun run => decide (run.2 = .ok cell)).map
      Prod.fst).Perm (if cell ∈ cells then repetitionRange repetitions.toNat else []) := by
  have counts (repetition : Int) :
      (((specs.map (runOf cellOf)).filter fun run => decide (run.2 = .ok cell)).map
        Prod.fst).count repetition =
          specs.countP fun spec => runOf cellOf spec = (repetition, .ok cell) := by
    rw [List.count_eq_countP, List.countP_map, List.countP_filter, List.countP_map]
    apply List.countP_congr
    intro spec _
    simp [Prod.ext_iff]
  rw [List.perm_iff_count]
  intro repetition
  rw [counts]
  split
  · rename_i known
    by_cases inside : repetition ∈ repetitionRange repetitions.toNat
    · rw [plans.once cell known repetition (mem_repetitionRange.mp inside),
        List.count_eq_one_of_mem (Analyze.nodup_repetitionRange _) inside]
    · rw [List.count_eq_zero_of_not_mem inside, List.countP_eq_zero]
      intro spec member same
      rw [decide_eq_true_eq, runOf, Prod.mk.injEq] at same
      obtain ⟨bounds, _⟩ := plans.planned spec member
      rw [same.1] at bounds
      exact inside (mem_repetitionRange.mpr bounds)
  · rename_i unknown
    rw [List.count_nil, List.countP_eq_zero]
    intro spec member same
    rw [decide_eq_true_eq, runOf, Prod.mk.injEq] at same
    obtain ⟨_, other, known, named⟩ := plans.planned spec member
    rw [same.2] at named
    cases named
    exact unknown known

end FaultInject.Identity

namespace FaultInject.Matrix
open Python Record Harness V12 V15 V16 V18
open Analyze (loadRecords repetitionRange)

/-- These runs start in a directory without records and write no inventory. -/
def MatrixRun.Fresh : MatrixRun → Prop
  | .v18 _ | .e8 _ => False
  | _ => True

/-- All rounds of the run have returned. -/
structure Finished (state : State) : Prop where
  running : state.phase = .running
  todo : state.todo = []

def isRunning : Phase → Bool
  | .running => true
  | _ => false

/-- The end of a run can be computed. -/
instance (state : State) : Decidable (Finished state) :=
  decidable_of_iff (isRunning state.phase = true ∧ state.todo.isEmpty = true) <| by
    rw [List.isEmpty_iff]
    constructor
    · intro both
      cases phase : state.phase <;> rw [phase] at both <;>
        first | exact ⟨phase, both.2⟩ | cases both.1
    · intro finished
      rw [finished.running, finished.todo]
      exact ⟨rfl, rfl⟩

/-- Loading the files of distinct records in some order gives these records. -/
theorem loadRecords_perm {runDir : Directory} {records : List RunRecord}
    (stored : List.Forall₂ (fun name record => runDir.fromJson name = .ok record)
      (records.map fun record => s!"{record.runId}.json") records)
    (paths : runDir.jsonPaths.Perm (records.map fun record => s!"{record.runId}.json")) :
    ∃ loaded, loadRecords runDir = .ok loaded ∧ loaded.Perm records := by
  obtain ⟨loaded, each, perm⟩ := List.perm_comp_forall₂ paths stored
  exact ⟨loaded, mapM_eq_ok.mpr each, perm⟩

/-- A related list has a partner for each member. -/
theorem exists_of_mem_forall₂ {A B : Type} {related : A → B → Prop} {first : List A}
    {second : List B} (pairs : List.Forall₂ related first second) {value : A}
    (member : value ∈ first) : ∃ other ∈ second, related value other := by
  induction pairs with
  | nil => cases member
  | cons head _ ih =>
      rcases List.mem_cons.mp member with rfl | rest
      · exact ⟨_, List.mem_cons_self, head⟩
      · obtain ⟨other, inside, related⟩ := ih rest
        exact ⟨other, List.mem_cons_of_mem _ inside, related⟩

/-- The names of all matrix runs are plain. -/
theorem MatrixRun.plain {context : Context} {run : MatrixRun} {job : Job}
    (known : (run.plan context).Contains job) : PlainSpec job.spec := by
  cases run with
  | v12 settings versions groups =>
      exact (runV12_settingJob _ _ _ _ _ _ _ _ _ known).plain
  | v15 selected =>
      obtain ⟨specs, planned, inside, _⟩ := contains_map rfl known
      exact plainSpec_of_mem_v15Specs planned inside
  | v16 =>
      obtain ⟨specs, planned, inside, _⟩ := contains_map rfl known
      exact plainSpec_of_mem_v16Specs planned inside
  | v16Direct =>
      obtain ⟨specs, planned, inside, _⟩ := contains_map rfl known
      exact plainSpec_of_mem_v16DirectSpecs planned inside
  | v18 clients =>
      obtain ⟨jobs, built, member⟩ := known
      cases built
      obtain ⟨repetition, _, inside⟩ := List.mem_flatMap.mp member
      obtain ⟨client, _, same⟩ := List.mem_map.mp inside
      obtain ⟨spec, made, rfl⟩ := map_eq_ok.mp same
      exact (v18SurveySpec_plain made).1
  | e8 servers =>
      obtain ⟨jobs, built, member⟩ := known
      cases built
      obtain ⟨repetition, _, inside⟩ := List.mem_flatMap.mp member
      obtain ⟨server, _, inside⟩ := List.mem_flatMap.mp inside
      obtain ⟨client, _, same⟩ := List.mem_map.mp inside
      obtain ⟨spec, made, rfl⟩ := map_eq_ok.mp same
      exact (e8Spec_plain made).1

section Files
variable {context : Context} {run : MatrixRun} {runDir : Directory} {events : List Event}
  {state : State}

/-- A run that is not at its entry and has not raised passed its guard. -/
theorem guard_of_active {plan : Plan} (active : state.phase.Active)
    (reached : Transition.run (step plan) (.initial runDir) events = some state) :
    plan.guard runDir = .ok () := by
  cases guarded : plan.guard runDir with
  | ok value => rfl
  | error error =>
      rcases (unchanged_of_guard guarded reached).2 with phase | phase <;>
        rw [phase] at active <;> exact active.elim

theorem MatrixRun.Fresh.guard (fresh : run.Fresh) :
    (run.plan context).guard = freshGuard context.outDir := by
  cases run <;> first | rfl | exact fresh.elim

theorem MatrixRun.Fresh.inventory (fresh : run.Fresh) : (run.plan context).inventory = none := by
  cases run <;> first | rfl | exact fresh.elim

/-- The record file of a kept record has its name. -/
theorem Kept.name {job : Job} {record : RunRecord} (kept : Kept runDir job record) :
    recordName job.spec = s!"{record.runId}.json" := by
  rw [recordName, kept.ofSpec.runId]

/-- The record files of a finished run are those of its records. -/
theorem get?_of_finished (fresh : run.Fresh)
    (reached : Transition.run (step (run.plan context)) (.initial runDir) events = some state)
    (finished : Finished state) {done : List Job}
    (kept : List.Forall₂ (Kept state.runDir) done state.records)
    (planned : (run.plan context).jobs = .ok (done.map .ok)) {name : String} (read : Read name) :
    (∃ file, state.runDir.get? name = some file) ↔
      name ∈ done.map fun job => recordName job.spec := by
  have active : state.phase.Active := by
    rw [finished.running]
    trivial
  have passed := guard_of_active active reached
  rw [fresh.guard] at passed
  have own (job : Job) (known : (run.plan context).Contains job) : OwnJob job :=
    (run.repeatable context known).toOwnJob
  constructor
  · rintro ⟨file, found⟩
    by_contra absent
    have free : ¬(run.plan context).Writes name := by
      rintro (⟨job, known, member⟩ | ⟨inventory, listed, _⟩)
      · have same := eq_recordName (.inl (own job known).proxyLog) member read.1
        obtain ⟨jobs, built, inside⟩ := known
        rw [planned] at built
        cases built
        obtain ⟨other, among, equal⟩ := List.mem_map.mp inside
        cases equal
        exact absent (List.mem_map.mpr ⟨_, among, same.symm⟩)
      · rw [fresh.inventory] at listed
        cases listed
    rw [(framed_of_run own reached).keeps name free,
      get?_of_freshGuard context.outDir passed read] at found
    cases found
  · rw [List.mem_map]
    rintro ⟨job, member, rfl⟩
    obtain ⟨record, _, pair⟩ := exists_of_mem_forall₂ kept member
    exact ⟨_, pair.stored⟩

/-- The rounds of a finished run are all planned rounds. -/
theorem finished_progress (distinct : run.Distinct)
    (reached : Transition.run (step (run.plan context)) (.initial runDir) events = some state)
    (finished : Finished state) :
    ∃ done, List.Forall₂ (Kept state.runDir) done state.records ∧
      (run.plan context).jobs = .ok (done.map .ok) := by
  obtain ⟨done, progress⟩ := progress_of_run (fun job known => run.repeatable context known)
    (fun jobs planned => MatrixRun.apart distinct planned) reached
  have active : state.phase.Active := by
    rw [finished.running]
    trivial
  have planned := progress.planned (.inl active)
  rw [finished.todo, List.append_nil] at planned
  exact ⟨done, progress.kept, planned⟩

/-- No two rounds of a run have one record file. -/
theorem nodup_recordNames (distinct : run.Distinct) {done : List Job}
    (planned : (run.plan context).jobs = .ok (done.map .ok)) :
    (done.map fun job => recordName job.spec).Nodup := by
  have apart := MatrixRun.apart distinct planned
  rw [List.pairwise_map] at apart
  rw [List.Nodup, List.pairwise_map]
  apply apart.imp
  intro first second disjoint same
  have other : recordName first.spec ∈ artifactNames second.spec := by
    rw [same]
    exact List.mem_cons_self
  exact disjoint first second rfl rfl List.mem_cons_self other

/-- The kept records have the names of their rounds. -/
theorem map_recordName {done : List Job} {records : List RunRecord}
    (kept : List.Forall₂ (Kept runDir) done records) :
    (done.map fun job => recordName job.spec) = records.map fun record => s!"{record.runId}.json" := by
  induction kept with
  | nil => rfl
  | cons head _ ih => rw [List.map_cons, List.map_cons, ih, head.name]

/-- The kept records are read from their files. -/
theorem stored_of_kept {done : List Job} {records : List RunRecord}
    (kept : List.Forall₂ (Kept runDir) done records) :
    List.Forall₂ (fun name record => runDir.fromJson name = .ok record)
      (records.map fun record => s!"{record.runId}.json") records := by
  induction kept with
  | nil => exact .nil
  | cons head _ ih =>
      refine .cons ?_ ih
      beta_reduce
      rw [← head.name]
      exact (fromJson_eq_ok head.stored).mpr rfl

/-- The directory of a finished run is loaded as the records of the run. -/
theorem loaded_of_finished (distinct : run.Distinct) (fresh : run.Fresh)
    (reached : Transition.run (step (run.plan context)) (.initial runDir) events = some state)
    (finished : Finished state) :
    ∃ loaded, loadRecords state.runDir = .ok loaded ∧ loaded.Perm state.records := by
  obtain ⟨done, kept, planned⟩ := finished_progress distinct reached finished
  apply loadRecords_perm (stored_of_kept kept)
  have names := nodup_recordNames distinct planned
  rw [← map_recordName kept, List.perm_ext_iff_of_nodup (V18.nodup_jsonPaths _) names]
  intro name
  rw [mem_jsonPaths]
  constructor
  · rintro ⟨read, found⟩
    exact (get?_of_finished fresh reached finished kept planned read).mp found
  · intro member
    have read : Read name := by
      obtain ⟨job, inside, rfl⟩ := List.mem_map.mp member
      exact (MatrixRun.plain ⟨_, planned, List.mem_map_of_mem inside⟩).read_recordName
    exact ⟨read, (get?_of_finished fresh reached finished kept planned read).mpr member⟩

/-- A finished run into a directory without records has one record for each planned round in
the order of the plan, and loading the directory gives these records and no other. -/
theorem MatrixRun.finished_loads (distinct : run.Distinct) (fresh : run.Fresh)
    (reached : Transition.run (step (run.plan context)) (.initial runDir) events = some state)
    (finished : Finished state) :
    ∃ jobs loaded, (run.plan context).jobs = .ok (jobs.map .ok) ∧
      List.Forall₂ (fun job record => OfSpec job.spec record) jobs state.records ∧
      loadRecords state.runDir = .ok loaded ∧ loaded.Perm state.records := by
  obtain ⟨done, kept, planned⟩ := finished_progress distinct reached finished
  obtain ⟨loaded, read, perm⟩ := loaded_of_finished distinct fresh reached finished
  exact ⟨done, loaded, planned, kept.imp fun _ _ pair => pair.ofSpec, read, perm⟩

end Files

section Verdict
open Analyze
variable {context : Context} {settings versions : List String} {groups : String}
  {runDir : Directory} {events : List Event} {state : State}

/-- A complete record is counted for the cell of its condition. -/
theorem Complete.ofCell_iff {record : RunRecord} (complete : Complete record)
    (fault : record.faultType = "server-setting") {cell : Cell} :
    ofCell cell record = true ↔ V12.splitCondition record.condition = .ok cell := by
  constructor
  · exact complete.splitCondition
  · intro divided
    obtain ⟨version, setting, parts, hasVersion, hasSetting⟩ := complete
    rw [parts] at divided
    cases divided
    rw [ofCell, Bool.and_eq_true, Bool.and_eq_true, hasText_eq_true, hasText_eq_true]
    exact ⟨⟨beq_iff_eq.mpr fault, hasVersion⟩, hasSetting⟩

/-- The records of a run of the matrix are complete. -/
theorem complete_of_kept {done : List Job} {records : List RunRecord}
    (kept : List.Forall₂ (Kept runDir) done records)
    (own : ∀ job ∈ done, SettingJob job) :
    ∀ record ∈ records, Complete record ∧ record.faultType = "server-setting" := by
  induction kept with
  | nil => exact fun record member => absurd member List.not_mem_nil
  | @cons job record jobs records head _ ih =>
      have setting := own job List.mem_cons_self
      rw [List.forall_mem_cons]
      refine ⟨⟨?_, ?_⟩, ih fun other member => own other (List.mem_cons_of_mem _ member)⟩
      · exact setting.complete _ _ _ _ head.again head.ofSpec.condition
      · rw [head.ofSpec.faultType, setting.faultType]

/-- The runs of the records are the runs of their specifications. -/
theorem map_runOf_kept {done : List Job} {records : List RunRecord}
    (kept : List.Forall₂ (Kept runDir) done records) :
    records.map (fun record => (record.repetition, V12.splitCondition record.condition)) =
      (done.map Job.spec).map (Identity.runOf Identity.splitCell) := by
  induction kept with
  | nil => rfl
  | cons head _ ih =>
      simp only [List.map_cons, ih, head.ofSpec.repetition, head.ofSpec.condition]
      rfl

/-- The records of a planned cell have each repetition once, and other cells have no records. -/
theorem repetitions_of_plans {records : List RunRecord} {specs : List ScenarioSpec}
    {cells : List Cell} {repetitions : Int}
    (plans : Identity.Plans Identity.splitCell cells repetitions specs)
    (runs : records.map (fun record => (record.repetition,
      V12.splitCondition record.condition)) = specs.map (Identity.runOf Identity.splitCell))
    (complete : ∀ record ∈ records, Complete record ∧ record.faultType = "server-setting")
    (cell : Cell) :
    ((cellRecords cell records).map RunRecord.repetition).Perm
      (if cell ∈ cells then repetitionRange repetitions.toNat else []) := by
  have same : cellRecords cell records = records.filter fun record =>
      decide (V12.splitCondition record.condition = .ok cell) := by
    apply List.filter_congr
    intro record member
    obtain ⟨whole, fault⟩ := complete record member
    rw [Bool.eq_iff_iff, whole.ofCell_iff fault, decide_eq_true_eq]
  have counted := plans.repetitions cell
  rw [← runs, List.filter_map, List.map_map] at counted
  rw [same]
  split at counted
  · rw [if_pos (by assumption)]
    exact counted
  · rw [if_neg (by assumption)]
    exact counted

/-- The rounds that are built from specifications have these specifications. -/
theorem map_spec_of_built {specs : List ScenarioSpec} {done : List Job}
    {evaluate : ScenarioSpec → RunRecord → Directory → Result (RunRecord × Directory)}
    (same : (specs.map fun spec => (.ok ⟨spec, evaluate spec⟩ : Result Job)) = done.map .ok) :
    done.map Job.spec = specs := by
  have injective : Function.Injective (Except.ok : Job → Result Job) :=
    fun first second equal => Except.ok.inj equal
  have jobs : (specs.map fun spec => (⟨spec, evaluate spec⟩ : Job)) = done := by
    apply List.map_injective_iff.mpr injective
    rw [List.map_map]
    exact same
  rw [← jobs, List.map_map]
  exact List.map_id _

/-- A cell of the loaded records holds exactly when it is planned and its records support it. -/
theorem cellHolds_iff {loaded records : List RunRecord} {cells : List Cell} {repetitions : Int}
    (positive : 1 ≤ repetitions) (perm : loaded.Perm records)
    (complete : ∀ record ∈ records, Complete record ∧ record.faultType = "server-setting")
    {cell : Cell} {expected : Bool × String}
    (counted : ((cellRecords cell records).map RunRecord.repetition).Perm
      (if cell ∈ cells then repetitionRange repetitions.toNat else [])) :
    CellHolds runDir repetitions.toNat loaded cell expected ↔
      cell ∈ cells ∧ ∀ record ∈ records, V12.splitCondition record.condition = .ok cell →
        RecordHolds runDir expected record := by
  have same : (cellRecords cell loaded).Perm (cellRecords cell records) := perm.filter _
  have repetition := (same.map RunRecord.repetition).trans counted
  have each : (∀ record ∈ cellRecords cell loaded, RecordHolds runDir expected record) ↔
      ∀ record ∈ records, V12.splitCondition record.condition = .ok cell →
        RecordHolds runDir expected record := by
    constructor
    · intro holds record member divided
      obtain ⟨whole, fault⟩ := complete record member
      apply holds record
      rw [same.mem_iff, cellRecords, List.mem_filter]
      exact ⟨member, (whole.ofCell_iff fault).mpr divided⟩
    · intro holds record member
      rw [same.mem_iff, cellRecords, List.mem_filter] at member
      obtain ⟨whole, fault⟩ := complete record member.1
      exact holds record member.1 ((whole.ofCell_iff fault).mp member.2)
  by_cases known : cell ∈ cells
  · rw [if_pos known] at repetition
    constructor
    · exact fun holds => ⟨known, each.mp holds.each⟩
    · exact fun holds => ⟨repetition, each.mpr holds.2⟩
  · rw [if_neg known] at repetition
    constructor
    · intro holds
      -- The cell has no records, and at least one repetition is expected.
      have width := (holds.once.symm.trans repetition).length_eq
      rw [length_repetitionRange, List.length_nil] at width
      omega
    · exact fun holds => absurd holds.1 known

/-- The directory of a finished matrix is loaded as its records. They are complete, and each
planned cell has each repetition once. -/
theorem finished_settings
    (distinct : (MatrixRun.v12 settings versions groups).Distinct)
    (reached : Transition.run (step ((MatrixRun.v12 settings versions groups).plan context))
      (.initial runDir) events = some state) (finished : Finished state) :
    ∃ loaded, loadRecords state.runDir = .ok loaded ∧ loaded.Perm state.records ∧
      (∀ record ∈ state.records, Complete record ∧ record.faultType = "server-setting") ∧
      ∀ cell, ((cellRecords cell state.records).map RunRecord.repetition).Perm
        (if cell ∈ versions ×ˢ settings then repetitionRange context.repetitions.toNat else []) := by
  obtain ⟨done, kept, planned⟩ := finished_progress distinct reached finished
  obtain ⟨loaded, read, perm⟩ := loaded_of_finished distinct trivial reached finished
  have complete := complete_of_kept kept fun job member =>
    runV12_settingJob _ _ _ _ _ _ _ _ _ ⟨_, planned, List.mem_map_of_mem member⟩
  have plans : Identity.Plans Identity.splitCell (versions ×ˢ settings) context.repetitions
      (done.map Job.spec) := by
    obtain ⟨paths, _, planned⟩ := bind_eq_ok.mp planned
    obtain ⟨hashes, _, planned⟩ := bind_eq_ok.mp planned
    obtain ⟨specs, built, same⟩ := bind_eq_ok.mp planned
    rw [map_spec_of_built (Except.ok.inj same)]
    exact Identity.v12Specs_plans _ _ groups distinct.1 distinct.2 built
  exact ⟨loaded, read, perm, complete, repetitions_of_plans plans (map_runOf_kept kept) complete⟩

/-- The verdict on a finished matrix is true exactly when every expected cell was planned and
all its records support the expectation. The numbers of repetitions are always right. -/
theorem finished_verdict_iff
    (distinct : (MatrixRun.v12 settings versions groups).Distinct)
    (reached : Transition.run (step ((MatrixRun.v12 settings versions groups).plan context))
      (.initial runDir) events = some state)
    (finished : Finished state) (positive : 1 ≤ context.repetitions)
    (vulnerable fixed : List String) :
    ∃ counts, comparisonV12 state.runDir = .ok counts ∧
      ((cveVerdict counts context.repetitions.toNat (expectedMatrix vulnerable fixed)).1 = true ↔
        ∀ entry ∈ (expectedMatrix vulnerable fixed).entries, entry.1 ∈ versions ×ˢ settings ∧
          ∀ record ∈ state.records, V12.splitCondition record.condition = .ok entry.1 →
            RecordHolds state.runDir entry.2 record) := by
  obtain ⟨loaded, read, perm, complete, counted⟩ := finished_settings distinct reached finished
  have labelled : ∀ record ∈ loaded, record.faultType = "server-setting" → Labelled record :=
    fun record member _ => (complete record (perm.mem_iff.mp member)).1.labelled
  refine ⟨_, comparisonV12_eq _ read labelled, ?_⟩
  rw [cveVerdict_eq, List.isEmpty_iff, List.flatMap_eq_nil_iff]
  refine forall₂_congr fun entry member => ?_
  rw [cellFailures_eq_nil labelled (by omega) entry.1
    (expectedMatrix_expectsKnown vulnerable fixed entry member)]
  exact cellHolds_iff positive perm complete (counted entry.1)

end Verdict

section Sample

/-- This run has one cell with two repetitions. -/
def sampleRuns : MatrixRun := .v12 ["S1"] ["3.5.6"] clientGroups

def sampleRounds : List Event :=
  [.enter, .scenario refusedOutcome, .evaluate, .scenario refusedOutcome, .evaluate]

theorem sampleRuns_finished : ∃ state,
    Transition.run (step (sampleRuns.plan sampleContext)) (.initial .empty) sampleRounds =
      some state ∧ Finished state := by
  have ends : (Transition.run (step (sampleRuns.plan sampleContext)) (.initial .empty)
      sampleRounds).map (fun state => (state.phase, state.todo.length)) = some (.running, 0) := rfl
  obtain ⟨state, reached, facts⟩ := Option.map_eq_some_iff.mp ends
  rw [Prod.mk.injEq] at facts
  exact ⟨state, reached, facts.1, List.length_eq_zero_iff.mp facts.2⟩

theorem sampleRuns_distinct : sampleRuns.Distinct :=
  ⟨List.nodup_singleton _, List.nodup_singleton _⟩

theorem MatrixRun.finished_loads_sample : ∃ state loaded,
    Transition.run (step (sampleRuns.plan sampleContext)) (.initial .empty) sampleRounds =
      some state ∧ loadRecords state.runDir = .ok loaded ∧ loaded.Perm state.records := by
  obtain ⟨state, reached, finished⟩ := sampleRuns_finished
  obtain ⟨_, loaded, _, _, read, perm⟩ :=
    MatrixRun.finished_loads sampleRuns_distinct trivial reached finished
  exact ⟨state, loaded, reached, read, perm⟩

/-- A matrix without the second setting is rejected. -/
theorem finished_verdict_iff_sample : ∃ state counts,
    Transition.run (step (sampleRuns.plan sampleContext)) (.initial .empty) sampleRounds =
      some state ∧ Analyze.comparisonV12 state.runDir = .ok counts ∧
      (Analyze.cveVerdict counts 2 (Analyze.expectedMatrix [] ["3.5.6"])).1 = false := by
  obtain ⟨state, reached, finished⟩ := sampleRuns_finished
  obtain ⟨counts, compared, verdict⟩ :=
    finished_verdict_iff sampleRuns_distinct reached finished (by decide) [] ["3.5.6"]
  refine ⟨state, counts, reached, compared, Bool.eq_false_iff.mpr fun accepted => ?_⟩
  have planned := (verdict.mp accepted (("3.5.6", "S2"), true, "X25519MLKEM768") (by decide)).1
  exact absurd planned (by decide)

end Sample

end FaultInject.Matrix
