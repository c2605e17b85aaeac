import FaultInject.Proof.BatchRuns
import FaultInject.Proof.Forge
import FaultInject.Proof.Reports
import FaultInject.Proof.SshForge
import FaultInject.Python.Sha256Numbers
import FaultInject.Python.Table

/-
This file shows what the reports return on the directory of a finished verified run.
-/

namespace FaultInject.Run
open Python Record Harness VerifyApplied MutationLog MitmProxy Analyze Aggregate
open FaultInject.Matrix (OfSpec Kept artifactNames recordName)

section Counts
variable {K C : Type} [DecidableEq K]

/-- These are the totals of the records with a key. -/
def faultTotals (key : RunRecord → K) (cell : K) (records : List RunRecord) : FaultTotal where
  total := records.countP fun record => key record = cell
  verified := records.countP fun record => key record = cell && record.manipulationVerified
  success := records.countP fun record =>
    key record = cell && record.metrics.handshakeResult == "success"
  downgrade := records.countP fun record => key record = cell && record.metrics.downgradeVisible

/-- These are the counts of the records with a key. -/
def conditionCounts (key : RunRecord → K) (cell : K) (records : List RunRecord) :
    ConditionCount where
  n := records.countP fun record => key record = cell
  verified := records.countP fun record => key record = cell && record.manipulationVerified
  success := records.countP fun record =>
    key record = cell && record.metrics.handshakeResult == "success"
  failure := records.countP fun record =>
    key record = cell && record.metrics.handshakeResult != "success"
  hrr := records.countP fun record => key record = cell && record.metrics.hrrPresent == some true
  downgradeFlagged := records.countP fun record =>
    key record = cell && record.metrics.downgradeFlagged == some true

/-- A count of a tally is the number of records of its key that pass the test. -/
theorem foldl_filter_counter {V : Type} (change : V → RunRecord → V) (initial : V)
    {loaded records : List RunRecord} (perm : loaded.Perm records) (key : RunRecord → K) (cell : K)
    (field : V → Nat) (test : RunRecord → Bool) (zero : field initial = 0)
    (grows : ∀ value record, field (change value record) = field value + (test record).toNat) :
    field ((loaded.filter (key · = cell)).foldl change initial) =
      records.countP fun record => key record = cell && test record := by
  rw [foldl_counter field test grows, zero, Nat.zero_add, List.countP_filter, perm.countP_eq]
  apply List.countP_congr
  intro record _
  rw [Bool.and_comm]

section Tallies
variable {loaded records : List RunRecord} (key : RunRecord → K) (cell : K)

/-- The totals do not depend on the order of the records. -/
theorem foldl_faultTotals (perm : loaded.Perm records) :
    (loaded.filter (key · = cell)).foldl FaultTotal.add {} = faultTotals key cell records := by
  have counter := foldl_filter_counter FaultTotal.add {} perm key cell
  have total := counter FaultTotal.total (fun _ => true) rfl fun _ _ => rfl
  have verified := counter FaultTotal.verified _ rfl fun _ _ => rfl
  have success := counter FaultTotal.success _ rfl fun _ _ => rfl
  have downgrade := counter FaultTotal.downgrade _ rfl fun _ _ => rfl
  simp only [Bool.and_true] at total
  rw [faultTotals, ← total, ← verified, ← success, ← downgrade]

theorem foldl_conditionCounts (perm : loaded.Perm records) :
    (loaded.filter (key · = cell)).foldl ConditionCount.add {} =
      conditionCounts key cell records := by
  have counter := foldl_filter_counter ConditionCount.add {} perm key cell
  have n := counter ConditionCount.n (fun _ => true) rfl fun _ _ => rfl
  have verified := counter ConditionCount.verified _ rfl fun _ _ => rfl
  have success := counter ConditionCount.success _ rfl fun _ _ => rfl
  have failure := counter ConditionCount.failure _ rfl fun _ _ => rfl
  have hrr := counter ConditionCount.hrr _ rfl fun _ _ => rfl
  have flagged := counter ConditionCount.downgradeFlagged _ rfl fun _ _ => rfl
  simp only [Bool.and_true] at n
  rw [conditionCounts, ← n, ← verified, ← success, ← failure, ← hrr, ← flagged]

end Tallies

end Counts

/-- Each of the cells has the same number, and other cells have none. -/
structure Counted {C : Type} (cells : List C) (width : Nat) (count : C → Nat) : Prop where
  inside : ∀ cell ∈ cells, count cell = width
  outside : ∀ cell, cell ∉ cells → count cell = 0

section Plans
variable {C : Type} [DecidableEq C] {cellOf : String → String → String → Result C} {cells : List C}
  {repetitions : Int} {specs : List ScenarioSpec} {records : List RunRecord} {key : RunRecord → C}

/-- A planned cell has one record for each repetition, and other cells have none. -/
theorem counted_of_plans (plans : Identity.Plans cellOf cells repetitions specs)
    (runs : records.map (fun record => (record.repetition, (.ok (key record) : Result C))) =
      specs.map (Identity.runOf cellOf)) :
    Counted cells repetitions.toNat fun cell => records.countP fun record => key record = cell := by
  have widths (cell : C) : (records.countP fun record => key record = cell) =
      (if cell ∈ cells then Analyze.repetitionRange repetitions.toNat else []).length := by
    have counted := (plans.repetitions cell).length_eq
    rw [← runs, List.filter_map, List.length_map, List.length_map] at counted
    rw [List.countP_eq_length_filter, ← counted]
    congr 1
    apply List.filter_congr
    intro record _
    simp
  constructor
  · intro cell known
    rw [widths, if_pos known, length_repetitionRange]
  · intro cell unknown
    rw [widths, if_neg unknown, List.length_nil]

/-- The rows of a report are those of its planned cells. -/
theorem rows_of_counted {V : Type} {initial : V} {change : V → RunRecord → V}
    {loaded : List RunRecord} {width : Nat} (perm : loaded.Perm records) (positive : 0 < width)
    (counted : Counted cells width fun cell => records.countP fun record => key record = cell) :
    (∀ cell ∈ cells, (Dict.tally key initial change loaded .empty).get? cell =
      some ((loaded.filter (key · = cell)).foldl change initial)) ∧
    ∀ cell, cell ∉ cells → (Dict.tally key initial change loaded .empty).get? cell = none := by
  have width (cell : C) : (loaded.filter (key · = cell)).length =
      records.countP fun record => key record = cell := by
    rw [← perm.countP_eq, List.countP_eq_length_filter]
  constructor
  · intro cell known
    rw [Dict.get?_tally_empty, if_neg]
    intro none
    have some := width cell
    rw [counted.inside cell known, none, List.length_nil] at some
    omega
  · intro cell unknown
    rw [Dict.get?_tally_empty, if_pos]
    rw [← List.length_eq_zero_iff, width, counted.outside cell unknown]

end Plans

section Finished
variable {evidence : Evidence} {start : Directory} {environ : Dict String String}
  {run : VerifiedRun} {specs : List ScenarioSpec} {outcomes : List Outcome} {batch : Batch}
  {done : List (ScenarioSpec × Outcome)}

/-- The rounds of a finished run are all planned scenarios with their outcomes. -/
structure Complete (evidence : Evidence) (start : Directory) (specs : List ScenarioSpec)
    (outcomes : List Outcome) (batch : Batch) (done : List (ScenarioSpec × Outcome)) : Prop where
  rounds : List.Forall₂ (Round evidence start batch.outDir) done batch.records
  specs : specs = done.map Prod.fst
  outcomes : outcomes = done.map Prod.snd

/-- The kept records of the rounds. -/
theorem Complete.kept (complete : Complete evidence start specs outcomes batch done) :
    List.Forall₂ (Kept batch.outDir) (done.map fun round => verifiedJob evidence round.1)
      batch.records := by
  rw [List.forall₂_map_left_iff]
  exact complete.rounds.imp fun _ _ round => round.kept

/-- No two planned scenarios have one record file. -/
theorem VerifiedRun.nodup_recordNames (planned : run.specs environ = .ok specs) :
    (specs.map recordName).Nodup := by
  rw [List.Nodup, List.pairwise_map]
  apply (VerifiedRun.apart planned).imp
  intro first second disjoint same
  apply disjoint List.mem_cons_self
  rw [same]
  exact List.mem_cons_self

/-- The directory of a finished run into a directory without records is loaded as its records. -/
theorem loaded_of_finished (planned : run.specs environ = .ok specs)
    (fresh : start.glob "*.json" = [])
    (reached : Transition.run (Batch.step evidence) (.initial specs start) outcomes = some batch)
    (finished : batch.Finished) :
    ∃ done loaded, Complete evidence start specs outcomes batch done ∧
      loadRecords batch.outDir = .ok loaded ∧ loaded.Perm batch.records := by
  have observed (spec : ScenarioSpec) (member : spec ∈ specs) : Observed spec :=
    VerifiedRun.observed planned member
  have apart := VerifiedRun.apart planned
  obtain ⟨done, progress⟩ := progress_of_run observed apart reached
  have all := progress.planned
  rw [finished.todo, List.append_nil] at all
  have complete : Complete evidence start specs outcomes batch done :=
    ⟨progress.rounds, all, progress.complete finished.raised⟩
  obtain ⟨loaded, read, perm⟩ : ∃ loaded, loadRecords batch.outDir = .ok loaded ∧
      loaded.Perm batch.records := by
    apply Matrix.loadRecords_perm (Matrix.stored_of_kept complete.kept)
    have names : (batch.records.map fun record => s!"{record.runId}.json") = specs.map recordName := by
      rw [← Matrix.map_recordName complete.kept, List.map_map, all, List.map_map]
      rfl
    have distinct := VerifiedRun.nodup_recordNames planned
    rw [names, List.perm_ext_iff_of_nodup (V18.nodup_jsonPaths _) distinct]
    intro name
    rw [Matrix.mem_jsonPaths]
    constructor
    · rintro ⟨readable, file, found⟩
      by_contra absent
      have free : ∀ round ∈ done, name ∉ artifactNames round.1 := by
        intro round member inside
        have known : round.1 ∈ specs := by
          rw [all]
          exact List.mem_map_of_mem member
        rw [Matrix.eq_recordName (observed _ known).ownProxyLog inside readable.1] at absent
        exact absent (List.mem_map_of_mem known)
      rw [progress.keeps finished.raised name free, Matrix.get?_of_freshGuard "" (if_pos fresh)
        readable] at found
      cases found
    · intro member
      obtain ⟨spec, known, rfl⟩ := List.mem_map.mp member
      refine ⟨(observed spec known).read, ?_⟩
      rw [← names, ← Matrix.map_recordName complete.kept] at member
      obtain ⟨job, inside, same⟩ := List.mem_map.mp member
      obtain ⟨record, _, kept⟩ := Matrix.exists_of_mem_forall₂ complete.kept inside
      rw [← same]
      exact ⟨_, kept.stored⟩
  exact ⟨done, loaded, complete, read, perm⟩

/-- The records have the repetitions and the cells of the planned scenarios. -/
theorem Complete.map_runOf {C : Type} (complete : Complete evidence start specs outcomes batch done)
    (cellOf : String → String → String → Result C) (key : RunRecord → C)
    (agree : ∀ spec record, OfSpec spec record →
      cellOf spec.impl spec.faultType spec.condition = .ok (key record)) :
    batch.records.map (fun record => (record.repetition, (.ok (key record) : Result C))) =
      specs.map (Identity.runOf cellOf) := by
  rw [complete.specs]
  have rounds := complete.rounds
  clear complete
  generalize batch.records = records at rounds
  induction rounds with
  | nil => rfl
  | @cons round record rounds records head _ ih =>
      have label : OfSpec round.1 record := head.kept.ofSpec
      rw [List.map_cons, List.map_cons, List.map_cons, ih, Identity.runOf, agree _ _ label,
        label.repetition]

/-- The digests tell the first changed chunk of the round from the chunk in its place. -/
def DigestsTell (round : ScenarioSpec × Outcome) : Prop :=
  ∀ event groupId transform, LogsMutation round.1 event groupId transform →
    ∀ chunk, firstChanged (forgeOf transform) (chunks .client round.2.events) = some chunk →
      Sha256.hexdigest chunk ≠ Sha256.hexdigest (forgeOf transform chunk)

/-- In a directory without its log, a round with a proxy is verified. -/
theorem Round.verified {round : ScenarioSpec × Outcome} {outDir : Directory} {record : RunRecord}
    (kept : Round evidence start outDir round record) {event groupId : String}
    {transform : Bytes → Result Bytes} (logs : LogsMutation round.1 event groupId transform)
    (empty : start.get? (proxyLogOf round.1) = none) (tell : DigestsTell round) :
    record.manipulationVerified = true := by
  obtain ⟨chunk, found, value⟩ := kept.mutated empty event groupId transform logs
  rw [value, bne_iff_ne]
  exact tell event groupId transform logs chunk found

/-- Every record belongs to a planned scenario and its outcome. -/
theorem Complete.round_of_mem (complete : Complete evidence start specs outcomes batch done)
    {record : RunRecord} (member : record ∈ batch.records) :
    ∃ round ∈ specs.zip outcomes, round.1 ∈ specs ∧ Round evidence start batch.outDir round record := by
  obtain ⟨round, inside, kept⟩ := Matrix.exists_of_mem_forall₂ complete.rounds.flip member
  have zipped := List.zip_of_prod complete.specs.symm complete.outcomes.symm
  rw [← zipped, complete.specs]
  exact ⟨round, inside, List.mem_map_of_mem inside, kept⟩

/-- A count of a cell is the number of its repetitions when all its records pass the test. -/
theorem countP_of_all {K : Type} [DecidableEq K] {key : RunRecord → K} {cell : K}
    {records : List RunRecord} {test : RunRecord → Bool}
    (passed : ∀ record ∈ records, key record = cell → test record = true) :
    (records.countP fun record => key record = cell && test record) =
      records.countP fun record => key record = cell := by
  apply List.countP_congr
  intro record member
  rw [Bool.and_eq_true, decide_eq_true_eq]
  exact ⟨fun both => both.1, fun same => ⟨same, passed record member same⟩⟩

/-- These are the repetitions of the runs with the two faults. -/
def VerifiedRun.faultRounds : VerifiedRun → Option Int
  | .smoke => some 1
  | .batch repetitions => some repetitions
  | .v11 _ => none

variable {repetitions : Int}

theorem plans_of_faultRounds (faults : run.faultRounds = some repetitions)
    (planned : run.specs environ = .ok specs) :
    Identity.Plans Identity.batchCell Identity.batchCells repetitions specs := by
  cases run with
  | smoke =>
      cases faults
      obtain ⟨others, again, plans⟩ := smokeSpecs_plans environ
      rw [VerifiedRun.specs, again] at planned
      cases planned
      exact plans
  | batch repetitions =>
      cases faults
      obtain ⟨others, again, plans⟩ := Identity.batchSpecs_plans environ repetitions
      rw [VerifiedRun.specs, again] at planned
      cases planned
      exact plans
  | v11 repetitions => cases faults

/-- A planned scenario of the fault `binding` logs the mutation of its proxy. -/
theorem logs_of_binding (faults : run.faultRounds = some repetitions)
    (planned : run.specs environ = .ok specs) {spec : ScenarioSpec} (member : spec ∈ specs)
    (binding : spec.faultType = "binding") :
    ∃ event groupId transform, LogsMutation spec event groupId transform := by
  have known : ∃ impl ∈ implementations, ∃ repetition environment paths,
      FaultGroupList.groupListSpec impl repetition environment paths = .ok spec ∨
      FaultBinding.bindingSpec impl repetition environment paths = .ok spec := by
    cases run with
    | smoke => exact mem_smokeSpecs planned member
    | batch repetitions => exact mem_batchSpecs planned member
    | v11 repetitions => cases faults
  obtain ⟨impl, _, _, _, _, list | bound⟩ := known
  · obtain ⟨flag, _, list⟩ := bind_eq_ok.mp list
    obtain ⟨values, _, same⟩ := bind_eq_ok.mp list
    cases same
    exact absurd binding (by decide : ¬"group-list" = "binding")
  · exact bindingSpec_logsMutation bound

/-- The minimum is met when every cell of the batch has enough verified records. -/
theorem meetsMinimum_iff {counts : Dict (String × String) FaultTotal}
    {totals : String × String → FaultTotal}
    (rows : ∀ cell, counts.get? cell = if cell ∈ Identity.batchCells then some (totals cell) else none)
    (minimum : Nat) :
    meetsMinimum counts minimum = true ↔
      ∀ cell ∈ Identity.batchCells, minimum ≤ (totals cell).verified := by
  have entries := Dict.rows_perm (by decide : Identity.batchCells.Nodup)
    (fun cell known => (rows cell).trans (if_pos known))
    (fun cell other => (rows cell).trans (if_neg other))
  have six : counts.entries.length = 6 := entries.length_eq
  rw [meetsMinimum, six, beq_self_eq_true, Bool.true_and, entries.all_eq, List.all_map,
    List.all_eq_true]
  exact forall₂_congr fun cell known => decide_eq_true_iff

/-- The directory of a finished run with faults is loaded as its records, with one record of each
implementation and fault for each repetition. -/
theorem finished_faults (planned : run.specs environ = .ok specs)
    (faults : run.faultRounds = some repetitions) (fresh : start.glob "*.json" = [])
    (reached : Transition.run (Batch.step evidence) (.initial specs start) outcomes = some batch)
    (finished : batch.Finished) :
    ∃ done loaded, Complete evidence start specs outcomes batch done ∧
      loadRecords batch.outDir = .ok loaded ∧ loaded.Perm batch.records ∧
      Counted Identity.batchCells repetitions.toNat fun cell =>
        batch.records.countP fun record => faultKey record = cell := by
  obtain ⟨done, loaded, complete, read, perm⟩ := loaded_of_finished planned fresh reached finished
  have plans := plans_of_faultRounds faults planned
  have runs := complete.map_runOf Identity.batchCell faultKey
    fun spec record label => by
      rw [Identity.batchCell, faultKey, label.implementation, label.faultType]
  exact ⟨done, loaded, complete, read, perm, counted_of_plans plans runs⟩

/-- The aggregation of a finished batch has one row for each implementation and fault, with one
record for each repetition, and the minimum is met when each row has enough verified records. In a
directory without logs all records of the fault `binding` are verified. -/
theorem finished_meetsMinimum (planned : run.specs environ = .ok specs)
    (faults : run.faultRounds = some repetitions) (positive : 1 ≤ repetitions)
    (fresh : start.glob "*.json" = [])
    (reached : Transition.run (Batch.step evidence) (.initial specs start) outcomes = some batch)
    (finished : batch.Finished) :
    ∃ counts, aggregate batch.outDir = .ok counts ∧
      (∀ cell, counts.get? cell = if cell ∈ Identity.batchCells then
        some (faultTotals faultKey cell batch.records) else none) ∧
      (∀ cell ∈ Identity.batchCells,
        (faultTotals faultKey cell batch.records).total = repetitions.toNat) ∧
      (∀ minimum, meetsMinimum counts minimum = true ↔ ∀ cell ∈ Identity.batchCells,
        minimum ≤ (faultTotals faultKey cell batch.records).verified) ∧
      ((∀ spec ∈ specs, start.get? (proxyLogOf spec) = none) →
        (∀ round ∈ specs.zip outcomes, DigestsTell round) → ∀ impl ∈ implementations,
          (faultTotals faultKey (impl, "binding") batch.records).verified = repetitions.toNat) := by
  obtain ⟨done, loaded, complete, read, perm, counted⟩ :=
    finished_faults planned faults fresh reached finished
  have counts : aggregate batch.outDir =
      .ok (Dict.tally faultKey {} FaultTotal.add loaded .empty) := by
    rw [aggregate, countRecords_eq, read]
    rfl
  have rows (cell : String × String) :
      (Dict.tally faultKey {} FaultTotal.add loaded .empty).get? cell =
        if cell ∈ Identity.batchCells then some (faultTotals faultKey cell batch.records) else none := by
    obtain ⟨found, absent⟩ := rows_of_counted perm (by omega) counted
    by_cases known : cell ∈ Identity.batchCells
    · rw [if_pos known, found cell known, foldl_faultTotals faultKey cell perm]
    · rw [if_neg known, absent cell known]
  refine ⟨_, counts, rows, ?_, meetsMinimum_iff rows, ?_⟩
  · intro cell known
    exact counted.inside cell known
  · intro empty tell impl known
    have cell : (impl, "binding") ∈ Identity.batchCells :=
      List.mem_product.mpr ⟨known, by decide⟩
    rw [faultTotals, countP_of_all, counted.inside _ cell]
    intro record member same
    obtain ⟨round, zipped, inside, kept⟩ := complete.round_of_mem member
    have label : OfSpec round.1 record := kept.kept.ofSpec
    have binding : round.1.faultType = "binding" := by
      rw [← label.faultType]
      exact congrArg Prod.snd same
    obtain ⟨event, groupId, transform, logs⟩ := logs_of_binding faults planned inside binding
    exact kept.verified logs (empty _ inside) (tell _ zipped)

/-- A planned scenario of the conditions advertises the hybrid group. Its condition is direct, or it
logs the mutation of its proxy. -/
theorem v11_values (planned : v11Specs repetitions environ = .ok specs) {spec : ScenarioSpec}
    (member : spec ∈ specs) :
    spec.faultType = "condition" ∧ spec.advertisedHybrid.isSome ∧
      (spec.condition ∈ ["base", "silent-downgrade", "ssh-order"] ∨
        ∃ event groupId transform, LogsMutation spec event groupId transform) := by
  obtain ⟨impl, _, _, _, _, ⟨condition, named, direct⟩ | stripped⟩ := mem_v11Specs planned member
  · obtain ⟨base, based, direct⟩ := bind_eq_ok.mp direct
    obtain ⟨advertised, _, same⟩ := bind_eq_ok.mp direct
    obtain ⟨port, _, based⟩ := bind_eq_ok.mp based
    obtain ⟨commands, _, conditioned⟩ := bind_eq_ok.mp based
    cases conditioned
    cases same
    exact ⟨rfl, rfl, .inl named⟩
  · have logs := stripSpec_logsMutation stripped
    obtain ⟨base, based, stripped⟩ := bind_eq_ok.mp stripped
    obtain ⟨values, _, same⟩ := bind_eq_ok.mp stripped
    obtain ⟨_, fault, _⟩ := conditionSpec_values based
    cases same
    exact ⟨fault, rfl, .inr logs⟩

/-- The audit of an advertised scenario flags no downgrade. -/
theorem not_flagged {spec : ScenarioSpec} {outcome : Outcome} {metrics : Metrics}
    (advertised : spec.advertisedHybrid.isSome)
    (collected : scenarioMetrics spec outcome = .ok metrics) :
    metrics.downgradeFlagged = some false := by
  obtain ⟨hybrid, some⟩ := Option.isSome_iff_exists.mp advertised
  rw [scenarioMetrics, some] at collected
  obtain ⟨base, _, same⟩ := bind_eq_ok.mp collected
  cases same
  rfl

/-- The verification accepts the conditions that only the client fixes. -/
theorem verified_of_fixed {record : RunRecord} {outDir after : Directory}
    (again : verifyRecord evidence record outDir = .ok (record, after))
    (fault : record.faultType = "condition") (fixed : record.condition ∈ ["base", "ssh-order"]) :
    record.manipulationVerified = true := by
  have other : record.condition ≠ "silent-downgrade" ∧ record.condition ≠ "onpath-strip" := by
    constructor <;>
      · intro same
        rw [same] at fixed
        exact absurd fixed (by decide)
  obtain ⟨value, checked, marked, _⟩ := verifyRecord_eq_ok.mp again
  rw [Run.verified, if_pos fault, verifyCondition, if_neg other.1, if_neg other.2] at checked
  cases checked
  rw [marked]
  rfl

/-- The directory of finished conditions is loaded as their records, with one record of each
planned condition for each repetition. -/
theorem finished_conditions (planned : v11Specs repetitions environ = .ok specs)
    (fresh : start.glob "*.json" = [])
    (reached : Transition.run (Batch.step evidence) (.initial specs start) outcomes = some batch)
    (finished : batch.Finished) :
    ∃ done loaded, Complete evidence start specs outcomes batch done ∧
      loadRecords batch.outDir = .ok loaded ∧ loaded.Perm batch.records ∧
      Counted Identity.v11Cells repetitions.toNat fun cell =>
        batch.records.countP fun record => conditionKey record = cell := by
  have conditions : (VerifiedRun.v11 repetitions).specs environ = .ok specs := planned
  obtain ⟨done, loaded, complete, read, perm⟩ := loaded_of_finished conditions fresh reached finished
  have plans : Identity.Plans Identity.conditionCell Identity.v11Cells repetitions specs := by
    obtain ⟨others, again, plans⟩ := Identity.v11Specs_plans environ repetitions
    rw [again] at planned
    cases planned
    exact plans
  have runs := complete.map_runOf Identity.conditionCell conditionKey
    fun spec record label => by
      rw [Identity.conditionCell, conditionKey, label.implementation, label.condition]
  exact ⟨done, loaded, complete, read, perm, counted_of_plans plans runs⟩

/-- The comparison of finished conditions has one row for each planned condition, with one record
for each repetition and no flagged downgrade. The records of the fixed conditions are verified, and
in a directory without logs those that are stripped on the path as well. -/
theorem finished_comparisonV11 (planned : v11Specs repetitions environ = .ok specs)
    (positive : 1 ≤ repetitions) (fresh : start.glob "*.json" = [])
    (reached : Transition.run (Batch.step evidence) (.initial specs start) outcomes = some batch)
    (finished : batch.Finished) :
    ∃ counts, comparisonV11 batch.outDir = .ok counts ∧
      (∀ cell, counts.get? cell = if cell ∈ Identity.v11Cells then
        some (conditionCounts conditionKey cell batch.records) else none) ∧
      (∀ cell ∈ Identity.v11Cells,
        (conditionCounts conditionKey cell batch.records).n = repetitions.toNat ∧
        (conditionCounts conditionKey cell batch.records).downgradeFlagged = 0 ∧
        (cell.2 ∈ ["base", "ssh-order"] →
          (conditionCounts conditionKey cell batch.records).verified = repetitions.toNat)) ∧
      ((∀ spec ∈ specs, start.get? (proxyLogOf spec) = none) →
        (∀ round ∈ specs.zip outcomes, DigestsTell round) → ∀ impl ∈ implementations,
          (conditionCounts conditionKey (impl, "onpath-strip") batch.records).verified =
            repetitions.toNat) := by
  obtain ⟨done, loaded, complete, read, perm, counted⟩ :=
    finished_conditions planned fresh reached finished
  refine ⟨Dict.tally conditionKey {} ConditionCount.add loaded .empty, ?_, ?_, ?_, ?_⟩
  · rw [comparisonV11, countRecords_eq, read]
    rfl
  · intro cell
    obtain ⟨found, absent⟩ := rows_of_counted perm (by omega) counted
    by_cases known : cell ∈ Identity.v11Cells
    · rw [if_pos known, found cell known, foldl_conditionCounts conditionKey cell perm]
    · rw [if_neg known, absent cell known]
  · intro cell known
    refine ⟨counted.inside cell known, ?_, ?_⟩
    · apply List.countP_eq_zero.mpr
      intro record member
      obtain ⟨round, _, inside, kept⟩ := complete.round_of_mem member
      obtain ⟨_, advertised, _⟩ := v11_values planned inside
      rw [not_flagged advertised kept.metrics]
      simp
    · intro fixed
      rw [conditionCounts, countP_of_all, counted.inside _ known]
      intro record member same
      obtain ⟨round, _, inside, kept⟩ := complete.round_of_mem member
      have label : OfSpec round.1 record := kept.kept.ofSpec
      apply verified_of_fixed kept.kept.again
      · rw [label.faultType]
        exact (v11_values planned inside).1
      · rw [← same] at fixed
        exact fixed
  · intro empty tell impl known
    have cell : (impl, "onpath-strip") ∈ Identity.v11Cells := by
      have each : ∀ impl ∈ implementations, (impl, "onpath-strip") ∈ Identity.v11Cells := by decide
      exact each impl known
    rw [conditionCounts, countP_of_all, counted.inside _ cell]
    intro record member same
    obtain ⟨round, zipped, inside, kept⟩ := complete.round_of_mem member
    have label : OfSpec round.1 record := kept.kept.ofSpec
    have stripped : round.1.condition = "onpath-strip" := by
      rw [← label.condition]
      exact congrArg Prod.snd same
    obtain ⟨_, _, named | ⟨event, groupId, transform, logs⟩⟩ := v11_values planned inside
    · rw [stripped] at named
      exact absurd named (by decide)
    · exact kept.verified logs (empty _ inside) (tell _ zipped)

end Finished

section Sample
variable {spec : ScenarioSpec} {outcome : Outcome} {event groupId impl : String}
  {transform : Bytes → Result Bytes} {chunk forged : Bytes}

/-- The client of the round sends one chunk. The proxy changes it, and the digests tell. -/
structure Forges (spec : ScenarioSpec) (outcome : Outcome) (event groupId : String)
    (transform : Bytes → Result Bytes) (chunk forged : Bytes) : Prop where
  logs : LogsMutation spec event groupId transform
  events : outcome.events = [.recv .client chunk]
  nonempty : chunk ≠ []
  forges : transform chunk = .ok forged
  tell : Sha256.hexdigest chunk ≠ Sha256.hexdigest forged

/-- The first chunk of the client is changed. -/
theorem Forges.firstChanged (round : Forges spec outcome event groupId transform chunk forged) :
    firstChanged (forgeOf transform) (chunks .client outcome.events) = some chunk := by
  rw [round.events, chunks_self round.nonempty, MitmProxy.firstChanged]
  apply List.find?_cons_of_pos
  rw [bne_iff_ne, forgeOf, round.forges]
  exact fun same => round.tell (congrArg Sha256.hexdigest same.symm)

/-- The digests tell, whatever event and group are logged. -/
theorem Forges.digestsTell (round : Forges spec outcome event groupId transform chunk forged) :
    DigestsTell (spec, outcome) := by
  intro _ _ other others changed found
  have same : forgeOf transform = forgeOf other :=
    others.forge_eq round.logs.mutate fun data runDir =>
      ⟨_, logMutation_eq _ _ _ round.logs.only data runDir⟩
  rw [← same, round.firstChanged] at found
  cases found
  rw [← same, forgeOf, round.forges]
  exact round.tell

/-- The round returns in a directory without its log. -/
theorem Forges.finishes (round : Forges spec outcome event groupId transform chunk forged)
    (evidence : Evidence) : Finishes evidence .empty (spec, outcome) := by
  have missing : WholeLog ((.empty : Directory).get? (proxyLogOf spec)) := by
    intro file present
    cases present
  apply finishes_of_logs round.logs (.inr ⟨_, round.events⟩) missing
  right
  exact changesSome_of_firstChanged round.firstChanged

/-- A round without a proxy has no digests. -/
theorem digestsTell_of_direct (direct : spec.proxyUpstreamPort = none) :
    DigestsTell (spec, outcome) := by
  intro _ _ _ logs
  have upstream := logs.upstream
  rw [direct] at upstream
  cases upstream

/-- The rounds of a plan are its scenarios with their outcomes. -/
theorem mem_zip_map {specs : List ScenarioSpec} {outcomes : ScenarioSpec → Outcome}
    {round : ScenarioSpec × Outcome} (member : round ∈ specs.zip (specs.map outcomes)) :
    ∃ spec ∈ specs, round = (spec, outcomes spec) := by
  have zipped : specs.zip (specs.map outcomes) = specs.map fun spec => (spec, outcomes spec) := by
    nth_rewrite 1 [← List.map_id specs]
    exact List.zip_map'
  rw [zipped] at member
  obtain ⟨spec, inside, same⟩ := List.mem_map.mp member
  exact ⟨spec, inside, same.symm⟩

section Bindings

/-- The proxy complements a range of zeros in a chunk of this form. -/
structure SampleChunk where
  front : Bytes
  width : Nat
  back : Nat

def SampleChunk.bytes (sample : SampleChunk) (byte : UInt8) : Bytes :=
  sample.front ++ (List.replicate sample.width byte ++ List.replicate sample.back 0)

theorem SampleChunk.complement (sample : SampleChunk) :
    Codec.complement (sample.bytes 0) (sample.front.length + 0) sample.width =
      sample.bytes 0xFF := by
  have inside : 0 + sample.width ≤ (List.replicate sample.width (0 : UInt8)).length := by
    rw [List.length_replicate, Nat.zero_add]
  rw [bytes, Codec.complement_append, Codec.complement_append_of_le inside,
    Codec.complement_replicate]
  rfl

/-- This is the record in front of the value of `hybridHello`. -/
def helloFront (group : Nat) : Bytes :=
  [22, 3, 1, 4, 249, 1, 0, 4, 245, 3, 3] ++ List.replicate 33 0 ++ [0, 2, 19, 1, 1, 0, 4, 202] ++
    [0, 51, 4, 198, 4, 196] ++ bigEndian 2 group ++ [4, 192]

def sampleChunk (impl : String) : SampleChunk :=
  match impl with
  | "openssl" => ⟨helloFront 0x11EC, 1184, 32⟩
  | "boringssl" => ⟨helloFront 0x6399 ++ List.replicate 32 0, 1184, 0⟩
  | _ => ⟨bigEndian 4 1200 ++ [4, SshKexinit.sshMsgKexEcdhInit] ++ bigEndian 4 1190, 1158, 36⟩

theorem sampleChunk_ne : ∀ impl ∈ implementations, (sampleChunk impl).bytes 0 ≠ [] := by
  decide +kernel

theorem sampleChunk_tell : ∀ impl ∈ implementations,
    Sha256.hexdigest ((sampleChunk impl).bytes 0) ≠
      Sha256.hexdigest ((sampleChunk impl).bytes 0xFF) := by
  simp only [Sha256.hexdigest_eq]
  decide +kernel

theorem sampleHello_forged {group pqOffset : Nat} {sample : SampleChunk} (known : group < 65536)
    (component : TlsClientHello.pqComponents.lookup group = some (pqOffset, 1184))
    (fits : pqOffset + 1184 ≤ 1216) (front : sample.front.length + 0 = 62 + pqOffset)
    (width : sample.width = 1184)
    (same : sample.bytes 0 = (TlsClientHello.hybridHello group known (List.replicate 1216 0)
      List.length_replicate).encode) :
    TlsClientHello.forgePqComponent (sample.bytes 0) group = .ok (sample.bytes 0xFF) := by
  rw [← sample.complement, front, width, same]
  exact TlsClientHello.forgePqComponent_hybridHello known List.length_replicate component fits

theorem sampleOpenssl_forged : TlsClientHello.forgePqComponent ((sampleChunk "openssl").bytes 0)
    0x11EC = .ok ((sampleChunk "openssl").bytes 0xFF) := by
  have same : (sampleChunk "openssl").bytes 0 = (TlsClientHello.hybridHello 0x11EC (by decide)
      (List.replicate 1216 0) List.length_replicate).encode := by decide +kernel
  have component : TlsClientHello.pqComponents.lookup 0x11EC = some (0, 1184) := rfl
  exact sampleHello_forged _ component (by decide) (by decide +kernel) (by decide +kernel) same

theorem sampleBoringssl_forged :
    TlsClientHello.forgePqComponent ((sampleChunk "boringssl").bytes 0) 0x6399 =
      .ok ((sampleChunk "boringssl").bytes 0xFF) := by
  have same : (sampleChunk "boringssl").bytes 0 = (TlsClientHello.hybridHello 0x6399 (by decide)
      (List.replicate 1216 0) List.length_replicate).encode := by decide +kernel
  have component : TlsClientHello.pqComponents.lookup 0x6399 = some (32, 1184) := rfl
  exact sampleHello_forged _ component (by decide) (by decide +kernel) (by decide +kernel) same

theorem sampleOpenssh_forged : SshKexinit.forgeSshPqComponent ((sampleChunk "openssh").bytes 0) =
    .ok ((sampleChunk "openssh").bytes 0xFF) := by
  have same : (sampleChunk "openssh").bytes 0 = SshKexinit.ecdhInitPacket := by decide +kernel
  have front : (sampleChunk "openssh").front.length + 0 = 10 := by decide +kernel
  have width : (sampleChunk "openssh").width = 1158 := by decide +kernel
  rw [← SampleChunk.complement, front, width, same]
  exact SshKexinit.forgeSshPqComponent_ecdhInitPacket

theorem sampleChunk_forged {paths : Dict String String} {values : FaultBinding.Binding}
    (chosen : FaultBinding.binding impl paths = .ok values) :
    values.transform ((sampleChunk impl).bytes 0) = .ok ((sampleChunk impl).bytes 0xFF) := by
  unfold FaultBinding.binding at chosen
  split at chosen
  · simp only [bind_eq_ok, Except.ok.injEq] at chosen
    obtain ⟨_, _, _, _, rfl⟩ := chosen
    exact sampleOpenssl_forged
  · simp only [bind_eq_ok, Except.ok.injEq] at chosen
    obtain ⟨_, _, _, _, _, _, rfl⟩ := chosen
    exact sampleBoringssl_forged
  · simp only [bind_eq_ok, Except.ok.injEq] at chosen
    obtain ⟨_, _, _, _, _, _, _, _, rfl⟩ := chosen
    exact sampleOpenssh_forged
  · cases chosen

def sampleSmoke : List ScenarioSpec := (VerifiedRun.smoke.specs .empty).toOption.get rfl

theorem sampleSmoke_planned : VerifiedRun.smoke.specs .empty = .ok sampleSmoke := rfl

/-- The client of a binding sends the chunk that the proxy changes. -/
def faultOutcome (spec : ScenarioSpec) : Outcome :=
  sampleOutcome (if spec.faultType = "binding" then
    [.recv .client ((sampleChunk spec.impl).bytes 0)] else [])

/-- Each round returns, and the digests tell. -/
theorem faultOutcome_finishes (member : spec ∈ sampleSmoke) :
    Finishes emptyEvidence .empty (spec, faultOutcome spec) ∧
      DigestsTell (spec, faultOutcome spec) := by
  obtain ⟨impl, known, _, _, _, list | bound⟩ := mem_smokeSpecs sampleSmoke_planned member
  · obtain ⟨flag, _, list⟩ := bind_eq_ok.mp list
    obtain ⟨values, _, same⟩ := bind_eq_ok.mp list
    cases same
    exact ⟨finishes_of_direct rfl rfl known (.inl rfl), digestsTell_of_direct rfl⟩
  · obtain ⟨values, chosen, same⟩ := bind_eq_ok.mp bound
    have logs := bindingSpec_logs chosen bound
    cases same
    have round : Forges _ (sampleOutcome [.recv .client ((sampleChunk impl).bytes 0)]) _ _ _ _ _ :=
      ⟨logs, rfl, sampleChunk_ne impl known, sampleChunk_forged chosen, sampleChunk_tell impl known⟩
    exact ⟨round.finishes emptyEvidence, round.digestsTell⟩

theorem sampleSmoke_finished : ∃ batch,
    Transition.run (Batch.step emptyEvidence) (.initial sampleSmoke .empty)
      (sampleSmoke.map faultOutcome) = some batch ∧ batch.Finished :=
  exists_finished_of_plan sampleSmoke_planned fun _ member => (faultOutcome_finishes member).1

/-- The tools that see nothing leave the records of the group lists unverified. -/
theorem verified_groupList_eq_zero {run : VerifiedRun} {environ : Dict String String}
    {specs : List ScenarioSpec} {start : Directory} {outcomes : List Outcome} {batch : Batch}
    (planned : run.specs environ = .ok specs) (fresh : start.glob "*.json" = [])
    (reached : Transition.run (Batch.step emptyEvidence) (.initial specs start) outcomes =
      some batch) (finished : batch.Finished) (impl : String) :
    (faultTotals faultKey (impl, "group-list") batch.records).verified = 0 := by
  obtain ⟨done, loaded, complete, _⟩ := loaded_of_finished planned fresh reached finished
  apply List.countP_eq_zero.mpr
  intro record member
  obtain ⟨round, _, _, kept⟩ := complete.round_of_mem member
  obtain ⟨value, checked, marked, _⟩ := verifyRecord_eq_ok.mp kept.kept.again
  rw [Bool.and_eq_true, decide_eq_true_eq]
  rintro ⟨same, confirmed⟩
  have unverified := unverified_groupList (congrArg Prod.snd same) checked
  rw [marked, unverified] at confirmed
  cases confirmed

/-- All bindings are verified but no group list is, so the minimum is not met. -/
theorem finished_meetsMinimum_sample : ∃ batch counts,
    Transition.run (Batch.step emptyEvidence) (.initial sampleSmoke .empty)
      (sampleSmoke.map faultOutcome) = some batch ∧
    aggregate batch.outDir = .ok counts ∧ meetsMinimum counts 1 = false ∧
    ∀ impl ∈ implementations, (faultTotals faultKey (impl, "binding") batch.records).verified = 1 := by
  obtain ⟨batch, reached, finished⟩ := sampleSmoke_finished
  obtain ⟨counts, counted, _, _, minimum, bindings⟩ := finished_meetsMinimum sampleSmoke_planned rfl
    (by decide) rfl reached finished
  refine ⟨batch, counts, reached, counted, ?_, bindings (fun _ _ => rfl) ?_⟩
  · apply Bool.eq_false_iff.mpr
    intro met
    have enough := (minimum 1).mp met ("openssl", "group-list") (by decide)
    rw [verified_groupList_eq_zero sampleSmoke_planned rfl reached finished] at enough
    omega
  · intro round member
    obtain ⟨spec, inside, rfl⟩ := mem_zip_map member
    exact (faultOutcome_finishes inside).2

end Bindings

section Conditions
variable {repetitions : Int} {environ : Dict String String} {specs : List ScenarioSpec}

/-- In this hello the other group stands in place of 0x11EC. -/
def sampleKyberHello : Bytes :=
  PcapHello.sampleHello.map fun byte =>
    if byte = 0x11 then 0x63 else if byte = 0xEC then 0x99 else byte

def strippedChunk (impl : String) : Bytes :=
  match impl with
  | "openssl" => PcapHello.sampleHello
  | "boringssl" => sampleKyberHello
  | _ => sampleKexinit

/-- The digests tell the chunk from its stripped form. -/
theorem strippedChunk_tell {values : Strip} (chosen : strip impl = .ok values) :
    ∃ forged, strippedChunk impl ≠ [] ∧ values.transform (strippedChunk impl) = .ok forged ∧
      Sha256.hexdigest (strippedChunk impl) ≠ Sha256.hexdigest forged := by
  have some (result : Result Bytes) (chunk : Bytes)
      (tell : (result.toOption.any fun forged =>
        Sha256.numberDigest chunk != Sha256.numberDigest forged) = true) :
      ∃ forged, result = .ok forged ∧ Sha256.hexdigest chunk ≠ Sha256.hexdigest forged := by
    obtain ⟨forged, found, apart⟩ := Option.any_eq_true _ _ |>.mp tell
    rw [← Sha256.hexdigest_eq, ← Sha256.hexdigest_eq, bne_iff_ne] at apart
    exact ⟨forged, toOption_eq_some.mp found, apart⟩
  unfold strip at chosen
  split at chosen
  · cases chosen
    obtain ⟨forged, returned, tell⟩ := some _ _ (by decide +kernel :
      ((TlsClientHello.stripHybrid PcapHello.sampleHello 0x11EC).toOption.any fun forged =>
        Sha256.numberDigest PcapHello.sampleHello != Sha256.numberDigest forged) = true)
    exact ⟨forged, by decide, returned, tell⟩
  · cases chosen
    obtain ⟨forged, returned, tell⟩ := some _ _ (by decide +kernel :
      ((TlsClientHello.stripHybrid sampleKyberHello 0x6399).toOption.any fun forged =>
        Sha256.numberDigest sampleKyberHello != Sha256.numberDigest forged) = true)
    exact ⟨forged, by decide, returned, tell⟩
  · cases chosen
    obtain ⟨forged, returned, tell⟩ := some _ _ (by decide +kernel :
      ((SshKexinit.stripKexinitAlgorithm sampleKexinit
        "sntrup761x25519-sha512@openssh.com").toOption.any fun forged =>
          Sha256.numberDigest sampleKexinit != Sha256.numberDigest forged) = true)
    exact ⟨forged, by decide, returned, tell⟩
  · cases chosen

/-- The client of a strip sends the chunk that the proxy changes. -/
def conditionOutcome (spec : ScenarioSpec) : Outcome :=
  sampleOutcome (if spec.condition = "onpath-strip" then
    [.recv .client (strippedChunk spec.impl)] else [])

theorem conditionOutcome_finishes (planned : v11Specs repetitions environ = .ok specs)
    (member : spec ∈ specs) :
    Finishes emptyEvidence .empty (spec, conditionOutcome spec) ∧
      DigestsTell (spec, conditionOutcome spec) := by
  obtain ⟨impl, known, _, _, _, ⟨condition, named, direct⟩ | stripped⟩ := mem_v11Specs planned member
  · obtain ⟨base, based, direct⟩ := bind_eq_ok.mp direct
    obtain ⟨advertised, _, same⟩ := bind_eq_ok.mp direct
    obtain ⟨port, _, based⟩ := bind_eq_ok.mp based
    obtain ⟨commands, _, conditioned⟩ := bind_eq_ok.mp based
    cases conditioned
    cases same
    have other : condition ≠ "onpath-strip" := by
      rintro rfl
      exact absurd named (by decide)
    exact ⟨finishes_of_direct rfl rfl known (.inr ⟨rfl, other⟩), digestsTell_of_direct rfl⟩
  · obtain ⟨base, based, made⟩ := bind_eq_ok.mp stripped
    obtain ⟨values, chosen, same⟩ := bind_eq_ok.mp made
    have logs := stripSpec_logs chosen stripped
    obtain ⟨rfl, _⟩ := conditionSpec_values based
    cases same
    obtain ⟨forged, nonempty, returned, tell⟩ := strippedChunk_tell chosen
    have round : Forges _ (sampleOutcome [.recv .client (strippedChunk base.impl)]) _ _ _ _ _ :=
      ⟨logs, rfl, nonempty, returned, tell⟩
    exact ⟨round.finishes emptyEvidence, round.digestsTell⟩

/-- Every plan of the conditions can finish. -/
theorem exists_finished_conditions (planned : v11Specs repetitions environ = .ok specs) :
    ∃ batch, Transition.run (Batch.step emptyEvidence) (.initial specs .empty)
      (specs.map conditionOutcome) = some batch ∧ batch.Finished := by
  have conditions : (VerifiedRun.v11 repetitions).specs environ = .ok specs := planned
  exact exists_finished_of_plan conditions fun _ member =>
    (conditionOutcome_finishes planned member).1

theorem sampleConditions_planned : v11Specs 1 .empty = .ok sampleConditions := rfl

/-- The direct condition and the condition on the path have one verified record each. -/
theorem finished_comparisonV11_sample : ∃ batch counts,
    Transition.run (Batch.step emptyEvidence) (.initial sampleConditions .empty)
      (sampleConditions.map conditionOutcome) = some batch ∧
    comparisonV11 batch.outDir = .ok counts ∧
    (conditionCounts conditionKey ("openssh", "ssh-order") batch.records).verified = 1 ∧
    (conditionCounts conditionKey ("openssh", "onpath-strip") batch.records).verified = 1 := by
  obtain ⟨batch, reached, finished⟩ := exists_finished_conditions sampleConditions_planned
  obtain ⟨counts, compared, _, values, strips⟩ := finished_comparisonV11 sampleConditions_planned
    (by decide) rfl reached finished
  refine ⟨batch, counts, reached, compared, (values _ (by decide)).2.2 (by decide), ?_⟩
  apply strips (fun _ _ => rfl) _ "openssh" (by decide)
  intro round member
  obtain ⟨spec, inside, rfl⟩ := mem_zip_map member
  exact (conditionOutcome_finishes sampleConditions_planned inside).2

end Conditions

end Sample

end FaultInject.Run
