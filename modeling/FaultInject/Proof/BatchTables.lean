import FaultInject.Proof.Tables

/-
This file shows the tables of a finished verified run. Their rows are the planned cells in the order
of their labels, and each cell counts all its repetitions.
-/

namespace FaultInject.Analyze
open Python Record V16

/-- This is the group of a record that a table shows. -/
def shownGroup (record : RunRecord) : Option String :=
  record.metrics.negotiatedGroup.filter (· ≠ "")

/-- This is the row of the records of a cell. Its groups are the different ones in order. -/
def faultRow (records : List RunRecord) (cell : Cell) : ComparisonRow where
  implementation := cell.1
  faultType := cell.2
  n := records.countP fun record => faultKey record = cell
  verified := records.countP fun record => faultKey record = cell && record.manipulationVerified
  success := records.countP fun record =>
    faultKey record = cell && record.metrics.handshakeResult == "success"
  failure := records.countP fun record =>
    faultKey record = cell && record.metrics.handshakeResult != "success"
  downgrade := records.countP fun record => faultKey record = cell && record.metrics.downgradeVisible
  groups := orDash (V17.joinSorted ","
    ((records.filter (faultKey · = cell)).filterMap shownGroup).dedup)

section Groups
variable {records loaded : List RunRecord} {cell : Cell}

/-- A record adds its shown group. -/
theorem FaultCount.groups_add (count : FaultCount) (record : RunRecord) :
    (count.add record).groups = match shownGroup record with
      | some group => count.groups.insert group
      | none => count.groups := by
  unfold FaultCount.add shownGroup
  dsimp only
  cases record.metrics.negotiatedGroup with
  | none => rfl
  | some group => by_cases empty : group = "" <;> simp [empty, Option.filter]

/-- The groups of a count are the shown groups of its records. -/
theorem mem_groups_foldl (records : List RunRecord) (count : FaultCount) (group : String) :
    group ∈ (records.foldl FaultCount.add count).groups ↔
      group ∈ count.groups ∨ group ∈ records.filterMap shownGroup := by
  induction records generalizing count with
  | nil => simp
  | cons record records ih =>
      rw [List.foldl_cons, ih, FaultCount.groups_add, List.filterMap_cons]
      cases shownGroup record with
      | none => rfl
      | some shown =>
          dsimp only
          rw [List.mem_insert_iff, List.mem_cons, or_assoc, or_left_comm]

theorem nodup_groups_foldl (records : List RunRecord) {count : FaultCount}
    (distinct : count.groups.Nodup) : (records.foldl FaultCount.add count).groups.Nodup := by
  induction records generalizing count with
  | nil => exact distinct
  | cons record records ih =>
      rw [List.foldl_cons]
      apply ih
      rw [FaultCount.groups_add]
      cases shownGroup record with
      | none => exact distinct
      | some shown => exact distinct.insert

/-- The order of the values does not change a sorted text. -/
theorem joinSorted_perm {separator : String} {first second : List String}
    (perm : first.Perm second) :
    V17.joinSorted separator first = V17.joinSorted separator second := by
  rw [V17.joinSorted, V17.joinSorted]
  apply congrArg separator.intercalate
  apply List.Perm.eq_of_pairwise (fun _ _ _ _ => le_antisymm) (List.pairwise_insertionSort _ _)
    (List.pairwise_insertionSort _ _)
  exact (List.perm_insertionSort _ _).trans (perm.trans (List.perm_insertionSort _ _).symm)

/-- The row of a count does not depend on the order of the records. -/
theorem comparisonRow_eq (perm : loaded.Perm records) (cell : Cell) :
    comparisonRow (cell, (loaded.filter (faultKey · = cell)).foldl FaultCount.add {}) =
      faultRow records cell := by
  have counter := Run.foldl_filter_counter FaultCount.add {} perm faultKey cell
  have n := counter FaultCount.n (fun _ => true) rfl fun _ _ => rfl
  have verified := counter FaultCount.verified _ rfl fun _ _ => rfl
  have success := counter FaultCount.success _ rfl fun _ _ => rfl
  have failure := counter FaultCount.failure _ rfl fun _ _ => rfl
  have downgrade := counter FaultCount.downgrade _ rfl fun _ _ => rfl
  simp only [Bool.and_true] at n
  have groups : ((loaded.filter (faultKey · = cell)).foldl FaultCount.add {}).groups.Perm
      ((records.filter (faultKey · = cell)).filterMap shownGroup).dedup := by
    rw [List.perm_ext_iff_of_nodup (nodup_groups_foldl _ List.nodup_nil) (List.nodup_dedup _)]
    intro group
    rw [mem_groups_foldl, List.mem_dedup, or_iff_right List.not_mem_nil]
    exact ((perm.filter _).filterMap _).mem_iff
  rw [comparisonRow, faultRow, ← n, ← verified, ← success, ← failure, ← downgrade,
    joinSorted_perm groups]

end Groups

end FaultInject.Analyze

namespace FaultInject.Run
open Python Record Analyze

/-- Each record that passes the first test passes the second one or fails it. -/
theorem countP_split (records : List RunRecord) (first second : RunRecord → Bool) :
    (records.countP fun record => first record && second record) +
      (records.countP fun record => first record && !second record) = records.countP first := by
  rw [List.countP_eq_countP_filter_add records first second, List.countP_filter, List.countP_filter]

def faultHeader : String :=
  "| implementation | fault_type | verified/n | success | failure | " ++
    "downgrade | negotiated group(s) |\n|---|---|---|---|---|---|---|"

def conditionHeader : String :=
  "| implementation | condition | verified/n | success | failure | " ++
    "HRR | downgrade flagged |\n|---|---|---|---|---|---|---|"

section Finished
variable {evidence : VerifyApplied.Evidence} {start : Directory} {environ : Dict String String}
  {run : VerifiedRun} {specs : List Harness.ScenarioSpec} {outcomes : List Harness.Outcome}
  {batch : Batch} {repetitions : Int}

/-- The table of a finished run with faults has one row for each implementation and fault in the
order of their labels. Each row counts all repetitions, and each of them is a success or a failure. -/
theorem finished_renderMarkdown (planned : run.specs environ = .ok specs)
    (faults : run.faultRounds = some repetitions) (positive : 1 ≤ repetitions)
    (fresh : start.glob "*.json" = [])
    (reached : Transition.run (Batch.step evidence) (.initial specs start) outcomes = some batch)
    (finished : batch.Finished) :
    renderMarkdown batch.outDir = .ok ("\n".intercalate ([faultHeader] ++
      (sortedCells Identity.batchCells).map fun cell => markdownRow (faultRow batch.records cell))) ∧
    ∀ cell ∈ Identity.batchCells, (faultRow batch.records cell).n = repetitions.toNat ∧
      (faultRow batch.records cell).success + (faultRow batch.records cell).failure =
        repetitions.toNat := by
  obtain ⟨done, loaded, complete, read, perm, counted⟩ :=
    finished_faults planned faults fresh reached finished
  have rows : sortedRows (Dict.tally faultKey {} FaultCount.add loaded .empty) =
      (sortedCells Identity.batchCells).map fun cell =>
        (cell, (loaded.filter (faultKey · = cell)).foldl FaultCount.add {}) := by
    obtain ⟨found, absent⟩ := rows_of_counted perm (by omega) counted
    exact sortedRows_eq (by decide) found absent
  constructor
  · rw [renderMarkdown, comparisonRows, comparison, countRecords_eq, read]
    show Except.ok ("\n".intercalate ([faultHeader] ++ ((sortedRows (Dict.tally faultKey {}
      FaultCount.add loaded .empty)).map comparisonRow).map markdownRow)) = _
    rw [rows, List.map_map, List.map_map]
    simp only [Function.comp_def, comparisonRow_eq perm]
  · intro cell known
    have all := counted.inside cell known
    exact ⟨all, (countP_split batch.records _ _).trans all⟩

/-- The table of finished conditions has one row for each planned condition in the order of their
labels. Each row counts all repetitions, and each of them is a success or a failure. -/
theorem finished_renderV11Markdown (planned : v11Specs repetitions environ = .ok specs)
    (positive : 1 ≤ repetitions) (fresh : start.glob "*.json" = [])
    (reached : Transition.run (Batch.step evidence) (.initial specs start) outcomes = some batch)
    (finished : batch.Finished) :
    renderV11Markdown batch.outDir = .ok ("\n".intercalate ([conditionHeader] ++
      (sortedCells Identity.v11Cells).map fun cell =>
        v11Row (cell, conditionCounts conditionKey cell batch.records))) ∧
    ∀ cell ∈ Identity.v11Cells,
      (conditionCounts conditionKey cell batch.records).n = repetitions.toNat ∧
      (conditionCounts conditionKey cell batch.records).success +
        (conditionCounts conditionKey cell batch.records).failure = repetitions.toNat := by
  obtain ⟨done, loaded, complete, read, perm, counted⟩ :=
    finished_conditions planned fresh reached finished
  have rows : sortedRows (Dict.tally conditionKey {} ConditionCount.add loaded .empty) =
      (sortedCells Identity.v11Cells).map fun cell =>
        (cell, conditionCounts conditionKey cell batch.records) := by
    obtain ⟨found, absent⟩ := rows_of_counted perm (by omega) counted
    refine sortedRows_eq (by decide) ?_ absent
    intro cell known
    rw [found cell known, foldl_conditionCounts conditionKey cell perm]
  constructor
  · rw [renderV11Markdown, comparisonV11, countRecords_eq, read]
    show Except.ok ("\n".intercalate ([conditionHeader] ++ (sortedRows (Dict.tally conditionKey {}
      ConditionCount.add loaded .empty)).map v11Row)) = _
    rw [rows, List.map_map]
    rfl
  · intro cell known
    have all := counted.inside cell known
    exact ⟨all, (countP_split batch.records _ _).trans all⟩

end Finished

/-- One round of each fault counts one record in each row. -/
theorem finished_renderMarkdown_sample : ∃ batch,
    Transition.run (Batch.step emptyEvidence) (.initial sampleSmoke .empty)
      (sampleSmoke.map faultOutcome) = some batch ∧
    renderMarkdown batch.outDir = .ok ("\n".intercalate ([faultHeader] ++
      (sortedCells Identity.batchCells).map fun cell =>
        markdownRow (faultRow batch.records cell))) ∧
    (faultRow batch.records ("openssl", "binding")).n = 1 := by
  obtain ⟨batch, reached, finished⟩ := sampleSmoke_finished
  obtain ⟨rendered, rows⟩ := finished_renderMarkdown sampleSmoke_planned rfl (by decide) rfl
    reached finished
  exact ⟨batch, reached, rendered, (rows ("openssl", "binding") (by decide)).1⟩

/-- One round of each condition counts one record in each row. -/
theorem finished_renderV11Markdown_sample : ∃ batch,
    Transition.run (Batch.step emptyEvidence) (.initial sampleConditions .empty)
      (sampleConditions.map conditionOutcome) = some batch ∧
    renderV11Markdown batch.outDir = .ok ("\n".intercalate ([conditionHeader] ++
      (sortedCells Identity.v11Cells).map fun cell =>
        v11Row (cell, conditionCounts conditionKey cell batch.records))) := by
  obtain ⟨batch, reached, finished⟩ := exists_finished_conditions sampleConditions_planned
  obtain ⟨rendered, _⟩ := finished_renderV11Markdown sampleConditions_planned (by decide) rfl reached
    finished
  exact ⟨batch, reached, rendered⟩

end FaultInject.Run
