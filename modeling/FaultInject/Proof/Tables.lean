import FaultInject.Proof.BatchReports
import FaultInject.Proof.Finished
import FaultInject.Proof.SortedRows

/-
This file shows the table of a finished matrix run. Its rows are the planned cells in the order of
their labels, and its last line is the verdict for ten repetitions.
-/

namespace FaultInject.Analyze
open Python Record V16

/-- These are the labels of a cell in the provenance. -/
def labels (cell : Cell) : Scalar × Scalar := (.str cell.1, .str cell.2)

theorem labels_injective : Function.Injective labels := by
  intro first second same
  rw [labels, labels, Prod.mk.injEq, Scalar.str.injEq, Scalar.str.injEq] at same
  exact Prod.ext same.1 same.2

/-- This is the order of the rows with two labels. -/
def CellLe (first second : Cell) : Prop :=
  textsLe [first.1, first.2] [second.1, second.2] = true

instance : DecidableRel CellLe := fun _ _ => instDecidableEqBool _ _

instance : Std.Total CellLe :=
  inferInstanceAs (Std.Total (KeyLe fun cell : Cell => [cell.1, cell.2]))

instance : IsTrans Cell CellLe :=
  inferInstanceAs (IsTrans Cell (KeyLe fun cell : Cell => [cell.1, cell.2]))

/-- Two cells with the same place are the same. -/
theorem CellLe.antisymm {first second : Cell} (forwards : CellLe first second)
    (backwards : CellLe second first) : first = second := by
  have same := le_antisymm (textsLe_iff.mp forwards) (textsLe_iff.mp backwards)
  rw [List.cons.injEq, List.cons.injEq] at same
  exact Prod.ext same.1 same.2.1

/-- These are the cells in the order of the tables. -/
def sortedCells (cells : List Cell) : List Cell := cells.insertionSort CellLe

section Rows
variable {C : Type} {counts : Dict (Scalar × Scalar) C} {table : Dict Cell C} {cells : List Cell}
  {value : Cell → C}

/-- The rows of a table of cells are its cells in order. -/
theorem sortedRows_eq (distinct : cells.Nodup)
    (found : ∀ cell ∈ cells, table.get? cell = some (value cell))
    (absent : ∀ cell, cell ∉ cells → table.get? cell = none) :
    sortedRows table = (sortedCells cells).map fun cell => (cell, value cell) := by
  have injective : Function.Injective fun cell : Cell => [cell.1, cell.2] := by
    intro first second same
    rw [List.cons.injEq, List.cons.injEq] at same
    exact Prod.ext same.1 same.2.1
  exact sortedItems_eq injective distinct (Dict.rows_perm distinct found absent)

/-- The rows of a report whose labels are texts. -/
theorem textLabels_perm (distinct : cells.Nodup)
    (found : ∀ cell ∈ cells, counts.get? (labels cell) = some (value cell))
    (absent : ∀ key, key ∉ cells.map labels → counts.get? key = none) :
    ∃ rows, counts.entries.mapM textLabels = .ok rows ∧
      rows.Perm (cells.map fun cell => (cell, value cell)) := by
  have entries := Dict.entries_perm (distinct.map labels_injective) found absent
  have each : List.Forall₂ (fun entry row => textLabels entry = .ok row)
      (cells.map fun cell => (labels cell, value cell))
      (cells.map fun cell => (cell, value cell)) := by
    rw [List.forall₂_map_left_iff, List.forall₂_map_right_iff, List.forall₂_same]
    exact fun _ _ => rfl
  obtain ⟨rows, labelled, perm⟩ := List.perm_comp_forall₂ entries each
  exact ⟨rows, mapM_eq_ok.mpr labelled, perm⟩

/-- The rows of a report are its cells in order. -/
theorem labelledRows_eq (distinct : cells.Nodup)
    (found : ∀ cell ∈ cells, counts.get? (labels cell) = some (value cell))
    (absent : ∀ key, key ∉ cells.map labels → counts.get? key = none) :
    labelledRows counts =
      .ok ((sortedCells cells).map fun cell => (cell, value cell)) := by
  obtain ⟨rows, labelled, perm⟩ := textLabels_perm distinct found absent
  rw [labelledRows, labelled, ok_bind]
  apply congrArg
  exact Dict.sorted_rows distinct (fun _ _ _ _ => CellLe.antisymm) perm

end Rows

section Counts
variable (runDir : Directory)

/-- The order of two records does not change a count. -/
theorem Count.add_right_comm (count : Count) (first second : RunRecord) :
    (count.add runDir first).add runDir second = (count.add runDir second).add runDir first := by
  simp only [Count.add, Nat.add_right_comm, Finset.insert_comm]

/-- This is the count of a cell over some records. -/
def cellCount (records : List RunRecord) (cell : Cell) : Count :=
  (cellRecords cell records).foldl (Count.add runDir) {}

theorem cellCount_perm {loaded records : List RunRecord} (perm : loaded.Perm records) (cell : Cell) :
    cellCount runDir loaded cell = cellCount runDir records cell :=
  (perm.filter _).foldl_eq' (fun first _ second _ count => Count.add_right_comm runDir count first second) {}

end Counts

end FaultInject.Analyze

namespace FaultInject.Matrix
open Python Record V12 Analyze

section Settings
variable {context : Context} {settings versions : List String} {groups : String}
  {runDir : Directory} {events : List Event} {state : State}

/-- The comparison of a matrix has one row for each planned cell and no other. -/
theorem comparison_rows (runDir : Directory) {loaded records : List RunRecord} {cells : List Cell} {repetitions : Int}
    (positive : 1 ≤ repetitions) (perm : loaded.Perm records)
    (complete : ∀ record ∈ records, Complete record ∧ record.faultType = "server-setting")
    (counted : ∀ cell, ((cellRecords cell records).map RunRecord.repetition).Perm
      (if cell ∈ cells then repetitionRange repetitions.toNat else [])) :
    (∀ cell ∈ cells, (Dict.tally keyOf {} (Count.add runDir) (Analyze.counted loaded)
      Dict.empty).get? (labels cell) = some (cellCount runDir records cell)) ∧
    ∀ key, key ∉ cells.map labels → (Dict.tally keyOf {} (Count.add runDir)
      (Analyze.counted loaded) Dict.empty).get? key = none := by
  have labelled : ∀ record ∈ loaded, record.faultType = "server-setting" → Labelled record :=
    fun record member _ => (complete record (perm.mem_iff.mp member)).1.labelled
  constructor
  · intro cell known
    rw [labels, get?_comparison runDir cell labelled, if_neg]
    · rw [← cellCount_perm runDir perm]
      rfl
    · intro none
      have width := (counted cell).length_eq
      have same : (cellRecords cell loaded).Perm (cellRecords cell records) := perm.filter _
      rw [if_pos known, length_repetitionRange, List.length_map, ← same.length_eq, none,
        List.length_nil] at width
      omega
  · intro key other
    rw [Dict.get?_tally_empty, if_pos]
    rw [List.filter_eq_nil_iff]
    intro record member same
    rw [Analyze.counted, List.mem_filter] at member
    obtain ⟨⟨version, setting, _, hasVersion, hasSetting⟩, fault⟩ :=
      complete record (perm.mem_iff.mp member.1)
    have named : keyOf record = labels (version, setting) :=
      keyOf_eq (recordKey_eq_cell.mpr ⟨hasVersion, hasSetting⟩)
    rw [decide_eq_true_eq, named] at same
    have own : record ∈ cellRecords (version, setting) records := by
      rw [cellRecords, List.mem_filter]
      refine ⟨perm.mem_iff.mp member.1, ?_⟩
      rw [ofCell, Bool.and_eq_true, Bool.and_eq_true, hasText_eq_true, hasText_eq_true]
      exact ⟨⟨member.2, hasVersion⟩, hasSetting⟩
    have present := (counted (version, setting)).mem_iff.mp (List.mem_map_of_mem own)
    split at present
    · rename_i known
      rw [← same] at other
      exact other (List.mem_map_of_mem known)
    · cases present

/-- A planned cell holds for ten repetitions exactly when ten were run and its records support it. -/
theorem cellHolds_ten_iff {loaded records : List RunRecord} {cells : List Cell} {repetitions : Int}
    (positive : 1 ≤ repetitions) (perm : loaded.Perm records)
    (complete : ∀ record ∈ records, Complete record ∧ record.faultType = "server-setting")
    {cell : Cell} {expected : Bool × String}
    (counted : ((cellRecords cell records).map RunRecord.repetition).Perm
      (if cell ∈ cells then repetitionRange repetitions.toNat else [])) :
    CellHolds runDir 10 loaded cell expected ↔
      repetitions = 10 ∧ cell ∈ cells ∧ ∀ record ∈ records,
        V12.splitCondition record.condition = .ok cell → RecordHolds runDir expected record := by
  by_cases ten : repetitions = 10
  · subst ten
    rw [eq_self_iff_true, true_and]
    exact cellHolds_iff positive perm complete counted
  · apply iff_of_false
    · intro holds
      have same : (cellRecords cell loaded).Perm (cellRecords cell records) := perm.filter _
      have width := (holds.once.symm.trans ((same.map RunRecord.repetition).trans counted)).length_eq
      split at width
      · rw [length_repetitionRange, length_repetitionRange] at width
        omega
      · rw [length_repetitionRange, List.length_nil] at width
        omega
    · exact fun both => ten both.1

/-- The count of a planned cell has all repetitions. -/
theorem cellCount_of_counted (runDir : Directory) {records : List RunRecord} {cell : Cell}
    {repetitions : Nat}
    (counted : ((cellRecords cell records).map RunRecord.repetition).Perm
      (repetitionRange repetitions)) :
    (cellCount runDir records cell).n = repetitions ∧
      (cellCount runDir records cell).repetitions = repetitionSet repetitions := by
  constructor
  · have width := counted.length_eq
    rw [List.length_map, length_repetitionRange] at width
    rw [cellCount, n_foldl, width]
    exact Nat.zero_add _
  · rw [cellCount, repetitions_foldl, repetitionSet]
    exact (Finset.union_empty _).trans (List.toFinset_eq_of_perm _ _ counted)

/-- The table of a finished matrix has the planned cells in order, each with all its repetitions.
Its verdict is the good one exactly when ten repetitions were run, every expected cell was planned
and all its records support the expectation. -/
theorem finished_renderV12
    (distinct : (MatrixRun.v12 settings versions groups).Distinct)
    (reached : Transition.run (step ((MatrixRun.v12 settings versions groups).plan context))
      (.initial runDir) events = some state)
    (finished : Finished state) (positive : 1 ≤ context.repetitions)
    (vulnerable fixed : List String) (verdictLabel : String) (words : String × String) :
    ∃ verdict, renderV12Markdown state.runDir (expectedMatrix vulnerable fixed) verdictLabel words =
        .ok ("\n".intercalate (v12Header ++ (sortedCells (versions ×ˢ settings)).map (fun cell =>
          v12Row (cell, cellCount state.runDir state.records cell)) ++
            ["", verdictLine verdictLabel words verdict])) ∧
      (∀ cell ∈ versions ×ˢ settings,
        (cellCount state.runDir state.records cell).n = context.repetitions.toNat ∧
        (cellCount state.runDir state.records cell).repetitions =
          repetitionSet context.repetitions.toNat) ∧
      (verdict.1 = true ↔ ∀ entry ∈ (expectedMatrix vulnerable fixed).entries,
        context.repetitions = 10 ∧ entry.1 ∈ versions ×ˢ settings ∧ ∀ record ∈ state.records,
          V12.splitCondition record.condition = .ok entry.1 →
            RecordHolds state.runDir entry.2 record) := by
  obtain ⟨loaded, read, perm, complete, counted⟩ := finished_settings distinct reached finished
  have labelled : ∀ record ∈ loaded, record.faultType = "server-setting" → Labelled record :=
    fun record member _ => (complete record (perm.mem_iff.mp member)).1.labelled
  obtain ⟨found, absent⟩ := comparison_rows state.runDir positive perm complete counted
  have rows := labelledRows_eq (distinct.1.product distinct.2) found absent
  refine ⟨cveVerdict (Dict.tally keyOf {} (Count.add state.runDir) (Analyze.counted loaded) .empty) 10
    (expectedMatrix vulnerable fixed), ?_, ?_, ?_⟩
  · rw [renderV12Markdown, comparisonV12_eq _ read labelled, ok_bind, rows, ok_bind, List.map_map]
    rfl
  · intro cell known
    have own := counted cell
    rw [if_pos known] at own
    exact cellCount_of_counted state.runDir own
  · rw [cveVerdict_eq, List.isEmpty_iff, List.flatMap_eq_nil_iff]
    refine forall₂_congr fun entry member => ?_
    rw [cellFailures_eq_nil labelled (by decide) entry.1
      (expectedMatrix_expectsKnown vulnerable fixed entry member)]
    exact cellHolds_ten_iff positive perm complete (counted entry.1)

end Settings

/-- Two repetitions are not enough for the good verdict. -/
theorem finished_renderV12_sample : ∃ state verdict,
    Transition.run (step (sampleRuns.plan sampleContext)) (.initial .empty) sampleRounds =
      some state ∧
    renderV12Markdown state.runDir (expectedMatrix [] ["3.5.6"]) "verdict" ("good", "bad") =
      .ok ("\n".intercalate (v12Header ++ [v12Row (("3.5.6", "S1"),
        cellCount state.runDir state.records ("3.5.6", "S1"))] ++
          ["", verdictLine "verdict" ("good", "bad") verdict])) ∧ verdict.1 = false := by
  obtain ⟨state, reached, finished⟩ := sampleRuns_finished
  obtain ⟨verdict, rendered, _, good⟩ := finished_renderV12 sampleRuns_distinct reached finished
    (by decide) [] ["3.5.6"] "verdict" ("good", "bad")
  refine ⟨state, verdict, reached, rendered, Bool.eq_false_iff.mpr fun accepted => ?_⟩
  have ten := (good.mp accepted (("3.5.6", "S2"), true, "X25519MLKEM768") (by decide)).1
  exact absurd ten (by decide)

end FaultInject.Matrix
