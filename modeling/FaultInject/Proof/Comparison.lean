import FaultInject.Construction.Analyze
import FaultInject.Python.Tally

namespace FaultInject.Analyze
open Python Record

/-- These are the records of the run directory in the order of their paths. -/
def loadRecords (runDir : Directory) : Result (List RunRecord) :=
  runDir.jsonPaths.mapM runDir.fromJson

/-- The provenance of the record carries both labels. -/
def Labelled (record : RunRecord) : Prop :=
  ∃ version setting : Scalar,
    record.provenance.get? "server_version" = some (.scalar version) ∧
    record.provenance.get? "server_setting" = some (.scalar setting)

/-- The provenance maps the key to the text. -/
def hasText (values : Dict String Value) (key text : String) : Bool :=
  match values.get? key with
  | some value => value.isText text
  | none => false

/-- The record is a server-setting record of the cell. -/
def ofCell (cell : Cell) (record : RunRecord) : Bool :=
  record.faultType == "server-setting" && hasText record.provenance "server_version" cell.1 &&
    hasText record.provenance "server_setting" cell.2

theorem hasText_eq_true {values : Dict String Value} {key text : String} :
    hasText values key text = true ↔ values.get? key = some (.str text) := by
  unfold hasText
  cases values.get? key with
  | none => simp
  | some value => simp [Value.isText_eq_true]

/-- A labelled record has a key. -/
theorem Labelled.recordKey {record : RunRecord} (labelled : Labelled record) :
    ∃ key, recordKey record = .ok key := by
  obtain ⟨version, setting, hasVersion, hasSetting⟩ := labelled
  rw [Analyze.recordKey, Dict.getItem_eq_ok.mpr hasVersion, ok_bind,
    Dict.getItem_eq_ok.mpr hasSetting, ok_bind]
  cases version <;> cases setting <;> exact ⟨_, rfl⟩

/-- A record has the key of a cell exactly when it carries the labels of the cell. -/
theorem recordKey_eq_cell {record : RunRecord} {version setting : String} :
    recordKey record = .ok (.str version, .str setting) ↔
      record.provenance.get? "server_version" = some (.str version) ∧
      record.provenance.get? "server_setting" = some (.str setting) := by
  simp only [recordKey, bind_eq_ok, Dict.getItem_eq_ok, Except.ok.injEq, Prod.mk.injEq]
  constructor
  · rintro ⟨first, hasVersion, second, hasSetting, _, firstKey, _, secondKey, rfl, rfl⟩
    rw [Value.toKey_eq_str] at firstKey secondKey
    subst firstKey secondKey
    exact ⟨hasVersion, hasSetting⟩
  · rintro ⟨hasVersion, hasSetting⟩
    exact ⟨_, hasVersion, _, hasSetting, _, rfl, _, rfl, rfl, rfl⟩

/-- This is the key of a labelled record. -/
def keyOf (record : RunRecord) : Scalar × Scalar :=
  (recordKey record).toOption.getD (.null, .null)

theorem keyOf_eq {record : RunRecord} {key : Scalar × Scalar}
    (returned : recordKey record = .ok key) : keyOf record = key := by
  rw [keyOf, returned]
  rfl

/-- These are the records that the comparison counts. -/
def counted (records : List RunRecord) : List RunRecord :=
  records.filter fun record => record.faultType == "server-setting"

section Comparison
variable (runDir : Directory)

/-- The loop over the records is a tally by their keys. -/
theorem comparisonStep_foldlM {records : List RunRecord}
    (labelled : ∀ record ∈ records, record.faultType = "server-setting" → Labelled record)
    (out : Counts) :
    records.foldlM (comparisonStep runDir) out =
      .ok (Dict.tally keyOf {} (Count.add runDir) (counted records) out) := by
  induction records generalizing out with
  | nil => rfl
  | cons record records ih =>
      have tail := ih fun other member => labelled other (List.mem_cons_of_mem record member)
      rw [List.foldlM_cons, comparisonStep, counted, List.filter_cons]
      by_cases setting : record.faultType = "server-setting"
      · obtain ⟨key, returned⟩ := (labelled record List.mem_cons_self setting).recordKey
        rw [if_neg (not_not.mpr setting), returned, ok_bind, ok_bind, tail,
          if_pos (beq_iff_eq.mpr setting), ← counted, Dict.tally, Dict.tally, List.foldl_cons,
          keyOf_eq returned]
      · rw [if_pos setting, ok_bind, tail, if_neg (mt beq_iff_eq.mp setting), counted]

/-- Reading inside the loop is reading before the loop. -/
theorem foldlM_of_mapM {A B S : Type} {read : A → Result B} {step : S → B → Result S}
    {values : List A} {results : List B} (loaded : values.mapM read = .ok results) (state : S) :
    values.foldlM (fun state value => read value >>= step state) state =
      results.foldlM step state := by
  induction values generalizing results state with
  | nil =>
      cases loaded
      rfl
  | cons value values ih =>
      rw [List.mapM_cons] at loaded
      obtain ⟨first, head, loaded⟩ := bind_eq_ok.mp loaded
      obtain ⟨rest, tail, same⟩ := bind_eq_ok.mp loaded
      cases same
      rw [List.foldlM_cons, List.foldlM_cons, head, ok_bind]
      exact congrArg _ (funext fun next => ih tail next)

/-- The comparison of a run directory is the tally of its server-setting records. -/
theorem comparisonV12_eq {records : List RunRecord} (loaded : loadRecords runDir = .ok records)
    (labelled : ∀ record ∈ records, record.faultType = "server-setting" → Labelled record) :
    comparisonV12 runDir =
      .ok (Dict.tally keyOf {} (Count.add runDir) (counted records) .empty) := by
  rw [← comparisonStep_foldlM runDir labelled]
  exact foldlM_of_mapM loaded _

end Comparison

/-- These are the records of a cell. -/
def cellRecords (cell : Cell) (records : List RunRecord) : List RunRecord :=
  records.filter (ofCell cell)

/-- The counted records with the key of a cell are the records of the cell. -/
theorem filter_counted (cell : Cell) {records : List RunRecord}
    (labelled : ∀ record ∈ records, record.faultType = "server-setting" → Labelled record) :
    (counted records).filter (fun record => keyOf record = (.str cell.1, .str cell.2)) =
      cellRecords cell records := by
  rw [counted, List.filter_filter, cellRecords]
  apply List.filter_congr
  intro record member
  rw [Bool.eq_iff_iff, Bool.and_eq_true, decide_eq_true_eq, beq_iff_eq, ofCell, Bool.and_eq_true,
    Bool.and_eq_true, beq_iff_eq, hasText_eq_true, hasText_eq_true, and_assoc,
    ← recordKey_eq_cell, and_comm]
  apply and_congr_right
  intro setting
  obtain ⟨key, returned⟩ := (labelled record member setting).recordKey
  rw [keyOf_eq returned, returned, Except.ok.injEq]

/-- The comparison counts the records of a cell, or has no entry when there are none. -/
theorem get?_comparison (runDir : Directory) (cell : Cell) {records : List RunRecord}
    (labelled : ∀ record ∈ records, record.faultType = "server-setting" → Labelled record) :
    (Dict.tally keyOf {} (Count.add runDir) (counted records) Dict.empty).get?
        (.str cell.1, .str cell.2) =
      if cellRecords cell records = [] then none
      else some ((cellRecords cell records).foldl (Count.add runDir) {}) := by
  rw [Dict.get?_tally_empty, filter_counted cell labelled]

section Counters
variable (runDir : Directory) (records : List RunRecord)

/-- A counter reaches the number of records exactly when all records pass its test. -/
theorem counter_eq_length (field : Count → Nat) {test : RunRecord → Bool}
    (zero : field {} = 0)
    (grows : ∀ count record, field (count.add runDir record) = field count + (test record).toNat) :
    field (records.foldl (Count.add runDir) {}) = records.length ↔
      ∀ record ∈ records, test record = true := by
  rw [foldl_counter field test grows, zero, Nat.zero_add, List.countP_eq_length]

theorem n_foldl (count : Count) :
    (records.foldl (Count.add runDir) count).n = count.n + records.length := by
  rw [foldl_counter Count.n (fun _ => true) fun _ _ => rfl, List.countP_true]

theorem repetitions_foldl (count : Count) :
    (records.foldl (Count.add runDir) count).repetitions =
      (records.map RunRecord.repetition).toFinset ∪ count.repetitions := by
  induction records generalizing count with
  | nil => simp
  | cons record records ih =>
      rw [List.foldl_cons, ih, List.map_cons, List.toFinset_cons]
      simp [Count.add, Finset.insert_union, Finset.union_insert]

end Counters

end FaultInject.Analyze
