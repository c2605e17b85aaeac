import FaultInject.Construction.Reports
import FaultInject.Proof.Verdict
import FaultInject.Python.Encoding
import FaultInject.Python.Tally

namespace FaultInject.Analyze
open Python Record Aggregate

/-- A loop that reads before it counts is a fold over all read values. -/
theorem foldlM_read {A B S : Type} {read : A → Result B} (change : S → B → S) (values : List A)
    (state : S) :
    values.foldlM (fun state value => read value >>= fun result => .ok (change state result)) state =
      (values.mapM read).map fun results => results.foldl change state := by
  induction values generalizing state with
  | nil => rfl
  | cons value values ih =>
      rw [List.foldlM_cons, List.mapM_cons]
      cases read value with
      | error error => rfl
      | ok result =>
          rw [ok_bind, ok_bind, ok_bind, ih]
          cases values.mapM read <;> rfl

/-- A report is the tally of the loaded records, or raises what the loading raises. -/
theorem countRecords_eq {K C : Type} [DecidableEq K] (key : RunRecord → K) (initial : C)
    (add : C → RunRecord → C) (runDir : Directory) :
    countRecords key initial add runDir =
      (loadRecords runDir).map fun records => Dict.tally key initial add records .empty :=
  foldlM_read _ _ _

/-- Reports with one key forget different fields of the same records. -/
theorem countRecords_map {K C W : Type} [DecidableEq K] (key : RunRecord → K) (initial : C)
    (add : C → RunRecord → C) (runDir : Directory) (forget : C → W) (other : W → RunRecord → W)
    (same : ∀ count record, forget (add count record) = other (forget count) record) :
    (countRecords key initial add runDir).map (Dict.mapValues forget) =
      countRecords key (forget initial) other runDir := by
  rw [countRecords_eq, countRecords_eq]
  cases loadRecords runDir with
  | error error => rfl
  | ok records => exact congrArg Except.ok (Dict.mapValues_tally forget same records .empty)

/-- A report over all records is a tally of them. -/
theorem tallied_countRecords {K C : Type} [DecidableEq K] {key : RunRecord → K} {initial : C}
    {add : C → RunRecord → C} {runDir : Directory} {records : List RunRecord} {counts : Dict K C}
    (loaded : loadRecords runDir = .ok records)
    (counted : countRecords key initial add runDir = .ok counts) :
    Dict.Tallied (some ∘ key) initial add records counts := by
  rw [countRecords_eq, loaded] at counted
  cases counted
  exact Dict.tallied_tally key [] .empty .empty

/-- These are the fields of the aggregation in a count of the comparison. -/
def FaultCount.toTotal (count : FaultCount) : FaultTotal :=
  ⟨count.n, count.verified, count.success, count.downgrade⟩

/-- These are the fields that both reports on the conditions have. -/
structure SharedCount where
  n : Nat
  verified : Nat
  success : Nat
  hrr : Nat
  downgradeFlagged : Nat

def ConditionCount.shared (count : ConditionCount) : SharedCount :=
  ⟨count.n, count.verified, count.success, count.hrr, count.downgradeFlagged⟩

def ConditionTotal.shared (count : ConditionTotal) : SharedCount :=
  ⟨count.total, count.verified, count.success, count.hrr, count.downgradeFlagged⟩

def SharedCount.add (count : SharedCount) (record : RunRecord) : SharedCount :=
  { n := count.n + 1
    verified := count.verified + record.manipulationVerified.toNat
    success := count.success + (record.metrics.handshakeResult == "success").toNat
    hrr := count.hrr + (record.metrics.hrrPresent == some true).toNat
    downgradeFlagged :=
      count.downgradeFlagged + (record.metrics.downgradeFlagged == some true).toNat }

section Reports
variable (runDir : Directory)

/-- The aggregation has the rows of the comparison. -/
theorem aggregate_eq :
    aggregate runDir = (comparison runDir).map (Dict.mapValues FaultCount.toTotal) :=
  (countRecords_map faultKey ({} : FaultCount) FaultCount.add runDir FaultCount.toTotal
    FaultTotal.add fun _ _ => rfl).symm

/-- Both reports on the conditions have the same rows. -/
theorem aggregateV11_shared :
    (aggregateV11 runDir).map (Dict.mapValues ConditionTotal.shared) =
      (comparisonV11 runDir).map (Dict.mapValues ConditionCount.shared) :=
  (countRecords_map conditionKey ({} : ConditionTotal) ConditionTotal.add runDir ConditionTotal.shared
    SharedCount.add fun _ _ => rfl).trans
  (countRecords_map conditionKey ({} : ConditionCount) ConditionCount.add runDir ConditionCount.shared
    SharedCount.add fun _ _ => rfl).symm

variable {runDir} {records : List RunRecord}

/-- A result is a success or a failure. -/
theorem success_add_failure (result : String) :
    (result == "success").toNat + (result != "success").toNat = 1 := by
  rw [bne]
  cases result == "success" <;> rfl

/-- A final group is hybrid, classical or unknown. -/
theorem final_add (final : Option String) :
    (final == some "X25519MLKEM768").toNat + (final == some "X25519").toNat +
      (final != some "X25519MLKEM768" && final != some "X25519").toNat = 1 := by
  by_cases hybrid : final = some "X25519MLKEM768"
  · rw [hybrid]
    decide
  · by_cases classical : final = some "X25519"
    · rw [classical]
      decide
    · rw [bne, bne, beq_eq_false_iff_ne.mpr hybrid, beq_eq_false_iff_ne.mpr classical]
      rfl

theorem comparison_countsOnce {counts : Dict (String × String) FaultCount}
    (loaded : loadRecords runDir = .ok records) (counted : comparison runDir = .ok counts) :
    Dict.CountsOnce (some ∘ faultKey) FaultCount.n [[FaultCount.success, FaultCount.failure]] records
      counts := by
  apply (tallied_countRecords loaded counted).countsOnce rfl
  · simp [Dict.partSum]
  · exact fun _ _ => rfl
  · intro record _ parts inside count
    rw [List.mem_singleton.mp inside]
    have one := success_add_failure record.metrics.handshakeResult
    simp only [Dict.partSum, FaultCount.add, List.foldr_cons, List.foldr_nil]
    omega

theorem comparisonV11_countsOnce {counts : Dict (String × String) ConditionCount}
    (loaded : loadRecords runDir = .ok records) (counted : comparisonV11 runDir = .ok counts) :
    Dict.CountsOnce (some ∘ conditionKey) ConditionCount.n
      [[ConditionCount.success, ConditionCount.failure]] records counts := by
  apply (tallied_countRecords loaded counted).countsOnce rfl
  · simp [Dict.partSum]
  · exact fun _ _ => rfl
  · intro record _ parts inside count
    rw [List.mem_singleton.mp inside]
    have one := success_add_failure record.metrics.handshakeResult
    simp only [Dict.partSum, ConditionCount.add, List.foldr_cons, List.foldr_nil]
    omega

/-- The splits of the server-setting matrix are its results and its final groups. -/
theorem comparisonV12_countsOnce {counts : Counts} (loaded : loadRecords runDir = .ok records)
    (returned : comparisonV12 runDir = .ok counts) :
    Dict.CountsOnce (fun record => (recordKey record).toOption) Count.n
      [[Count.success, Count.failure], [Count.hybrid, Count.classical, Count.unknown]]
      (records.filter fun record => record.faultType == "server-setting") counts := by
  have folded : records.foldlM (comparisonStep runDir) .empty = .ok counts := by
    rw [← foldlM_of_mapM loaded]
    exact returned
  have tallied : Dict.Tallied (fun record => (recordKey record).toOption) {} (Count.add runDir)
      ([] ++ records.filter fun record => record.faultType == "server-setting") counts := by
    apply Dict.tallied_of_foldlM _ .empty folded
    intro out record next taken
    unfold comparisonStep at taken
    split at taken
    · rename_i other
      cases taken
      exact .inl ⟨beq_eq_false_iff_ne.mpr other, rfl⟩
    · rename_i setting
      obtain ⟨key, computed, same⟩ := bind_eq_ok.mp taken
      cases same
      exact .inr ⟨beq_iff_eq.mpr (not_not.mp setting), key, toOption_eq_some.mpr computed, rfl⟩
  apply tallied.countsOnce rfl
  · simp [Dict.partSum]
  · exact fun _ _ => rfl
  · intro record _ parts inside count
    have result := success_add_failure record.metrics.handshakeResult
    have final := final_add record.metrics.finalNegotiatedGroup
    rw [List.mem_cons, List.mem_singleton] at inside
    rcases inside with rfl | rfl <;>
      · simp only [Dict.partSum, Count.add, List.foldr_cons, List.foldr_nil]
        omega

theorem comparisonV15_countsOnce {counts : Dict (Scalar × Scalar) V15.NegotiationCount}
    (loaded : loadRecords runDir = .ok records)
    (returned : V15.comparisonV15 runDir = .ok counts) :
    Dict.CountsOnce (fun record => (V15.negotiationKey record).toOption) V15.NegotiationCount.n
      [[V15.NegotiationCount.hybrid, V15.NegotiationCount.classical, V15.NegotiationCount.unknown]]
      (records.filter fun record => record.faultType == "negotiation-function") counts := by
  have folded : records.foldlM V15.negotiationStep .empty = .ok counts := by
    rw [← foldlM_of_mapM loaded]
    exact returned
  have tallied : Dict.Tallied (fun record => (V15.negotiationKey record).toOption) {}
      V15.NegotiationCount.add
      ([] ++ records.filter fun record => record.faultType == "negotiation-function") counts := by
    apply Dict.tallied_of_foldlM _ .empty folded
    intro out record next taken
    unfold V15.negotiationStep at taken
    split at taken
    · rename_i other
      cases taken
      exact .inl ⟨beq_eq_false_iff_ne.mpr other, rfl⟩
    · rename_i compared
      obtain ⟨key, computed, same⟩ := bind_eq_ok.mp taken
      cases same
      exact .inr ⟨beq_iff_eq.mpr (not_not.mp compared), key, toOption_eq_some.mpr computed, rfl⟩
  apply tallied.countsOnce rfl
  · simp [Dict.partSum]
  · exact fun _ _ => rfl
  · intro record _ parts inside count
    rw [List.mem_singleton.mp inside]
    have final := final_add record.metrics.finalNegotiatedGroup
    simp only [Dict.partSum, V15.NegotiationCount.add, List.foldr_cons, List.foldr_nil]
    omega

end Reports

/-- On every directory, the aggregations and the comparisons have the same rows with the same
counts, or raise the same error. Every report counts each of its records in one row, and the
results and the final groups of a row add up to its number of records. -/
theorem reports_agree (runDir : Directory) :
    aggregate runDir = (comparison runDir).map (Dict.mapValues FaultCount.toTotal) ∧
    (aggregateV11 runDir).map (Dict.mapValues ConditionTotal.shared) =
      (comparisonV11 runDir).map (Dict.mapValues ConditionCount.shared) ∧
    ∀ records, loadRecords runDir = .ok records →
      (∃ counts, comparison runDir = .ok counts ∧
        Dict.CountsOnce (some ∘ faultKey) FaultCount.n
          [[FaultCount.success, FaultCount.failure]] records counts) ∧
      (∃ counts, comparisonV11 runDir = .ok counts ∧
        Dict.CountsOnce (some ∘ conditionKey) ConditionCount.n
          [[ConditionCount.success, ConditionCount.failure]] records counts) ∧
      (∀ counts, comparisonV12 runDir = .ok counts →
        Dict.CountsOnce (fun record => (recordKey record).toOption) Count.n
          [[Count.success, Count.failure], [Count.hybrid, Count.classical, Count.unknown]]
          (records.filter fun record => record.faultType == "server-setting") counts) ∧
      ∀ counts, V15.comparisonV15 runDir = .ok counts →
        Dict.CountsOnce (fun record => (V15.negotiationKey record).toOption) V15.NegotiationCount.n
          [[V15.NegotiationCount.hybrid, V15.NegotiationCount.classical,
            V15.NegotiationCount.unknown]]
          (records.filter fun record => record.faultType == "negotiation-function") counts := by
  refine ⟨aggregate_eq runDir, aggregateV11_shared runDir, ?_⟩
  intro records loaded
  have faults : comparison runDir = .ok (Dict.tally faultKey {} FaultCount.add records .empty) := by
    rw [comparison, countRecords_eq, loaded]
    rfl
  have conditions : comparisonV11 runDir =
      .ok (Dict.tally conditionKey {} ConditionCount.add records .empty) := by
    rw [comparisonV11, countRecords_eq, loaded]
    rfl
  exact ⟨⟨_, faults, comparison_countsOnce loaded faults⟩,
    ⟨_, conditions, comparisonV11_countsOnce loaded conditions⟩,
    fun _ returned => comparisonV12_countsOnce loaded returned,
    fun _ returned => comparisonV15_countsOnce loaded returned⟩

end FaultInject.Analyze

namespace FaultInject.Aggregate
open Python Record Analyze

section Manifest
variable {runDir after : Directory}

/-- A file that is not a JSON file changes no report. -/
theorem loadRecords_set {name : String} (other : ¬".json".toList <:+ name.toList) (file : File) :
    loadRecords (Dict.set runDir name file) = loadRecords runDir := by
  have paths : Directory.jsonPaths (Dict.set runDir name file) = runDir.jsonPaths := by
    rw [Directory.jsonPaths, Dict.entries_set]
    split
    · rw [Dict.map_fst_replaced]
      rfl
    · have hidden : (".json".toList.isSuffixOf name.toList && decide ('/' ∉ name.toList)) = false := by
        rw [Bool.and_eq_false_iff]
        exact .inl (Bool.eq_false_iff.mpr (mt List.isSuffixOf_iff_suffix.mp other))
      rw [List.map_append, List.filter_append, List.map_singleton, List.filter_singleton, hidden]
      simp [Directory.jsonPaths]
  have reads : ∀ path ∈ runDir.jsonPaths,
      Directory.fromJson (Dict.set runDir name file) path = runDir.fromJson path := by
    intro path member
    have different : path ≠ name := by
      rintro rfl
      rw [Directory.jsonPaths, List.mem_insertionSort, List.mem_filter, Bool.and_eq_true,
        List.isSuffixOf_iff_suffix] at member
      exact other member.2.1
    rw [Directory.fromJson, Directory.fromJson, Directory.file, Directory.file, Dict.get?_set,
      if_neg different]
  rw [loadRecords, loadRecords, paths]
  generalize runDir.jsonPaths = listed at reads
  induction listed with
  | nil => rfl
  | cons path listed ih =>
      rw [List.mapM_cons, List.mapM_cons, reads path List.mem_cons_self,
        ih fun later member => reads later (List.mem_cons_of_mem _ member)]

/-- These are the cells of a row of the comparison in the manifest. -/
def manifestCells (row : ComparisonRow) : List String :=
  [row.implementation, row.faultType, toString row.n, toString row.verified, toString row.success,
    toString row.downgrade]

/-- The order of the rows depends on their keys only. -/
theorem sortedRows_mapValues {C W : Type} (change : C → W) (counts : Dict (String × String) C) :
    sortedRows (counts.mapValues change) =
      (sortedRows counts).map fun entry => (entry.1, change entry.2) := by
  unfold sortedRows V16.sortedItems
  symm
  apply List.map_insertionSort
  exact fun _ _ _ _ => Iff.rfl

/-- The manifest of a directory has the rows of its comparison. -/
theorem manifestRows_toTotal (counts : Dict (String × String) FaultCount) :
    manifestRows (counts.mapValues FaultCount.toTotal) =
      ["implementation", "fault_type", "total", "verified", "success", "downgrade"] ::
        ((sortedRows counts).map comparisonRow).map manifestCells := by
  rw [manifestRows, sortedRows_mapValues, List.singleton_append, List.map_map, List.map_map]
  rfl

/-- Reports read the same records after the manifest. -/
theorem countRecords_set {K C : Type} [DecidableEq K] (key : RunRecord → K) (initial : C)
    (add : C → RunRecord → C) {name : String} (other : ¬".json".toList <:+ name.toList)
    (file : File) : countRecords key initial add (Dict.set runDir name file) =
      countRecords key initial add runDir := by
  rw [countRecords_eq, countRecords_eq, loadRecords_set other]

/-- The written manifest is read back as the rows of the comparison, in the same order and with
the same counts. Nothing else changes, and writing the manifest again changes nothing. -/
theorem writeManifest_reads (written : writeManifest runDir = .ok after) :
    ∃ rows bytes text, comparisonRows runDir = .ok rows ∧
      after.get? manifestName = some (.bytes bytes) ∧ decodeStrict bytes = .ok text ∧
      Csv.read text = ["implementation", "fault_type", "total", "verified", "success",
        "downgrade"] :: rows.map manifestCells ∧
      (∀ name ≠ manifestName, after.get? name = runDir.get? name) ∧
      comparisonRows after = .ok rows ∧ writeManifest after = .ok after := by
  obtain ⟨totals, counted, same⟩ := bind_eq_ok.mp written
  cases same
  have other : ¬".json".toList <:+ manifestName.toList := by decide
  rw [aggregate_eq] at counted
  obtain ⟨counts, compared, rfl⟩ := map_eq_ok.mp counted
  have again (file : File) : comparison (Dict.set runDir manifestName file) = .ok counts := by
    rw [comparison, countRecords_set _ _ _ other]
    exact compared
  have found (file : File) : Dict.get? (Dict.set runDir manifestName file) manifestName =
      some file := by
    rw [Dict.get?_set, if_pos rfl]
  refine ⟨(sortedRows counts).map comparisonRow, _, _, ?_, found _, decodeStrict_encodeUtf8 _, ?_, ?_,
    ?_, ?_⟩
  · rw [comparisonRows, compared]
    rfl
  · rw [Csv.read_write, manifestRows_toTotal]
  · intro name different
    rw [Dict.get?_set, if_neg different]
  · rw [comparisonRows, again]
    rfl
  · rw [writeManifest, aggregate_eq, again]
    show Except.ok (Dict.set (Dict.set runDir manifestName _) manifestName _) = _
    rw [Dict.set_set]

/-- The manifest of a directory with three records of one kind has one row. -/
theorem writeManifest_reads_sample : ∃ after bytes text,
    writeManifest sampleDir = .ok after ∧ Dict.get? after manifestName = some (.bytes bytes) ∧
      decodeStrict bytes = .ok text ∧ (Csv.read text).length = 2 := by
  have compares : (comparisonRows sampleDir).map List.length = .ok 1 := by decide +kernel
  obtain ⟨rows, compared, one⟩ := map_eq_ok.mp compares
  obtain ⟨counts, counted, _⟩ := bind_eq_ok.mp compared
  have written : writeManifest sampleDir = .ok (Dict.set sampleDir manifestName (.bytes
      (encodeUtf8 (Csv.write (manifestRows (counts.mapValues FaultCount.toTotal)))))) := by
    rw [writeManifest, aggregate_eq, counted]
    rfl
  obtain ⟨others, bytes, text, again, found, decoded, read, _⟩ := writeManifest_reads written
  rw [compared] at again
  cases again
  exact ⟨_, bytes, text, written, found, decoded, by simp [read, one]⟩

end Manifest

end FaultInject.Aggregate
