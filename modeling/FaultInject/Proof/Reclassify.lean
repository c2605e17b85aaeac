import FaultInject.Proof.Classification
import FaultInject.Proof.JsonFiles

/-
This file follows the label migration over the files of a run directory.
-/

namespace FaultInject.V18
open Python Record Harness FaultInject.Matrix V12 V15 V16

/-- The migration writes only these keys. -/
def labelKeys : List String := ["classification", "classification_schema", "server_selection_type"]

/-- The records differ only in the label keys of their provenance. -/
structure SameButLabels (record other : RunRecord) : Prop where
  fields : record = { other with provenance := record.provenance }
  provenance : ∀ key, key ∉ labelKeys → record.provenance.get? key = other.provenance.get? key

def WrittenByEvaluation (record : RunRecord) : Prop :=
  ∃ host environ input runDir client server after,
    evaluateV18 host environ input runDir client server = .ok (record, after)

/-- The file is the inventory or a record under its own name. A record of this version was written
by the evaluation and has any labels since. -/
def SurveyFile (name : String) (file : File) : Prop :=
  name = inventoryName ∨ ∃ record, file = .record record ∧ name = s!"{record.runId}.json" ∧
    (record.faultType ∈ classifiedFaults →
      ∃ evaluated, WrittenByEvaluation evaluated ∧ SameButLabels record evaluated)

def SurveyDirectory (runDir : Directory) : Prop :=
  ∀ name, Read name → ∀ file, runDir.get? name = some file → SurveyFile name file

/-- The file is a record of this version, and its labels are not those of its lists and its server. -/
def Disagrees (runDir : Directory) (name : String) : Prop :=
  name ≠ inventoryName ∧ ∃ record, runDir.get? name = some (.record record) ∧
    record.faultType ∈ classifiedFaults ∧ ¬∃ groups shares server, Stores record groups shares server

section Records
variable {record other : RunRecord} {groups shares : List String} {server : String}

/-- The lists do not depend on the labels. -/
theorem StoredLists.of_sameButLabels (lists : StoredLists other groups shares server)
    (same : SameButLabels record other) : StoredLists record groups shares server where
  storedGroups := (same.provenance _ (by decide)).trans lists.storedGroups
  storedShares := (same.provenance _ (by decide)).trans lists.storedShares
  storedServer := (same.provenance _ (by decide)).trans lists.storedServer

/-- The evaluation stores lists and a server. -/
theorem WrittenByEvaluation.stores (written : WrittenByEvaluation record) :
    ∃ groups shares server, Stores record groups shares server := by
  obtain ⟨host, environ, input, runDir, client, server, after, returned⟩ := written
  obtain ⟨summary, _, stores, _⟩ := evaluateV18_stores returned
  exact ⟨_, _, server, stores⟩

/-- One record of an evaluation with any labels is a survey. -/
theorem SurveyDirectory.single {name : String} (written : WrittenByEvaluation other)
    (same : SameButLabels record other) (own : name = s!"{record.runId}.json") :
    SurveyDirectory (Dict.empty.set name (.record record)) := by
  intro found _ file known
  rw [Dict.get?_set] at known
  split at known
  · rename_i here
    cases known
    exact .inr ⟨record, rfl, here.trans own, fun _ => ⟨other, written, same⟩⟩
  · cases known

/-- Every file of a survey other than the inventory is a record. -/
theorem SurveyFile.exists_record {name : String} {file : File} (survey : SurveyFile name file)
    (kept : name ≠ inventoryName) : ∃ record, file = .record record := by
  rcases survey with inventory | ⟨record, same, _⟩
  · exact absurd inventory kept
  · exact ⟨record, same⟩

/-- A record of this version in a survey has lists and a server. -/
theorem SurveyFile.storedLists {name : String} (survey : SurveyFile name (.record record))
    (kept : name ≠ inventoryName) :
    name = s!"{record.runId}.json" ∧ (record.faultType ∈ classifiedFaults →
      ∃ groups shares server, StoredLists record groups shares server) := by
  rcases survey with inventory | ⟨found, same, own, written⟩
  · exact absurd inventory kept
  · cases same
    refine ⟨own, ?_⟩
    intro classified
    obtain ⟨evaluated, evaluation, labels⟩ := written classified
    obtain ⟨groups, shares, server, stores⟩ := evaluation.stores
    exact ⟨groups, shares, server, stores.toStoredLists.of_sameButLabels labels⟩

/-- The labels of the lists are stored exactly when the check finds them. -/
theorem hasLabels_iff (lists : StoredLists record groups shares server) :
    hasLabels record.provenance (labelsOf groups shares server) = true ↔
      ∃ groups shares server, Stores record groups shares server := by
  rw [hasLabels, Bool.and_eq_true, Option.any_eq_true, Option.any_eq_true]
  simp only [Value.isText_eq_true]
  constructor
  · intro facts
    obtain ⟨⟨_, first, rfl⟩, ⟨_, second, rfl⟩⟩ := facts
    exact ⟨groups, shares, server, lists, first, second⟩
  · intro known
    obtain ⟨others, otherShares, otherServer, stores⟩ := known
    have labels := stores.toStoredLists.currentLabels_eq
    rw [lists.currentLabels_eq, Except.ok.injEq] at labels
    rw [labels]
    exact ⟨⟨_, stores.storedClass, rfl⟩, ⟨_, stores.storedSelection, rfl⟩⟩

theorem get?_relabel (record : RunRecord) (labels : String × String) (key : String) :
    (relabel record labels).provenance.get? key =
      if key = "server_selection_type" then some (.str labels.2)
      else if key = "classification_schema" then some (.str "v1.8-order-aware")
      else if key = "classification" then some (.str labels.1)
      else record.provenance.get? key := by
  rw [relabel, Dict.get?_set, Dict.get?_set, Dict.get?_set]

theorem relabel_sameButLabels (record : RunRecord) (labels : String × String) :
    SameButLabels (relabel record labels) record := by
  refine ⟨rfl, ?_⟩
  intro key other
  simp only [labelKeys, List.mem_cons, List.not_mem_nil, or_false, not_or] at other
  rw [get?_relabel, if_neg other.2.2, if_neg other.2.1, if_neg other.1]

theorem SameButLabels.trans {last : RunRecord} (first : SameButLabels record other)
    (second : SameButLabels other last) : SameButLabels record last := by
  refine ⟨?_, fun key free => (first.provenance key free).trans (second.provenance key free)⟩
  rw [first.fields, second.fields]

/-- A change of the labels leaves the file a file of a survey. -/
theorem SurveyFile.relabelled {name : String} (survey : SurveyFile name (.record other))
    (same : SameButLabels record other) : SurveyFile name (.record record) := by
  rcases survey with inventory | ⟨found, known, own, written⟩
  · exact .inl inventory
  · cases known
    have runId : record.runId = other.runId := by rw [same.fields]
    have fault : record.faultType = other.faultType := by rw [same.fields]
    refine .inr ⟨record, rfl, ?_, ?_⟩
    · rw [runId]
      exact own
    · rw [fault]
      intro classified
      obtain ⟨evaluated, evaluation, labels⟩ := written classified
      exact ⟨evaluated, evaluation, same.trans labels⟩

/-- A migrated record stores the labels of its lists. -/
theorem relabel_stores (lists : StoredLists record groups shares server) :
    Stores (relabel record (labelsOf groups shares server)) groups shares server where
  toStoredLists := lists.of_sameButLabels (relabel_sameButLabels _ _)
  storedClass := by rw [get?_relabel]; rfl
  storedSelection := by rw [get?_relabel]; rfl

/-- A selection type other than that of the stored server is outdated. -/
theorem relabel_outdated (lists : StoredLists record groups shares server) {labels : String × String}
    (outdated : labels.2 ≠ (serverSelectionTypes.lookup server).getD "unknown") :
    ¬∃ groups shares server, Stores (relabel record labels) groups shares server := by
  intro facts
  obtain ⟨otherGroups, otherShares, other, stores⟩ := facts
  have kept := (relabel_sameButLabels record labels).provenance "server" (by decide)
  have known : Value.str other = .str server :=
    Option.some.inj (stores.storedServer.symm.trans (kept.trans lists.storedServer))
  have selection : Value.str labels.2 = .str (labelsOf otherGroups otherShares other).2 :=
    Option.some.inj ((get?_relabel _ _ _).symm.trans stores.storedSelection)
  simp only [Value.str, Value.scalar.injEq, Scalar.str.injEq, labelsOf] at known selection
  rw [known] at selection
  exact outdated selection

end Records

/-- This is the record that the migration writes for the file. -/
def migration (runDir : Directory) (name : String) : Option RunRecord :=
  if name = inventoryName then none else
  match runDir.get? name with
  | some (.record record) =>
    if record.faultType ∈ classifiedFaults then
      match currentLabels record.provenance with
      | .ok labels => if hasLabels record.provenance labels then none else some (relabel record labels)
      | .error _ => none
    else none
  | _ => none

/-- This is a round of the loop over the files of a survey. -/
def migrated (state : Nat × Directory) (name : String) : Nat × Directory :=
  match migration state.2 name with
  | some record => (state.1 + 1, state.2.set name (.record record))
  | none => state

section Migration
variable {runDir : Directory} {name : String}

/-- The migration of a file looks only at the file. -/
theorem migration_congr {other : Directory} (same : other.get? name = runDir.get? name) :
    migration other name = migration runDir name := by
  rw [migration, migration, same]

/-- Exactly the records with other labels are migrated. -/
theorem migration_isSome_iff {file : File} (found : runDir.get? name = some file)
    (survey : SurveyFile name file) : (migration runDir name).isSome ↔ Disagrees runDir name := by
  unfold migration Disagrees
  by_cases inventory : name = inventoryName
  · simp [inventory]
  · rw [if_neg inventory, found]
    cases file with
    | bytes content => simp
    | text content => simp
    | record record =>
        dsimp only
        by_cases classified : record.faultType ∈ classifiedFaults
        · obtain ⟨groups, shares, server, lists⟩ := (survey.storedLists inventory).2 classified
          have labels := hasLabels_iff lists
          rw [if_pos classified, lists.currentLabels_eq]
          dsimp only
          split
          · rename_i agreed
            simp [labels.mp agreed]
          · rename_i disagreed
            have outdated := fun stores => disagreed (labels.mpr stores)
            simpa [inventory, classified] using outdated
        · rw [if_neg classified]
          simp [classified]

/-- A migrated record stores its labels and differs from the record in the labels only. -/
theorem migration_eq_some {file : File} {changed : RunRecord} (found : runDir.get? name = some file)
    (survey : SurveyFile name file) (written : migration runDir name = some changed) :
    ∃ record, file = .record record ∧ SameButLabels changed record ∧
      ∃ groups shares server, Stores changed groups shares server := by
  unfold migration at written
  rw [found] at written
  by_cases inventory : name = inventoryName
  · rw [if_pos inventory] at written
    cases written
  · rw [if_neg inventory] at written
    cases file with
    | bytes content => cases written
    | text content => cases written
    | record record =>
        dsimp only at written
        by_cases classified : record.faultType ∈ classifiedFaults
        · obtain ⟨groups, shares, server, lists⟩ := (survey.storedLists inventory).2 classified
          rw [if_pos classified, lists.currentLabels_eq] at written
          dsimp only at written
          split at written
          · cases written
          · cases written
            exact ⟨record, rfl, relabel_sameButLabels _ _, groups, shares, server,
              relabel_stores lists⟩
        · rw [if_neg classified] at written
          cases written

/-- A round of the loop returns for a file of a survey. -/
theorem reclassifyFile_eq {file : File} {count : Nat} (found : runDir.get? name = some file)
    (survey : SurveyFile name file) :
    reclassifyFile (count, runDir) name = .ok (migrated (count, runDir) name) := by
  unfold reclassifyFile migrated migration
  by_cases inventory : name = inventoryName
  · rw [if_pos inventory, if_pos inventory]
  · rw [if_neg inventory, if_neg inventory, found]
    obtain ⟨record, rfl⟩ := survey.exists_record inventory
    obtain ⟨own, lists⟩ := survey.storedLists inventory
    dsimp only
    rw [(fromJson_eq_ok found).mpr rfl, ok_bind]
    by_cases classified : record.faultType ∈ classifiedFaults
    · obtain ⟨groups, shares, server, lists⟩ := lists classified
      rw [if_neg (not_not.mpr classified), if_pos classified, lists.currentLabels_eq, ok_bind]
      dsimp only
      split
      · rfl
      · rw [Directory.toJsonPath, own]
        rfl
    · rw [if_pos classified, if_neg classified]

end Migration

section Loop
variable {runDir after : Directory}

/-- A round changes only its own file. -/
theorem get?_migrated (state : Nat × Directory) (name other : String) :
    (migrated state name).2.get? other =
      if other = name then ((migration state.2 name).map File.record).or (state.2.get? name)
      else state.2.get? other := by
  unfold migrated
  split
  · rename_i record written
    rw [Dict.get?_set, written]
    rfl
  · rename_i unchanged
    rw [unchanged]
    split
    · rename_i same
      rw [same]
      rfl
    · rfl

/-- The migration of the other files does not depend on a round. -/
theorem migration_migrated {state : Nat × Directory} {name other : String} (apart : other ≠ name) :
    migration (migrated state name).2 other = migration state.2 other := by
  apply migration_congr
  rw [get?_migrated, if_neg apart]

/-- The loop returns for the files of a survey. -/
theorem reclassifyFile_foldlM {names : List String} (distinct : names.Nodup) (state : Nat × Directory)
    (survey : ∀ name ∈ names, ∃ file, state.2.get? name = some file ∧ SurveyFile name file) :
    names.foldlM reclassifyFile state = .ok (names.foldl migrated state) := by
  induction names generalizing state with
  | nil => rfl
  | cons name names ih =>
      rw [List.nodup_cons] at distinct
      obtain ⟨file, found, known⟩ := survey name List.mem_cons_self
      rw [List.foldlM_cons, List.foldl_cons, reclassifyFile_eq found known, ok_bind]
      apply ih distinct.2
      intro other member
      have apart : other ≠ name := fun same => distinct.1 (same ▸ member)
      rw [get?_migrated, if_neg apart]
      exact survey other (List.mem_cons_of_mem name member)

/-- The loop writes the migrated records of its files and counts them. -/
theorem migrated_foldl {names : List String} (distinct : names.Nodup) (state : Nat × Directory) :
    (names.foldl migrated state).1 =
        state.1 + names.countP (fun name => (migration state.2 name).isSome) ∧
      ∀ other, (names.foldl migrated state).2.get? other =
        if other ∈ names then ((migration state.2 other).map File.record).or (state.2.get? other)
        else state.2.get? other := by
  induction names generalizing state with
  | nil => exact ⟨rfl, fun _ => rfl⟩
  | cons name names ih =>
      rw [List.nodup_cons] at distinct
      obtain ⟨count, files⟩ := ih distinct.2 (migrated state name)
      have apart (other : String) (member : other ∈ names) : other ≠ name :=
        fun same => distinct.1 (same ▸ member)
      have others : names.countP (fun other => (migration (migrated state name).2 other).isSome) =
          names.countP (fun other => (migration state.2 other).isSome) := by
        apply List.countP_congr
        intro other member
        rw [migration_migrated (apart other member)]
      have one : (migrated state name).1 =
          state.1 + if (migration state.2 name).isSome then 1 else 0 := by
        unfold migrated
        split <;> rename_i written <;> simp [written]
      rw [List.foldl_cons]
      constructor
      · rw [count, others, one, List.countP_cons]
        omega
      · intro other
        rw [files, get?_migrated]
        by_cases head : other = name
        · subst head
          rw [if_neg distinct.1, if_pos rfl, if_pos List.mem_cons_self]
        · rw [if_neg head, migration_migrated head]
          apply if_congr _ rfl rfl
          rw [List.mem_cons, or_iff_right head]

theorem nodup_jsonPaths (runDir : Directory) : runDir.jsonPaths.Nodup := by
  rw [Directory.jsonPaths, (List.perm_insertionSort _ _).nodup_iff]
  exact runDir.distinct.filter _

/-- The files of a survey are found under their names. -/
theorem SurveyDirectory.found (survey : SurveyDirectory runDir) (name : String)
    (member : name ∈ runDir.jsonPaths) :
    ∃ file, runDir.get? name = some file ∧ SurveyFile name file := by
  obtain ⟨read, file, found⟩ := mem_jsonPaths.mp member
  exact ⟨file, found, survey name read file found⟩

/-- A survey without a disagreement is left as it is. -/
theorem reclassify_settled (survey : SurveyDirectory runDir)
    (settled : ∀ name ∈ runDir.jsonPaths, ¬Disagrees runDir name) :
    reclassify runDir = .ok (0, runDir) := by
  have idle (names : List String) (inside : ∀ name ∈ names, name ∈ runDir.jsonPaths) :
      names.foldlM reclassifyFile (0, runDir) = .ok (0, runDir) := by
    induction names with
    | nil => rfl
    | cons name names ih =>
        have member := inside name List.mem_cons_self
        obtain ⟨file, found, known⟩ := survey.found name member
        have unchanged : migration runDir name = none := by
          rw [← Option.not_isSome_iff_eq_none, migration_isSome_iff found known]
          exact settled name member
        rw [List.foldlM_cons, reclassifyFile_eq found known, ok_bind, migrated, unchanged]
        exact ih fun other behind => inside other (List.mem_cons_of_mem name behind)
  exact idle runDir.jsonPaths fun _ member => member

/-- The migrated files of a survey are those of a survey without a disagreement. -/
theorem SurveyDirectory.migrated (survey : SurveyDirectory runDir)
    (files : ∀ name, after.get? name =
      if name ∈ runDir.jsonPaths then ((migration runDir name).map File.record).or (runDir.get? name)
      else runDir.get? name) :
    SurveyDirectory after ∧ ∀ name ∈ after.jsonPaths, ¬Disagrees after name := by
  have each (name : String) (read : Read name) (file : File) (found : after.get? name = some file) :
      SurveyFile name file ∧ ¬Disagrees after name := by
    have change := files name
    by_cases member : name ∈ runDir.jsonPaths
    · obtain ⟨before, placed, known⟩ := survey.found name member
      rw [if_pos member, found] at change
      cases written : migration runDir name with
      | none =>
          rw [written, Option.map_none, Option.none_or] at change
          have agreed : ¬Disagrees runDir name := by
            rw [← migration_isSome_iff placed known, written]
            simp
          refine ⟨survey name read file change.symm, ?_⟩
          intro ⟨kept, record, again, rest⟩
          exact agreed ⟨kept, record, by rw [← change, ← found, again], rest⟩
      | some changed =>
          obtain ⟨record, rfl, same, stores⟩ := migration_eq_some placed known written
          rw [written, Option.map_some, Option.some_or, Option.some.injEq] at change
          subst change
          refine ⟨known.relabelled same, ?_⟩
          intro ⟨_, other, again, _, outdated⟩
          rw [found, Option.some.injEq, File.record.injEq] at again
          exact outdated (again ▸ stores)
    · rw [if_neg member, found] at change
      exact absurd (mem_jsonPaths.mpr ⟨read, file, change.symm⟩) member
  refine ⟨fun name read file found => (each name read file found).1, ?_⟩
  intro name member
  obtain ⟨read, file, found⟩ := mem_jsonPaths.mp member
  exact (each name read file found).2

end Loop

section Fresh

/-- The file is the inventory or the record of an evaluation under its own name. -/
def FreshFile (name : String) (file : File) : Prop :=
  name = inventoryName ∨ ∃ record, file = .record record ∧ name = s!"{record.runId}.json" ∧
    WrittenByEvaluation record

/-- The files of the evaluations are left as they are. -/
theorem reclassify_of_fresh {runDir : Directory}
    (fresh : ∀ name, Read name → ∀ file, runDir.get? name = some file → FreshFile name file) :
    reclassify runDir = .ok (0, runDir) := by
  apply reclassify_settled
  · intro name read file found
    apply (fresh name read file found).imp_right
    intro ⟨record, same, own, written⟩
    exact ⟨record, same, own, fun _ => ⟨record, written, rfl, fun _ _ => rfl⟩⟩
  · intro name member ⟨kept, record, found, _, outdated⟩
    obtain ⟨read, _⟩ := mem_jsonPaths.mp member
    rcases fresh name read _ found with inventory | ⟨other, same, _, written⟩
    · exact kept inventory
    · cases same
      exact outdated written.stores

/-- The run ended behind its last round. It started in a directory without JSON files. -/
def Produces (plan : Plan) (runDir : Directory) : Prop :=
  ∃ start events state, (∀ name, Read name → Dict.get? start name = none) ∧
    Transition.run (step plan) (.initial start) events = some state ∧
    state.phase = .running ∧ state.todo = [] ∧ state.runDir = runDir

/-- A round of this version writes the record of an evaluation. -/
structure EvaluationJob (job : Job) : Prop extends OwnJob job where
  written : ∀ record runDir evaluated after, job.evaluate record runDir = .ok (evaluated, after) →
    WrittenByEvaluation evaluated

/-- The directory of a finished run needs no migration. -/
theorem reclassify_of_produces {plan : Plan} {host : String → Option Bytes}
    (listed : plan.inventory = some (candidateInventory host))
    (jobs : ∀ job, plan.Contains job → EvaluationJob job) {runDir : Directory}
    (produced : Produces plan runDir) : reclassify runDir = .ok (0, runDir) := by
  obtain ⟨start, events, state, empty, reached, phase, _, rfl⟩ := produced
  have laws : JsonLaws plan (fun _ name file => FreshFile name file) (fun _ _ => True) := by
    constructor
    · exact fun job known => (jobs job known).toOwnJob
    · exact fun _ _ _ _ _ fresh => fresh
    · intro inventory runDir content planned
      rw [listed, Option.some.injEq] at planned
      exact .inl (by rw [← planned]; rfl)
    · exact fun _ _ _ _ _ _ _ => trivial
    · intro job record before evaluated after known runId _ returned
      have kept := ((jobs job known).evaluate _ _ _ _ returned).1
      refine .inr ⟨evaluated, rfl, ?_, (jobs job known).written _ _ _ _ returned⟩
      rw [kept, runId]
      rfl
  have json := jsonFiles_of_run laws (fun name read file found => by
    rw [empty name read] at found
    cases found) reached
  apply reclassify_of_fresh
  intro name read file found
  exact json.idle (by rw [phase]; simp) (by rw [phase]; simp) read found

variable (host : String → Option Bytes) (environ : Dict String String) (outDir : String)
  (repetitions : Int)

theorem runV18_evaluationJob {clients : Option (List String)} {job : Job}
    (known : (runV18 host environ outDir repetitions clients).Contains job) :
    EvaluationJob job := by
  refine ⟨(runV18_job host environ outDir repetitions known).1, ?_⟩
  obtain ⟨jobs, built, member⟩ := known
  cases built
  obtain ⟨repetition, _, inside⟩ := List.mem_flatMap.mp member
  obtain ⟨client, _, same⟩ := List.mem_map.mp inside
  obtain ⟨spec, _, rfl⟩ := map_eq_ok.mp same
  intro record runDir evaluated after returned
  exact ⟨host, environ, record, runDir, client, _, after, returned⟩

theorem runE8_evaluationJob {selected : Option (List String)} {job : Job}
    (known : (runE8 host environ outDir repetitions selected).Contains job) :
    EvaluationJob job := by
  refine ⟨(runE8_job host environ outDir repetitions known).1, ?_⟩
  obtain ⟨jobs, built, member⟩ := known
  cases built
  obtain ⟨repetition, _, inside⟩ := List.mem_flatMap.mp member
  obtain ⟨server, _, inside⟩ := List.mem_flatMap.mp inside
  obtain ⟨client, _, same⟩ := List.mem_map.mp inside
  obtain ⟨spec, _, rfl⟩ := map_eq_ok.mp same
  intro record runDir evaluated after returned
  exact ⟨host, environ, record, runDir, client, server, after, returned⟩

end Fresh

/-- The migration of a survey returns the number of disagreeing records. It changes only their
label keys and no other file, all records of this version have the labels of their lists behind it,
and a second migration changes nothing. A finished run needs no migration. -/
theorem reclassify_migrates {runDir : Directory} (survey : SurveyDirectory runDir) :
    (∃ (disagreeing : List String) (after : Directory), disagreeing.Nodup ∧
      (∀ name, name ∈ disagreeing ↔ name ∈ runDir.jsonPaths ∧ Disagrees runDir name) ∧
      reclassify runDir = .ok (disagreeing.length, after) ∧
      (∀ name, Read name → name ≠ inventoryName → ∀ record,
        Dict.get? after name = some (.record record) → record.faultType ∈ classifiedFaults →
        ∃ groups shares server, Stores record groups shares server) ∧
      (∀ name, name ∉ disagreeing → Dict.get? after name = runDir.get? name) ∧
      (∀ name ∈ disagreeing, ∃ record changed, runDir.get? name = some (.record record) ∧
        Dict.get? after name = some (.record changed) ∧ SameButLabels changed record) ∧
      reclassify after = .ok (0, after)) ∧
    (∀ host environ outDir repetitions clients produced,
      Produces (runV18 host environ outDir repetitions clients) produced →
        reclassify produced = .ok (0, produced)) ∧
    (∀ host environ outDir repetitions selected produced,
      Produces (runE8 host environ outDir repetitions selected) produced →
        reclassify produced = .ok (0, produced)) := by
  have distinct := nodup_jsonPaths runDir
  obtain ⟨count, files⟩ := migrated_foldl distinct (0, runDir)
  have returned : reclassify runDir = .ok (runDir.jsonPaths.foldl migrated (0, runDir)) :=
    reclassifyFile_foldlM distinct (0, runDir) survey.found
  generalize runDir.jsonPaths.foldl migrated (0, runDir) = result at count files returned
  obtain ⟨changes, after⟩ := result
  dsimp only at count files
  obtain ⟨again, settled⟩ := survey.migrated files
  have listed (name : String) :
      name ∈ runDir.jsonPaths.filter (fun name => (migration runDir name).isSome) ↔
        name ∈ runDir.jsonPaths ∧ Disagrees runDir name := by
    rw [List.mem_filter]
    apply and_congr_right
    intro member
    obtain ⟨file, found, known⟩ := survey.found name member
    exact migration_isSome_iff found known
  refine ⟨⟨runDir.jsonPaths.filter fun name => (migration runDir name).isSome, after,
    distinct.filter _, listed, ?_, ?_, ?_, ?_, reclassify_settled again settled⟩, ?_, ?_⟩
  · rw [returned, count, Nat.zero_add, List.countP_eq_length_filter]
  · intro name read kept record found classified
    by_contra outdated
    exact settled name (mem_jsonPaths.mpr ⟨read, _, found⟩) ⟨kept, record, found, classified, outdated⟩
  · intro name agreed
    rw [files]
    split
    · rename_i member
      rw [List.mem_filter, not_and, Bool.not_eq_true, Option.isSome_eq_false_iff,
        Option.isNone_iff_eq_none] at agreed
      rw [agreed member, Option.map_none, Option.none_or]
    · rfl
  · intro name disagreed
    obtain ⟨member, written⟩ := List.mem_filter.mp disagreed
    obtain ⟨changed, written⟩ := Option.isSome_iff_exists.mp written
    obtain ⟨file, found, known⟩ := survey.found name member
    obtain ⟨record, rfl, same, _⟩ := migration_eq_some found known written
    refine ⟨record, changed, found, ?_, same⟩
    rw [files, if_pos member, written]
    rfl
  · intro host environ outDir repetitions clients produced run
    exact reclassify_of_produces rfl
      (fun job known => runV18_evaluationJob host environ outDir repetitions known) run
  · intro host environ outDir repetitions selected produced run
    exact reclassify_of_produces rfl
      (fun job known => runE8_evaluationJob host environ outDir repetitions known) run

/-- A record with an outdated selection type is migrated once. -/
theorem reclassify_migrates_sample : ∃ (record evaluated : RunRecord) (after : Directory),
    WrittenByEvaluation evaluated ∧ SameButLabels record evaluated ∧
      reclassify (Dict.empty.set "openssl_client-default-v18_r01_botan.json" (.record record)) =
        .ok (1, after) ∧
      reclassify after = .ok (0, after) := by
  obtain ⟨evaluated, rest, returned, runId, fault⟩ := evaluateV18_surveyRun summarizeHellos_canonical
  have written : WrittenByEvaluation evaluated := ⟨_, _, _, _, _, _, _, returned⟩
  obtain ⟨_, _, original, _⟩ := evaluateV18_stores returned
  let record := relabel evaluated ("unparsed", "")
  let runDir : Directory := Dict.empty.set "openssl_client-default-v18_r01_botan.json" (.record record)
  have found (name : String) : runDir.get? name =
      if name = "openssl_client-default-v18_r01_botan.json" then some (.record record) else none :=
    Dict.get?_set _ _ _ _
  have same : SameButLabels record evaluated := relabel_sameButLabels _ _
  have survey : SurveyDirectory runDir := by
    apply SurveyDirectory.single written same
    rw [show record.runId = evaluated.runId from rfl, runId]
    rfl
  obtain ⟨⟨disagreeing, after, distinct, members, first, _, _, _, second⟩, _⟩ :=
    reclassify_migrates survey
  have only : disagreeing = ["openssl_client-default-v18_r01_botan.json"] := by
    apply List.perm_singleton.mp
    rw [List.perm_ext_iff_of_nodup distinct (List.nodup_singleton _)]
    intro name
    rw [members, List.mem_singleton, mem_jsonPaths]
    constructor
    · intro ⟨⟨_, file, known⟩, _⟩
      rw [found] at known
      by_contra other
      rw [if_neg other] at known
      cases known
    · rintro rfl
      refine ⟨⟨⟨by decide, by decide⟩, _, rfl⟩, by decide, record, rfl, ?_, ?_⟩
      · rw [show record.faultType = evaluated.faultType from rfl, fault]
        decide
      · exact relabel_outdated original.toStoredLists (by decide)
  rw [only] at first
  exact ⟨record, evaluated, after, written, same, first, second⟩

end FaultInject.V18
