import FaultInject.Proof.Comparison

namespace FaultInject.Analyze
open Python Record

/-- These facts make a record support its cell. -/
structure RecordHolds (runDir : Directory) (expected : Bool × String) (record : RunRecord) :
    Prop where
  precondition : record.metrics.clientPreconditionVerified = some true
  artifacts : ∀ name ∈ requiredArtifactsV12, ∃ path file,
    record.artifacts.get? name = some path ∧ path ≠ "" ∧ runDir.get? path = some file ∧
      0 < file.size
  serverHash : truthyAt record.provenance "server_bin_sha256" = true
  clientHash : truthyAt record.provenance "client_bin_sha256" = true
  success : record.metrics.handshakeResult = "success"
  agree : record.metrics.hrrLogPresent = record.metrics.hrrPcapPresent
  single : record.metrics.serverHelloCount = some 1
  hrr : record.metrics.hrrPcapPresent = some true ↔ expected.1 = true
  final : record.metrics.finalNegotiatedGroup = some expected.2

/-- A cell holds when its records have each repetition once and all support it. -/
structure CellHolds (runDir : Directory) (repetitions : Nat) (records : List RunRecord)
    (cell : Cell) (expected : Bool × String) : Prop where
  once : ((cellRecords cell records).map RunRecord.repetition).Perm (repetitionRange repetitions)
  each : ∀ record ∈ cellRecords cell records, RecordHolds runDir expected record

theorem nodup_repetitionRange (repetitions : Nat) : (repetitionRange repetitions).Nodup := by
  apply List.Nodup.map _ List.nodup_range
  intro first second same
  have shifted : (first : Int) + 1 = second + 1 := same
  omega

@[simp] theorem length_repetitionRange (repetitions : Nat) :
    (repetitionRange repetitions).length = repetitions := by
  rw [repetitionRange, List.length_map, List.length_range]

/-- A list has each repetition once exactly when it has their number and their set. -/
theorem perm_repetitionRange {values : List Int} {repetitions : Nat} :
    values.Perm (repetitionRange repetitions) ↔
      values.length = repetitions ∧ values.toFinset = repetitionSet repetitions := by
  have distinct := nodup_repetitionRange repetitions
  constructor
  · intro perm
    exact ⟨perm.length_eq.trans (length_repetitionRange repetitions),
      List.toFinset_eq_of_perm _ _ perm⟩
  · rintro ⟨count, same⟩
    -- The number of values equals the number of distinct values, so none occurs twice.
    have card : values.toFinset.card = values.length := by
      rw [same, repetitionSet, List.toFinset_card_of_nodup distinct, length_repetitionRange, count]
    have once : values.Nodup := Multiset.toFinset_card_eq_card_iff_nodup.mp card
    exact List.perm_of_nodup_nodup_toFinset_eq once distinct same

section Failures
variable {label : String} {count : Count} {repetitions : Nat} {hrrExpected : Bool}
  {finalExpected : String}

/-- A counted cell has no reason exactly when every comparison holds. -/
theorem countFailures_eq_nil :
    countFailures label count repetitions hrrExpected finalExpected = [] ↔
      (count.n = repetitions ∧ count.repetitions = repetitionSet repetitions) ∧
      (count.precondition = count.n ∧ count.artifactsComplete = count.n ∧
        count.provenanceComplete = count.n ∧ count.success = count.n ∧
        count.hrrAgree = count.n ∧ count.singleServerHello = count.n) ∧
      count.hrrPcap = (if hrrExpected then count.n else 0) ∧
      (if finalExpected = "X25519MLKEM768" then count.hybrid else count.classical) = count.n := by
  have missing {failed : Prop} [Decidable failed] {message : String} :
      (if failed then some message else none) = none ↔ ¬failed := by
    by_cases taken : failed <;> simp [taken]
  have optional {failed : Prop} [Decidable failed] {message : String} :
      (if failed then [message] else []) = [] ↔ ¬failed := by
    by_cases taken : failed <;> simp [taken]
  simp only [countFailures, List.append_eq_nil_iff, List.filterMap_eq_nil_iff, fieldLabels,
    List.forall_mem_cons, List.not_mem_nil, false_implies, implies_true, missing, optional, not_or,
    not_not, and_true, and_assoc]

/-- Every reason of a cell names the cell. -/
theorem label_of_mem_countFailures {message : String}
    (member : message ∈ countFailures label count repetitions hrrExpected finalExpected) :
    ∃ text, message = reason label text := by
  have optional {failed : Prop} [Decidable failed] {text : String}
      (inside : message ∈ if failed then [reason label text] else []) :
      ∃ text, message = reason label text := by
    split at inside
    · exact ⟨text, List.mem_singleton.mp inside⟩
    · cases inside
  simp only [countFailures, List.mem_append, List.mem_filterMap] at member
  rcases member with ((inside | ⟨entry, _, inside⟩) | inside) | inside
  · exact optional inside
  · split at inside
    · exact ⟨_, (Option.some.inj inside).symm⟩
    · cases inside
  · exact optional inside
  · exact optional inside

end Failures

section Cells
variable (runDir : Directory)

/-- All required artifacts are present exactly when each has a nonempty file. -/
theorem all_artifactPresent {record : RunRecord} :
    requiredArtifactsV12.all (artifactPresent runDir record) = true ↔
      ∀ name ∈ requiredArtifactsV12, ∃ path file, record.artifacts.get? name = some path ∧
        path ≠ "" ∧ runDir.get? path = some file ∧ 0 < file.size := by
  rw [List.all_eq_true]
  refine forall₂_congr fun name _ => ?_
  unfold artifactPresent
  cases record.artifacts.get? name with
  | none => simp
  | some path =>
      cases found : Dict.get? runDir path with
      | none => simp [Directory.isFile, Dict.contains, found]
      | some file => simp [Directory.isFile, Dict.contains, found]

section Records
variable (records : List RunRecord)

/-- The retry counter is full or empty as expected exactly when each record is as expected. -/
theorem hrrPcap_foldl (hrrExpected : Bool) :
    (records.foldl (Count.add runDir) {}).hrrPcap =
        (if hrrExpected then records.length else 0) ↔
      ∀ record ∈ records, record.metrics.hrrPcapPresent = some true ↔ hrrExpected = true := by
  cases hrrExpected with
  | true =>
      rw [if_pos rfl, counter_eq_length runDir records Count.hrrPcap rfl fun _ _ => rfl]
      simp
  | false =>
      rw [if_neg (by decide), foldl_counter Count.hrrPcap _ fun _ _ => rfl,
        Nat.add_eq_zero_iff, List.countP_eq_zero]
      simp

/-- The counter of the expected group is full exactly when each record has the group. -/
theorem final_foldl {finalExpected : String}
    (known : finalExpected = "X25519" ∨ finalExpected = "X25519MLKEM768") :
    (if finalExpected = "X25519MLKEM768" then (records.foldl (Count.add runDir) {}).hybrid
      else (records.foldl (Count.add runDir) {}).classical) = records.length ↔
      ∀ record ∈ records, record.metrics.finalNegotiatedGroup = some finalExpected := by
  rcases known with rfl | rfl
  · rw [if_neg (by decide),
      counter_eq_length runDir records Count.classical rfl fun _ _ => rfl]
    simp only [beq_iff_eq]
  · rw [if_pos rfl, counter_eq_length runDir records Count.hybrid rfl fun _ _ => rfl]
    simp only [beq_iff_eq]

/-- The counters of a cell reach its number of records exactly when its records support it. -/
theorem countFailures_foldl (label : String) (repetitions : Nat) {expected : Bool × String}
    (known : expected.2 = "X25519" ∨ expected.2 = "X25519MLKEM768") :
    countFailures label (records.foldl (Count.add runDir) {}) repetitions expected.1
        expected.2 = [] ↔
      (records.map RunRecord.repetition).Perm (repetitionRange repetitions) ∧
        ∀ record ∈ records, RecordHolds runDir expected record := by
  have n : (records.foldl (Count.add runDir) {}).n = records.length := by
    rw [n_foldl]
    exact Nat.zero_add _
  have seen : (records.foldl (Count.add runDir) {}).repetitions =
      (records.map RunRecord.repetition).toFinset := by
    rw [repetitions_foldl]
    exact Finset.union_empty _
  rw [countFailures_eq_nil, n, seen,
    counter_eq_length runDir records Count.precondition rfl fun _ _ => rfl,
    counter_eq_length runDir records Count.artifactsComplete rfl fun _ _ => rfl,
    counter_eq_length runDir records Count.provenanceComplete rfl fun _ _ => rfl,
    counter_eq_length runDir records Count.success rfl fun _ _ => rfl,
    counter_eq_length runDir records Count.hrrAgree rfl fun _ _ => rfl,
    counter_eq_length runDir records Count.singleServerHello rfl fun _ _ => rfl,
    hrrPcap_foldl, final_foldl runDir records known, perm_repetitionRange, List.length_map]
  simp only [beq_iff_eq, Bool.and_eq_true, all_artifactPresent]
  refine and_congr_right fun _ => ?_
  constructor
  · rintro ⟨⟨precondition, artifacts, hashes, success, agree, single⟩, hrr, final⟩ record member
    exact ⟨precondition record member, artifacts record member, (hashes record member).1,
      (hashes record member).2, success record member, agree record member,
      single record member, hrr record member, final record member⟩
  · intro each
    exact ⟨⟨fun record member => (each record member).precondition,
      fun record member => (each record member).artifacts,
      fun record member => ⟨(each record member).serverHash, (each record member).clientHash⟩,
      fun record member => (each record member).success,
      fun record member => (each record member).agree,
      fun record member => (each record member).single⟩,
      fun record member => (each record member).hrr,
      fun record member => (each record member).final⟩

end Records

variable {runDir} {records : List RunRecord} {repetitions : Nat}

/-- A cell has no reason exactly when it holds. -/
theorem cellFailures_eq_nil
    (labelled : ∀ record ∈ records, record.faultType = "server-setting" → Labelled record)
    (positive : 1 ≤ repetitions) (cell : Cell) {expected : Bool × String}
    (known : expected.2 = "X25519" ∨ expected.2 = "X25519MLKEM768") :
    cellFailures (Dict.tally keyOf {} (Count.add runDir) (counted records) Dict.empty)
        repetitions cell expected = [] ↔
      CellHolds runDir repetitions records cell expected := by
  rw [cellFailures, get?_comparison runDir cell labelled]
  by_cases none : cellRecords cell records = []
  · rw [if_pos none]
    constructor
    · intro impossible
      cases impossible
    · rintro ⟨once, _⟩
      have width := once.length_eq
      rw [none, length_repetitionRange] at width
      simp only [List.map_nil, List.length_nil] at width
      omega
  · rw [if_neg none]
    dsimp only
    rw [countFailures_foldl runDir _ _ _ known]
    exact ⟨fun holds => ⟨holds.1, holds.2⟩, fun holds => ⟨holds.once, holds.each⟩⟩

end Cells

/-- An expected matrix expects only the two final groups. -/
def ExpectsKnown (expected : Expected) : Prop :=
  ∀ entry ∈ expected.entries, entry.2.2 = "X25519" ∨ entry.2.2 = "X25519MLKEM768"

/-- This is what the matrix expects of a cell of its servers. Only the setting S3 tells the vulnerable
servers. -/
def expectation (vulnerable : List String) (cell : Cell) : Option (Bool × String) :=
  List.lookup cell.2 [("S1", (false, "X25519")), ("S2", (true, "X25519MLKEM768")),
    ("S3", if cell.1 ∈ vulnerable then (false, "X25519") else (true, "X25519MLKEM768"))]

/-- One round of the matrix assigns the three cells of its server. -/
theorem get?_expectedRound (vulnerable : List String) (out : Expected) (server : String)
    (cell : Cell) :
    Dict.get? (((out.set (server, "S1") (false, "X25519")).set (server, "S2")
        (true, "X25519MLKEM768")).set (server, "S3")
        (if server ∈ vulnerable then (false, "X25519") else (true, "X25519MLKEM768"))) cell =
      (if cell.1 = server then expectation vulnerable cell else none).or (out.get? cell) := by
  obtain ⟨name, setting⟩ := cell
  simp only [Dict.get?_set, Prod.mk.injEq, expectation, List.lookup_cons, List.lookup_nil]
  by_cases own : name = server
  · subst own
    by_cases third : setting = "S3"
    · simp [third]
    · by_cases second : setting = "S2"
      · simp [second]
      · by_cases first : setting = "S1"
        · simp [first]
        · simp [first, second, third, beq_eq_false_iff_ne.mpr]
  · simp [own]

/-- The matrix has the cells of its servers with their expectations, and no others. -/
theorem get?_expectedMatrix (vulnerable fixed : List String) (cell : Cell) :
    (expectedMatrix vulnerable fixed).get? cell =
      if cell.1 ∈ vulnerable ++ fixed then expectation vulnerable cell else none := by
  have run (servers : List String) (out : Expected) :
      Dict.get? (servers.foldl (fun out server =>
        let out := out.set (server, "S1") (false, "X25519")
        let out := out.set (server, "S2") (true, "X25519MLKEM768")
        out.set (server, "S3")
          (if server ∈ vulnerable then (false, "X25519") else (true, "X25519MLKEM768"))) out) cell =
        (if cell.1 ∈ servers then expectation vulnerable cell else none).or (out.get? cell) := by
    induction servers generalizing out with
    | nil => rw [List.foldl_nil, if_neg List.not_mem_nil, Option.none_or]
    | cons server servers ih =>
        rw [List.foldl_cons, ih, get?_expectedRound, ← Option.or_assoc]
        congr 1
        by_cases here : cell.1 = server
        · rw [if_pos here, here, if_pos List.mem_cons_self]
          split <;> simp
        · rw [if_neg here, Option.or_none]
          exact if_congr (by simp [here]) rfl rfl
  rw [expectedMatrix, run, Dict.get?_empty, Option.or_none]

theorem expectedMatrix_expectsKnown (vulnerable fixed : List String) :
    ExpectsKnown (expectedMatrix vulnerable fixed) := by
  rintro ⟨cell, value⟩ member
  rw [← Dict.get?_eq_some, get?_expectedMatrix, Option.ite_none_right_eq_some, expectation] at member
  obtain ⟨before, behind, whole, _⟩ := List.lookup_eq_some_iff.mp member.2
  have inside : (cell.2, value) ∈ [("S1", (false, "X25519")), ("S2", (true, "X25519MLKEM768")),
      ("S3", if cell.1 ∈ vulnerable then (false, "X25519") else (true, "X25519MLKEM768"))] := by
    rw [whole]
    exact List.mem_append_right _ List.mem_cons_self
  simp only [List.mem_cons, Prod.mk.injEq, List.not_mem_nil, or_false] at inside
  rcases inside with ⟨_, rfl⟩ | ⟨_, rfl⟩ | ⟨_, rfl⟩
  · exact .inl rfl
  · exact .inr rfl
  · split
    · exact .inl rfl
    · exact .inr rfl

/-- The reasons of the verdict are the reasons of the cells. -/
theorem cveVerdict_eq (counts : Counts) (repetitions : Nat) (expected : Expected) :
    cveVerdict counts repetitions expected =
      ((expected.entries.flatMap fun entry =>
        cellFailures counts repetitions entry.1 entry.2).isEmpty,
        expected.entries.flatMap fun entry => cellFailures counts repetitions entry.1 entry.2) := by
  have run (entries : List (Cell × (Bool × String))) (failures : List String) :
      entries.foldl (fun failures entry =>
        failures ++ cellFailures counts repetitions entry.1 entry.2) failures =
      failures ++ entries.flatMap fun entry =>
        cellFailures counts repetitions entry.1 entry.2 := by
    induction entries generalizing failures with
    | nil => simp
    | cons entry entries ih => rw [List.foldl_cons, ih, List.flatMap_cons, List.append_assoc]
  rw [cveVerdict, run, List.nil_append]

/-- Every reason of a cell names the cell. -/
theorem label_of_mem_cellFailures {counts : Counts} {repetitions : Nat} {cell : Cell}
    {expected : Bool × String} {message : String}
    (member : message ∈ cellFailures counts repetitions cell expected) :
    ∃ text, message = reason (cellLabel cell) text := by
  unfold cellFailures at member
  split at member
  · exact ⟨_, List.mem_singleton.mp member⟩
  · exact label_of_mem_countFailures member

/-- The verdict on a run directory is true exactly when every expected cell holds.
Otherwise its reasons name every cell that does not hold. -/
theorem cveVerdict_iff {runDir : Directory} {records : List RunRecord}
    (loaded : loadRecords runDir = .ok records)
    (labelled : ∀ record ∈ records, record.faultType = "server-setting" → Labelled record)
    {repetitions : Nat} (positive : 1 ≤ repetitions) (vulnerable fixed : List String) :
    ∃ counts verdict reasons, comparisonV12 runDir = .ok counts ∧
      cveVerdict counts repetitions (expectedMatrix vulnerable fixed) = (verdict, reasons) ∧
      ((verdict, reasons) = (true, []) ↔
        ∀ entry ∈ (expectedMatrix vulnerable fixed).entries,
          CellHolds runDir repetitions records entry.1 entry.2) ∧
      (verdict = false → reasons ≠ [] ∧
        ∀ entry ∈ (expectedMatrix vulnerable fixed).entries,
          ¬CellHolds runDir repetitions records entry.1 entry.2 →
            ∃ text, reason (cellLabel entry.1) text ∈ reasons) := by
  refine ⟨_, _, _, comparisonV12_eq runDir loaded labelled, cveVerdict_eq _ _ _, ?_, ?_⟩
  · rw [Prod.mk.injEq, List.isEmpty_iff, and_self, List.flatMap_eq_nil_iff]
    refine forall₂_congr fun entry member => ?_
    exact cellFailures_eq_nil labelled positive entry.1
      (expectedMatrix_expectsKnown vulnerable fixed entry member)
  · intro rejected
    refine ⟨fun none => ?_, fun entry member fails => ?_⟩
    · rw [none] at rejected
      cases rejected
    · have visible := mt (cellFailures_eq_nil labelled positive entry.1
        (expectedMatrix_expectsKnown vulnerable fixed entry member)).mp fails
      obtain ⟨message, inside⟩ := List.exists_mem_of_ne_nil _ visible
      obtain ⟨text, rfl⟩ := label_of_mem_cellFailures inside
      exact ⟨text, List.mem_flatMap.mpr ⟨entry, member, inside⟩⟩

/-- This is a record of a cell of the server 3.5.6 that supports its expectation. -/
def sampleRecord (setting group : String) (hrr : Bool) : RunRecord where
  runId := s!"openssl_server-setting_r01_3.5.6-{setting}"
  implementation := "openssl"
  faultType := "server-setting"
  repetition := 1
  condition := s!"3.5.6-{setting}"
  metrics := {
    negotiatedGroup := none
    isHybrid := false
    downgradeVisible := false
    handshakeResult := "success"
    hrrPcapPresent := some hrr
    hrrLogPresent := some hrr
    serverHelloCount := some 1
    finalNegotiatedGroup := some group
    clientPreconditionVerified := some true }
  manipulationVerified := true
  artifacts := requiredArtifactsV12.foldl (fun artifacts name => artifacts.set name name) .empty
  provenance := ["server_bin_sha256", "client_bin_sha256"].foldl
    (fun provenance key => provenance.set key (.str "00"))
    ((Dict.empty.set "server_version" (.str "3.5.6")).set "server_setting" (.str setting))

def sampleRecords : List RunRecord :=
  [sampleRecord "S1" "X25519" false, sampleRecord "S2" "X25519MLKEM768" true,
    sampleRecord "S3" "X25519MLKEM768" true]

def sampleDir : Directory :=
  sampleRecords.foldl Directory.toJsonPath
    (requiredArtifactsV12.foldl (fun runDir name => Dict.set runDir name (.bytes [0])) .empty)

theorem cveVerdict_iff_sample :
    CellHolds sampleDir 1 sampleRecords ("3.5.6", "S1") (false, "X25519") ∧
    CellHolds sampleDir 1 sampleRecords ("3.5.6", "S2") (true, "X25519MLKEM768") ∧
    CellHolds sampleDir 1 sampleRecords ("3.5.6", "S3") (true, "X25519MLKEM768") := by
  have loaded : loadRecords sampleDir = .ok sampleRecords := by
    have paths : sampleDir.jsonPaths = ["openssl_server-setting_r01_3.5.6-S1.json",
        "openssl_server-setting_r01_3.5.6-S2.json",
        "openssl_server-setting_r01_3.5.6-S3.json"] := by decide +kernel
    rw [loadRecords, paths]
    rfl
  have labelled : ∀ record ∈ sampleRecords, record.faultType = "server-setting" →
      Labelled record := by
    intro record member _
    simp only [sampleRecords, List.mem_cons, List.not_mem_nil, or_false] at member
    rcases member with rfl | rfl | rfl <;> exact ⟨_, _, rfl, rfl⟩
  have accepted : (comparisonV12 sampleDir).map (fun counts =>
      cveVerdict counts 1 (expectedMatrix [] ["3.5.6"])) = .ok (true, []) := by decide +kernel
  obtain ⟨counts, verdict, reasons, compared, returned, holds, _⟩ :=
    cveVerdict_iff loaded labelled (Nat.le_refl 1) [] ["3.5.6"]
  rw [compared] at accepted
  have each := holds.mp (returned.symm.trans (Except.ok.inj accepted))
  exact ⟨each (("3.5.6", "S1"), false, "X25519") (by decide),
    each (("3.5.6", "S2"), true, "X25519MLKEM768") (by decide),
    each (("3.5.6", "S3"), true, "X25519MLKEM768") (by decide)⟩

end FaultInject.Analyze
