import FaultInject.Proof.Artifacts
import FaultInject.Proof.Tables

/-
This file recomputes the audits of a finished run. Each of its rounds has a log, so no audit is
unknown, and the table counts every round.
-/

namespace FaultInject.Audit
open Python Record Analyze

/-- These are the entries of an audit that the table shows. -/
def warningOf (audit : Dict String Value) : Value := (audit.get? "explicit_warning").getD .none

def mismatchOf (audit : Dict String Value) : Value :=
  (audit.get? "mismatch_in_single_output").getD .none

/-- These are the audits of records from the files of a directory. -/
def auditsIn (search : Search) (tsharkSummary : String → Option String) (runDir : Directory)
    (record : RunRecord) : Dict String Value := auditRecord search tsharkSummary record runDir

/-- This is the row of a record with an audit. -/
def auditOf (audits : RunRecord → Dict String Value) (record : RunRecord) : RecordAudit where
  runId := record.runId
  implementation := record.implementation
  condition := record.condition
  audit := audits record

section Recompute
variable {search : Search} {tsharkSummary : String → Option String} {runDir : Directory}
  {record : RunRecord}

/-- The recomputed rows are those of the loaded records. -/
theorem recompute_eq {records : List RunRecord} (loaded : loadRecords runDir = .ok records) :
    recompute search tsharkSummary runDir =
      .ok (records.map (auditOf (auditsIn search tsharkSummary runDir))) := by
  rw [loadRecords, mapM_eq_ok] at loaded
  rw [recompute, mapM_eq_ok, List.forall₂_map_right_iff]
  apply loaded.imp
  intro path record read
  rw [read, ok_bind]
  rfl

/-- The audit tells whether there is a warning or a mismatch. -/
structure Told (audit : Dict String Value) : Prop where
  warning : ∃ flag, audit.get? "explicit_warning" = some (.bool flag)
  mismatch : audit.get? "mismatch_in_single_output" = some (.bool true) ∨
    audit.get? "mismatch_in_single_output" = some (.str "unsupported")

section Told
variable {audit : Dict String Value}

theorem Told.warningOf (told : Told audit) : ∃ flag, Audit.warningOf audit = .bool flag := by
  obtain ⟨flag, found⟩ := told.warning
  exact ⟨flag, by rw [Audit.warningOf, found]; rfl⟩

theorem Told.get?_warning (told : Told audit) :
    audit.get? "explicit_warning" = some (Audit.warningOf audit) := by
  obtain ⟨flag, found⟩ := told.warning
  rw [Audit.warningOf, found]
  rfl

theorem Told.mismatchOf (told : Told audit) :
    Audit.mismatchOf audit = .bool true ∨ Audit.mismatchOf audit = .str "unsupported" := by
  unfold Audit.mismatchOf
  rcases told.mismatch with found | found
  · exact .inl (by rw [found]; rfl)
  · exact .inr (by rw [found]; rfl)

theorem Told.get?_mismatch (told : Told audit) :
    audit.get? "mismatch_in_single_output" = some (Audit.mismatchOf audit) := by
  unfold Audit.mismatchOf
  rcases told.mismatch with found | found <;>
    · rw [found]
      rfl

/-- The table counts what the comparison of the matrix counts. -/
theorem Told.trueAt_warning (told : Told audit) :
    showsAs "True" (Audit.warningOf audit) = trueAt audit "explicit_warning" := by
  obtain ⟨flag, found⟩ := told.warning
  rw [Audit.warningOf, trueAt, found]
  cases flag <;> rfl

theorem Told.trueAt_mismatch (told : Told audit) :
    showsAs "True" (Audit.mismatchOf audit) = trueAt audit "mismatch_in_single_output" := by
  rcases told.mismatch with found | found <;>
    · rw [Audit.mismatchOf, trueAt, found]
      rfl

end Told

/-- An output either has a mismatch or does not support one. -/
theorem mismatch_auditText (search : Search) (text : String) :
    (auditText search (some text)).mismatchInSingleOutput.isTrue = true ∨
      (auditText search (some text)).mismatchInSingleOutput.isText "unsupported" = true := by
  rw [auditText]
  dsimp only
  split
  · exact .inl rfl
  · exact .inr rfl

/-- A summary over an output that is there tells both. -/
theorem told_of_summary {paths : List (String × PathAudit)} {name text : String}
    (present : (name, auditText search (some text)) ∈ paths) (base : Dict String Value) :
    Told ((summarizePaths paths).foldl (fun audit entry => audit.set entry.1 entry.2) base) := by
  have warned : some (search warningRe text).isSome ∈ paths.map fun path => path.2.explicitWarning :=
    List.mem_map.mpr ⟨_, present, rfl⟩
  have matched : (auditText search (some text)).mismatchInSingleOutput ∈
      paths.map fun path => path.2.mismatchInSingleOutput := List.mem_map.mpr ⟨_, present, rfl⟩
  constructor
  · simp only [summarizePaths, List.foldl_cons, List.foldl_nil, Dict.get?_set, if_true]
    cases flag : (search warningRe text).isSome with
    | true =>
        rw [flag] at warned
        exact ⟨true, by simp [warned]⟩
    | false =>
        rw [flag] at warned
        by_cases other : some true ∈ paths.map fun path => path.2.explicitWarning
        · exact ⟨true, by simp [other]⟩
        · exact ⟨false, by simp [other, warned]⟩
  · simp only [summarizePaths, List.foldl_cons, List.foldl_nil, Dict.get?_set, if_true]
    by_cases seen : (paths.map fun path => path.2.mismatchInSingleOutput).any Value.isTrue
    · left
      simp [seen]
    · right
      have unsupported : (paths.map fun path => path.2.mismatchInSingleOutput).any
          (Value.isText "unsupported") = true := by
        apply List.any_eq_true.mpr
        refine ⟨_, matched, (mismatch_auditText search text).resolve_left fun found => ?_⟩
        exact seen (List.any_eq_true.mpr ⟨_, matched, found⟩)
      simp [seen, unsupported]

theorem told_of_log {text : String} (read : readArtifact record runDir "client_log" = some text) :
    Told (auditsIn search tsharkSummary runDir record) := by
  rw [auditsIn, auditRecord, read]
  exact told_of_summary List.mem_cons_self _

/-- The log of a client that the scenario left is read. -/
theorem readArtifact_of_left {spec : Harness.ScenarioSpec} (label : Matrix.OfSpec spec record)
    (left : Matrix.Left runDir (Matrix.identifier spec)) :
    ∃ text, readArtifact record runDir "client_log" = some text := by
  have named : record.artifacts.get? "client_log" = some s!"{Matrix.identifier spec}-client.log" := by
    rw [label.artifacts, Harness.scenarioArtifacts]
    split <;> split <;> simp [Dict.get?_set]
  obtain ⟨file, present⟩ := Option.isSome_iff_exists.mp
    (left s!"{Matrix.identifier spec}-client.log" (by simp [Matrix.leftNames]))
  refine ⟨file.readTextReplace, ?_⟩
  unfold readArtifact
  rw [named]
  dsimp only
  rw [if_neg, present]
  · rfl
  · intro empty
    exact absurd (String.append_eq_empty_iff.mp empty).2 (by decide)

end Recompute

section Table
variable {audits : RunRecord → Dict String Value} {loaded records : List RunRecord}
  {keys : List (String × String)} {width : Nat}

/-- All audits of a count tell both. -/
structure Decided (count : AuditCount) (width : Nat) : Prop where
  n : count.n = width
  warning : count.warningTrue + count.warningFalse = width
  warningNone : count.warningNone = 0
  mismatch : count.mismatchTrue + count.mismatchUnsupported = width
  mismatchNone : count.mismatchNone = 0

theorem Decided.add {count : AuditCount} (decided : Decided count width)
    {audit : Dict String Value} (told : Told audit) :
    Decided (count.add (warningOf audit) (mismatchOf audit)) (width + 1) := by
  obtain ⟨n, warned, warnedNone, matched, matchedNone⟩ := decided
  obtain ⟨flag, warning⟩ := told.warningOf
  have flagged : (showsAs "True" (.bool flag)).toNat + (showsAs "False" (.bool flag)).toNat = 1 ∧
      (showsAs "None" (.bool flag)).toNat = 0 := by
    cases flag <;> decide
  have supported : (showsAs "True" (mismatchOf audit)).toNat +
      (showsAs "unsupported" (mismatchOf audit)).toNat = 1 ∧
        (showsAs "None" (mismatchOf audit)).toNat = 0 := by
    rcases told.mismatchOf with same | same <;>
      · rw [same]
        decide
  rw [warning]
  constructor <;> simp only [AuditCount.add] <;> omega

/-- This is one round of the loop of the table for a record. -/
def addAudit (audits : RunRecord → Dict String Value) (count : AuditCount) (record : RunRecord) :
    AuditCount := count.add (warningOf (audits record)) (mismatchOf (audits record))

/-- This is the count of a row of the table. -/
def auditCount (audits : RunRecord → Dict String Value) (records : List RunRecord)
    (key : String × String) : AuditCount :=
  (records.filter fun record => conditionKey record = key).foldl (addAudit audits) {}

theorem addAudit_right_comm (count : AuditCount) (first second : RunRecord) :
    addAudit audits (addAudit audits count first) second =
      addAudit audits (addAudit audits count second) first := by
  simp only [addAudit, AuditCount.add, Nat.add_right_comm]

theorem auditCount_perm (perm : loaded.Perm records) (key : String × String) :
    auditCount audits loaded key = auditCount audits records key :=
  (perm.filter _).foldl_eq'
    (fun first _ second _ count => addAudit_right_comm count first second) {}

theorem decided_foldl (told : ∀ record ∈ records, Told (audits record)) {count : AuditCount}
    (decided : Decided count width) :
    Decided (records.foldl (addAudit audits) count) (width + records.length) := by
  induction records generalizing count width with
  | nil => exact decided
  | cons record records ih =>
      rw [List.foldl_cons, List.length_cons, Nat.add_comm records.length, ← Nat.add_assoc]
      apply ih fun other member => told other (List.mem_cons_of_mem _ member)
      exact decided.add (told record List.mem_cons_self)

/-- The count of a row tells both for each of its records. -/
theorem decided_auditCount (told : ∀ record ∈ records, Told (audits record)) (key : String × String) :
    Decided (auditCount audits records key)
      (records.countP fun record => conditionKey record = key) := by
  rw [List.countP_eq_length_filter, ← Nat.zero_add (List.length _)]
  apply decided_foldl fun record member => told record (List.mem_of_mem_filter member)
  exact ⟨rfl, rfl, rfl, rfl, rfl⟩

theorem countAudit_foldlM (told : ∀ record ∈ records, Told (audits record))
    (out : Dict (String × String) AuditCount) :
    (records.map (auditOf audits)).foldlM countAudit out =
      .ok (Dict.tally conditionKey {} (addAudit audits) records out) := by
  induction records generalizing out with
  | nil => rfl
  | cons record records ih =>
      have own := told record List.mem_cons_self
      rw [List.map_cons, List.foldlM_cons, countAudit, auditOf,
        Dict.getItem_eq_ok.mpr own.get?_warning, ok_bind, Dict.getItem_eq_ok.mpr own.get?_mismatch,
        ok_bind, ok_bind, ih fun other member => told other (List.mem_cons_of_mem _ member)]
      rfl

def tableHeader : List String :=
  ["| implementation | condition | n | warning true/false/unknown | " ++
      "single-output true/unsupported/unknown |", "|---|---|---:|---|---|"]

/-- The table has the keys in order with the counts of their records. -/
theorem renderMarkdown_eq (positive : 0 < width) (distinct : keys.Nodup)
    (perm : loaded.Perm records) (told : ∀ record ∈ records, Told (audits record))
    (counted : Run.Counted keys width fun key =>
      records.countP fun record => conditionKey record = key) :
    renderMarkdown (loaded.map (auditOf audits)) = .ok ("\n".intercalate (tableHeader ++
      (sortedCells keys).map fun key => auditRow (key, auditCount audits records key))) := by
  have rows : sortedRows (Dict.tally conditionKey {} (addAudit audits) loaded .empty) =
      (sortedCells keys).map fun key => (key, auditCount audits records key) := by
    obtain ⟨found, absent⟩ := Run.rows_of_counted perm positive counted
    rw [← funext (auditCount_perm perm)]
    exact sortedRows_eq distinct found absent
  rw [renderMarkdown, countAudit_foldlM fun record member => told record (perm.mem_iff.mp member),
    ok_bind, rows, List.map_map]
  rfl

end Table

end FaultInject.Audit

namespace FaultInject.Run
open Python Record Analyze
open FaultInject.Audit (Search auditsIn auditOf auditCount auditRow tableHeader Decided)

section Finished
variable {evidence : VerifyApplied.Evidence} {start : Directory} {environ : Dict String String}
  {specs : List Harness.ScenarioSpec} {outcomes : List Harness.Outcome} {batch : Batch}
  {repetitions : Int}

/-- The recomputed audits of finished conditions are those of their records. The table has one row
for each planned condition. Each of its audits is counted, and none is unknown. -/
theorem finished_auditTable (search : Search) (tsharkSummary : String → Option String)
    (planned : v11Specs repetitions environ = .ok specs) (positive : 1 ≤ repetitions)
    (fresh : start.glob "*.json" = [])
    (reached : Transition.run (Batch.step evidence) (.initial specs start) outcomes = some batch)
    (finished : batch.Finished) :
    ∃ rows, Audit.recompute search tsharkSummary batch.outDir = .ok rows ∧
      rows.Perm (batch.records.map (auditOf (auditsIn search tsharkSummary batch.outDir))) ∧
      Audit.renderMarkdown rows = .ok ("\n".intercalate (tableHeader ++
        (sortedCells Identity.v11Cells).map fun cell => auditRow
          (cell, auditCount (auditsIn search tsharkSummary batch.outDir) batch.records cell))) ∧
      ∀ cell ∈ Identity.v11Cells, Decided (auditCount (auditsIn search tsharkSummary batch.outDir)
        batch.records cell) repetitions.toNat := by
  obtain ⟨done, loaded, complete, read, perm, counted⟩ :=
    finished_conditions planned fresh reached finished
  have conditions : (VerifiedRun.v11 repetitions).specs environ = .ok specs := planned
  have left := allLeft_of_run (fun spec member => VerifiedRun.observed conditions member) reached
    finished.raised specs (by rw [finished.todo, List.append_nil])
  have told : ∀ record ∈ batch.records,
      Audit.Told (auditsIn search tsharkSummary batch.outDir record) := by
    intro record member
    obtain ⟨round, _, inside, kept⟩ := complete.round_of_mem member
    obtain ⟨text, log⟩ := Audit.readArtifact_of_left kept.kept.ofSpec (left _ inside)
    exact Audit.told_of_log log
  refine ⟨_, Audit.recompute_eq read, perm.map _, ?_, ?_⟩
  · exact Audit.renderMarkdown_eq (by omega) (by decide) perm told counted
  · intro cell known
    rw [← counted.inside cell known]
    exact Audit.decided_auditCount told cell

end Finished

/-- These searches find nothing. -/
def silentSearch : Search := fun _ _ => none

/-- One round of each condition counts one output without a warning. -/
theorem finished_auditTable_sample : ∃ batch rows,
    Transition.run (Batch.step emptyEvidence) (.initial sampleConditions .empty)
      (sampleConditions.map conditionOutcome) = some batch ∧
    Audit.recompute silentSearch (fun _ => none) batch.outDir = .ok rows ∧
    (auditCount (auditsIn silentSearch (fun _ => none) batch.outDir) batch.records
      ("openssh", "ssh-order")).warningNone = 0 := by
  obtain ⟨batch, reached, finished⟩ := exists_finished_conditions sampleConditions_planned
  obtain ⟨rows, recomputed, _, _, decided⟩ := finished_auditTable silentSearch (fun _ => none)
    sampleConditions_planned (by decide) rfl reached finished
  exact ⟨batch, rows, reached, recomputed, (decided ("openssh", "ssh-order") (by decide)).warningNone⟩

end FaultInject.Run

namespace FaultInject.Matrix
open Python Record V12 Analyze
open FaultInject.Audit (Search auditsIn auditOf auditCount auditRow tableHeader Decided Told)

section Settings
variable {context : Context} {settings versions : List String} {groups : String}
  {runDir : Directory} {events : List Event} {state : State} {records loaded : List RunRecord}

/-- This is the key of the table of the audits for a cell of the matrix. -/
def auditCell (cell : Cell) : Cell := ("openssl", s!"{cell.1}-{cell.2}")

/-- The record has the labels of a cell and its audit from the files of the directory. -/
structure Audited (context : Context) (runDir : Directory) (record : RunRecord) : Prop where
  cell : ∃ cell, conditionKey record = auditCell cell ∧
    V12.splitCondition record.condition = .ok cell
  audit : record.audit = auditsIn context.search context.tsharkSummary runDir record
  told : Told record.audit

/-- The audit of an evaluated record is the one of its files. -/
theorem audit_of_evaluateV12 {search : Search} {tsharkSummary : String → Option String}
    {provenance : Dict String Value} {record evaluated : RunRecord} {after : Directory}
    (returned : evaluateV12 search tsharkSummary record runDir provenance = .ok (evaluated, after)) :
    evaluated.audit = auditsIn search tsharkSummary runDir record := by
  obtain ⟨metrics, _, returned⟩ := bind_eq_ok.mp returned
  obtain ⟨clientLog, _, same⟩ := bind_eq_ok.mp returned
  cases same
  rfl

/-- A finished round of the matrix is audited. -/
theorem audited_of_kept {job : Job} {record : RunRecord}
    (known : ((MatrixRun.v12 settings versions groups).plan context).Contains job)
    (kept : Kept runDir job record) (left : Left runDir (identifier job.spec)) :
    Audited context runDir record := by
  obtain ⟨paths, hashes, version, setting, repetition, inputs, made, evaluates⟩ :=
    runV12_job _ _ _ _ known
  have again := kept.again
  rw [evaluates] at again
  obtain ⟨provenance, _, again⟩ := bind_eq_ok.mp again
  have audit := audit_of_evaluateV12 again
  obtain ⟨text, log⟩ := Audit.readArtifact_of_left kept.ofSpec left
  refine ⟨⟨(version, setting), ?_, ?_⟩, audit, audit ▸ Audit.told_of_log log⟩
  · rw [conditionKey, kept.ofSpec.implementation, kept.ofSpec.condition]
    simp only [v12Spec, bind_eq_ok, Except.ok.injEq] at made
    obtain ⟨_, _, _, _, _, _, _, _, _, _, _, _, same⟩ := made
    rw [← same]
    rfl
  · obtain ⟨_, item, made⟩ := bind_eq_ok.mp made
    simp only [bind_eq_ok, Except.ok.injEq] at made
    obtain ⟨_, _, _, _, _, _, _, _, _, _, same⟩ := made
    rw [kept.ofSpec.condition, ← same]
    exact Identity.splitCondition_setting version item

section Cells
variable {cells : List Cell} {repetitions : Int} {cell : Cell}

/-- The key of a cell with a record belongs to no other cell. -/
theorem conditionKey_iff (audited : ∀ record ∈ records, Audited context runDir record)
    {own record : RunRecord} (member : own ∈ records)
    (divided : V12.splitCondition own.condition = .ok cell) (inside : record ∈ records) :
    conditionKey record = auditCell cell ↔ V12.splitCondition record.condition = .ok cell := by
  constructor
  · intro same
    obtain ⟨other, key, parts⟩ := (audited own member).cell
    rw [divided, Except.ok.injEq] at parts
    rw [← parts, ← same] at key
    have condition : own.condition = record.condition := congrArg Prod.snd key
    rw [← condition, divided]
  · intro parts
    obtain ⟨other, key, divided⟩ := (audited record inside).cell
    rw [parts, Except.ok.injEq] at divided
    rw [key, divided]

/-- The records of a cell are those with its key. -/
theorem cellRecords_eq (audited : ∀ record ∈ records, Audited context runDir record)
    (complete : ∀ record ∈ records, Complete record ∧ record.faultType = "server-setting")
    {own : RunRecord} (member : own ∈ records)
    (divided : V12.splitCondition own.condition = .ok cell) :
    cellRecords cell records = records.filter fun record => conditionKey record = auditCell cell := by
  apply List.filter_congr
  intro record inside
  obtain ⟨whole, fault⟩ := complete record inside
  rw [Bool.eq_iff_iff, whole.ofCell_iff fault, decide_eq_true_eq,
    conditionKey_iff audited member divided inside]

/-- A planned cell has a record. -/
theorem exists_of_counted
    (complete : ∀ record ∈ records, Complete record ∧ record.faultType = "server-setting")
    (positive : 1 ≤ repetitions)
    (counted : ∀ cell, ((cellRecords cell records).map RunRecord.repetition).Perm
      (if cell ∈ cells then repetitionRange repetitions.toNat else [])) (known : cell ∈ cells) :
    ∃ own ∈ records, V12.splitCondition own.condition = .ok cell := by
  have width := (counted cell).length_eq
  rw [if_pos known, length_repetitionRange, List.length_map] at width
  obtain ⟨own, member⟩ := List.exists_mem_of_length_pos (by omega : 0 < (cellRecords cell records).length)
  rw [cellRecords, List.mem_filter] at member
  obtain ⟨whole, fault⟩ := complete own member.1
  exact ⟨own, member.1, (whole.ofCell_iff fault).mp member.2⟩

/-- The keys of the planned cells are distinct. -/
theorem nodup_auditCells (audited : ∀ record ∈ records, Audited context runDir record)
    (complete : ∀ record ∈ records, Complete record ∧ record.faultType = "server-setting")
    (positive : 1 ≤ repetitions) (distinct : cells.Nodup)
    (counted : ∀ cell, ((cellRecords cell records).map RunRecord.repetition).Perm
      (if cell ∈ cells then repetitionRange repetitions.toNat else [])) :
    (cells.map auditCell).Nodup := by
  apply distinct.map_on
  intro first known second other same
  obtain ⟨own, member, divided⟩ := exists_of_counted complete positive counted known
  obtain ⟨third, last, parts⟩ := exists_of_counted complete positive counted other
  have key := (conditionKey_iff audited member divided member).mpr divided
  rw [same, conditionKey_iff audited last parts member, divided] at key
  exact Except.ok.inj key

/-- Each key of a planned cell has one record for each repetition, and other keys have none. -/
theorem counted_auditCells (audited : ∀ record ∈ records, Audited context runDir record)
    (complete : ∀ record ∈ records, Complete record ∧ record.faultType = "server-setting")
    (positive : 1 ≤ repetitions)
    (counted : ∀ cell, ((cellRecords cell records).map RunRecord.repetition).Perm
      (if cell ∈ cells then repetitionRange repetitions.toNat else [])) :
    Run.Counted (cells.map auditCell) repetitions.toNat fun key =>
      records.countP fun record => conditionKey record = key := by
  constructor
  · intro key member
    obtain ⟨cell, known, rfl⟩ := List.mem_map.mp member
    obtain ⟨own, member, divided⟩ := exists_of_counted complete positive counted known
    have width := (counted cell).length_eq
    rw [if_pos known, length_repetitionRange, List.length_map,
      cellRecords_eq audited complete member divided] at width
    rw [List.countP_eq_length_filter, width]
  · intro key unknown
    apply List.countP_eq_zero.mpr
    intro record member same
    obtain ⟨cell, own, divided⟩ := (audited record member).cell
    obtain ⟨whole, fault⟩ := complete record member
    have inside : record ∈ cellRecords cell records :=
      List.mem_filter.mpr ⟨member, (whole.ofCell_iff fault).mpr divided⟩
    have repetition := (counted cell).mem_iff.mp (List.mem_map_of_mem inside)
    split at repetition
    · rename_i known
      rw [← of_decide_eq_true same, own] at unknown
      exact unknown (List.mem_map_of_mem known)
    · cases repetition

/-- The table of the audits and the comparison of the matrix count the same audits. -/
theorem auditCount_cellCount (audited : ∀ record ∈ records, Audited context runDir record)
    (complete : ∀ record ∈ records, Complete record ∧ record.faultType = "server-setting")
    {own : RunRecord} (member : own ∈ records)
    (divided : V12.splitCondition own.condition = .ok cell) :
    (auditCount RunRecord.audit records (auditCell cell)).warningTrue =
        (cellCount runDir records cell).explicitWarning ∧
      (auditCount RunRecord.audit records (auditCell cell)).mismatchTrue =
        (cellCount runDir records cell).mismatchInSingleOutput := by
  have told : ∀ record ∈ cellRecords cell records, Told record.audit := fun record inside =>
    (audited record (List.mem_of_mem_filter inside)).told
  rw [auditCount, ← cellRecords_eq audited complete member divided, cellCount]
  constructor
  · rw [foldl_counter Audit.AuditCount.warningTrue _ fun _ _ => rfl,
      foldl_counter Count.explicitWarning _ fun _ _ => rfl]
    apply congrArg
    apply List.countP_congr
    intro record inside
    rw [(told record inside).trueAt_warning]
  · rw [foldl_counter Audit.AuditCount.mismatchTrue _ fun _ _ => rfl,
      foldl_counter Count.mismatchInSingleOutput _ fun _ _ => rfl]
    apply congrArg
    apply List.countP_congr
    intro record inside
    rw [(told record inside).trueAt_mismatch]

end Cells

/-- The audits of a finished matrix are recomputed as they are stored. The table has one row for
each planned cell with all its repetitions, and counts what the comparison counts. -/
theorem finished_recompute
    (distinct : (MatrixRun.v12 settings versions groups).Distinct)
    (reached : Transition.run (step ((MatrixRun.v12 settings versions groups).plan context))
      (.initial runDir) events = some state)
    (finished : Finished state) (positive : 1 ≤ context.repetitions) :
    ∃ rows, Audit.recompute context.search context.tsharkSummary state.runDir = .ok rows ∧
      rows.Perm (state.records.map (auditOf RunRecord.audit)) ∧
      Audit.renderMarkdown rows = .ok ("\n".intercalate (tableHeader ++
        (sortedCells ((versions ×ˢ settings).map auditCell)).map fun key =>
          auditRow (key, auditCount RunRecord.audit state.records key))) ∧
      ∀ cell ∈ versions ×ˢ settings,
        Decided (auditCount RunRecord.audit state.records (auditCell cell))
          context.repetitions.toNat ∧
        (auditCount RunRecord.audit state.records (auditCell cell)).warningTrue =
          (cellCount state.runDir state.records cell).explicitWarning ∧
        (auditCount RunRecord.audit state.records (auditCell cell)).mismatchTrue =
          (cellCount state.runDir state.records cell).mismatchInSingleOutput := by
  obtain ⟨done, kept, planned⟩ := finished_progress distinct reached finished
  obtain ⟨loaded, read, perm, complete, counted⟩ := finished_settings distinct reached finished
  have fresh : (MatrixRun.v12 settings versions groups).Fresh := trivial
  have audited : ∀ record ∈ state.records, Audited context state.runDir record := by
    intro record member
    obtain ⟨job, inside, own⟩ := exists_of_mem_forall₂ kept.flip member
    have known : ((MatrixRun.v12 settings versions groups).plan context).Contains job :=
      ⟨_, planned, List.mem_map_of_mem inside⟩
    exact audited_of_kept known own
      (left_of_finished fresh reached finished own (MatrixRun.plain known))
  have stored : loaded.map (auditOf (auditsIn context.search context.tsharkSummary state.runDir)) =
      loaded.map (auditOf RunRecord.audit) := by
    apply List.map_congr_left
    intro record member
    rw [auditOf, auditOf, (audited record (perm.mem_iff.mp member)).audit]
  have told : ∀ record ∈ state.records, Told record.audit := fun record member =>
    (audited record member).told
  have keys := nodup_auditCells audited complete positive (distinct.1.product distinct.2) counted
  have widths := counted_auditCells audited complete positive counted
  refine ⟨_, Audit.recompute_eq read, stored ▸ perm.map _, ?_, ?_⟩
  · rw [stored]
    exact Audit.renderMarkdown_eq (by omega) keys perm told widths
  · intro cell known
    obtain ⟨own, member, divided⟩ := exists_of_counted complete positive counted known
    refine ⟨?_, auditCount_cellCount audited complete member divided⟩
    rw [← widths.inside _ (List.mem_map_of_mem known)]
    exact Audit.decided_auditCount told _

end Settings

/-- Both repetitions of the one planned cell are counted. -/
theorem finished_recompute_sample : ∃ state rows,
    Transition.run (step (sampleRuns.plan sampleContext)) (.initial .empty) sampleRounds =
      some state ∧
    Audit.recompute sampleContext.search sampleContext.tsharkSummary state.runDir = .ok rows ∧
    (auditCount RunRecord.audit state.records ("openssl", "3.5.6-S1")).n = 2 := by
  obtain ⟨state, reached, finished⟩ := sampleRuns_finished
  obtain ⟨rows, recomputed, _, _, each⟩ :=
    finished_recompute sampleRuns_distinct reached finished (by decide)
  exact ⟨state, rows, reached, recomputed, (each ("3.5.6", "S1") (by decide)).1.n⟩

end FaultInject.Matrix
