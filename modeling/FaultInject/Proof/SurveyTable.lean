import FaultInject.Proof.Reclassify
import FaultInject.Proof.Tables

/-
This file shows the table of a survey after the migration. Its rows count the records with the class
of their lists, whatever labels were stored before.
-/

namespace FaultInject.V18
open Python Record PcapHello FaultInject.Matrix V16

/-- These are the client and the server, the class, the groups and the shares of a row. -/
abbrev ClassRow := String × String × String × String

def rowTexts (row : ClassRow) : List String := [row.1, row.2.1, row.2.2.1, row.2.2.2]

theorem rowTexts_injective : Function.Injective rowTexts := by
  intro first second same
  simp only [rowTexts, List.cons.injEq, and_true] at same
  exact Prod.ext same.1 (Prod.ext same.2.1 (Prod.ext same.2.2.1 same.2.2.2))

/-- These are the different rows in the order of the table. -/
def sortedRows (rows : List ClassRow) : List ClassRow := rows.dedup.insertionSort (KeyLe rowTexts)

def v18Header : List String :=
  ["| client | classification | supported_groups (order) | key_share | runs |",
    "|---|---|---|---|---:|"]

/-- This is the row of a client that sends these codes to the server. -/
def rowOf (client server : String) (groups shares : List Nat) : ClassRow :=
  (s!"{client} -> {server}", classify (groupNamesOf groups) (groupNamesOf shares),
    join ',' (groupNamesOf groups), join ',' (groupNamesOf shares))

/-- The record stores the client, the server and the names of the codes. -/
structure Sent (record : RunRecord) (client server : String) (groups shares : List Nat) : Prop
    extends StoredLists record (groupNamesOf groups) (groupNamesOf shares) server where
  storedClient : record.provenance.get? "client" = some (.str client)

/-- The row has the class of the lists that the record stores. -/
def CountedAs (record : RunRecord) (row : ClassRow) : Prop :=
  ∃ client server groups shares, Sent record client server groups shares ∧
    row = rowOf client server groups shares

section Records
variable {record other : RunRecord} {client server : String} {groups shares : List Nat}

/-- An evaluation stores its client and the names of the first ClientHello. -/
theorem evaluateV18_sent {host : String → Option Bytes} {environ : Dict String String}
    {input : RunRecord} {runDir after : Directory}
    (returned : evaluateV18 host environ input runDir client server = .ok (record, after)) :
    ∃ summary, captureSummary runDir input = .ok summary ∧
      Sent record client server (firstHello summary).1 (firstHello summary).2 := by
  obtain ⟨summary, captured, stores, _⟩ := evaluateV18_stores returned
  refine ⟨summary, captured, stores.toStoredLists, ?_⟩
  obtain ⟨_, _, returned⟩ := bind_eq_ok.mp returned
  obtain ⟨candidate, _, returned⟩ := bind_eq_ok.mp returned
  split at returned
  on_goal 2 => obtain ⟨serverCmd, _, returned⟩ := bind_eq_ok.mp returned
  all_goals
    cases returned
    rw [Dict.get?_ofEntries (by simp)]
    rfl

/-- A change of the labels keeps the client and the lists. -/
theorem Sent.of_sameButLabels (sent : Sent other client server groups shares)
    (same : SameButLabels record other) : Sent record client server groups shares where
  toStoredLists := sent.toStoredLists.of_sameButLabels same
  storedClient := (same.provenance _ (by decide)).trans sent.storedClient

theorem SurveyFile.sent {name : String} (survey : SurveyFile name (.record record))
    (kept : name ≠ inventoryName) (classified : record.faultType ∈ classifiedFaults) :
    ∃ client server groups shares, Sent record client server groups shares := by
  rcases survey with inventory | ⟨found, same, _, written⟩
  · exact absurd inventory kept
  · cases same
    obtain ⟨evaluated, evaluation, labels⟩ := written classified
    obtain ⟨_, _, _, _, client, server, _, returned⟩ := evaluation
    obtain ⟨_, _, sent⟩ := evaluateV18_sent returned
    exact ⟨client, server, _, _, sent.of_sameButLabels labels⟩

/-- A record with current labels is counted for the class of its lists. -/
theorem Sent.surveyRowKey_eq (sent : Sent record client server groups shares)
    (current : ∃ groups shares server, Stores record groups shares server) :
    surveyRowKey record = .ok (rowOf client server groups shares) := by
  obtain ⟨names, shareNames, otherServer, stores⟩ := current
  have labels := stores.toStoredLists.currentLabels_eq
  rw [sent.toStoredLists.currentLabels_eq, Except.ok.injEq] at labels
  have storedClass := stores.storedClass
  rw [← labels] at storedClass
  have text (value : String) : (Value.str value).text = .ok value := rfl
  simp only [surveyRowKey, Dict.getItem_eq_ok.mpr sent.storedClient,
    Dict.getItem_eq_ok.mpr sent.storedServer, Dict.getItem_eq_ok.mpr storedClass,
    Dict.getItem_eq_ok.mpr sent.storedGroups, Dict.getItem_eq_ok.mpr sent.storedShares,
    Value.texts_eq_ok.mpr rfl, text, ok_bind]
  rfl

/-- A record is counted for one row. -/
theorem Sent.row_eq {row : ClassRow} (sent : Sent record client server groups shares)
    (counted : CountedAs record row) : row = rowOf client server groups shares := by
  obtain ⟨_, _, _, _, again, rfl⟩ := counted
  have text {first second : String}
      (same : some (Value.str first) = some (Value.str second)) : first = second := by
    simpa [Value.str] using same
  have list {first second : List String}
      (same : some (Value.list (first.map .str)) = some (.list (second.map .str))) :
      first = second := by
    rw [Option.some.injEq, Value.list.injEq] at same
    refine List.map_injective_iff.mpr ?_ same
    exact fun _ _ equal => text (congrArg some equal)
  rw [rowOf, rowOf, text (again.storedClient.symm.trans sent.storedClient),
    text (again.storedServer.symm.trans sent.storedServer),
    list (again.storedGroups.symm.trans sent.storedGroups),
    list (again.storedShares.symm.trans sent.storedShares)]

theorem groupNamesOf_parts (codes : List Nat) :
    ∀ part ∈ groupNamesOf codes, part ≠ "" ∧ ',' ∉ part.toList := by
  intro part member
  rw [groupNamesOf_eq, List.mem_map] at member
  obtain ⟨code, _, rfl⟩ := member
  exact groupText_clean code

/-- The printed lists determine the printed class. -/
theorem CountedAs.class_eq {row next : ClassRow} (counted : CountedAs record row)
    (again : CountedAs other next) (same : row.2.2 = next.2.2) : row.2.1 = next.2.1 := by
  obtain ⟨_, _, groups, shares, _, rfl⟩ := counted
  obtain ⟨_, _, others, otherShares, _, rfl⟩ := again
  obtain ⟨sameGroups, sameShares⟩ := Prod.mk.inj same
  have names := join_inj (groupNamesOf_parts groups) (groupNamesOf_parts others) sameGroups
  have shareNames := join_inj (groupNamesOf_parts shares) (groupNamesOf_parts otherShares) sameShares
  rw [rowOf, rowOf, names, shareNames]

end Records

section Loop
variable {runDir after : Directory} {name : String}

/-- Directories with the same names have the same JSON files. -/
theorem jsonPaths_eq (same : ∀ name, (runDir.get? name).isSome ↔ (after.get? name).isSome) :
    runDir.jsonPaths = after.jsonPaths := by
  apply List.Perm.eq_of_pairwise (fun _ _ _ _ => le_antisymm) (List.pairwise_insertionSort _ _)
    (List.pairwise_insertionSort _ _)
  rw [← Directory.jsonPaths, ← Directory.jsonPaths,
    List.perm_ext_iff_of_nodup (nodup_jsonPaths _) (nodup_jsonPaths _)]
  intro name
  rw [mem_jsonPaths, mem_jsonPaths, ← Option.isSome_iff_exists, ← Option.isSome_iff_exists, same]

/-- The file has a record that has the labels of its lists behind the migration. -/
def Migrated (runDir after : Directory) (name : String) : Prop :=
  ∃ record changed, runDir.get? name = some (.record record) ∧
    after.get? name = some (.record changed) ∧ changed.faultType = record.faultType ∧
    (record.faultType ∈ classifiedFaults →
      ∃ row, CountedAs record row ∧ surveyRowKey changed = .ok row)

/-- A round of the table counts the row of the file. -/
theorem countFile_eq (migrated : Migrated runDir after name) (kept : name ≠ inventoryName) :
    ∃ record, runDir.fromJson name = .ok record ∧
      (record.faultType ∉ classifiedFaults → ∀ counts, countFile after counts name = .ok counts) ∧
      (record.faultType ∈ classifiedFaults → ∃ row, CountedAs record row ∧
        ∀ counts, countFile after counts name = .ok (counts.update row 0 (· + 1))) := by
  obtain ⟨record, changed, before, found, fault, shown⟩ := migrated
  refine ⟨record, (fromJson_eq_ok before).mpr rfl, ?_, ?_⟩
  · intro other counts
    rw [countFile, if_neg kept, (fromJson_eq_ok found).mpr rfl, ok_bind, fault, if_pos other]
  · intro classified
    obtain ⟨row, counted, key⟩ := shown classified
    refine ⟨row, counted, ?_⟩
    intro counts
    rw [countFile, if_neg kept, (fromJson_eq_ok found).mpr rfl, ok_bind, fault,
      if_neg (not_not.mpr classified), key, ok_bind]

/-- The loop of the table tallies the rows of the records. -/
theorem countFile_foldlM {names : List String}
    (each : ∀ name ∈ names, name ≠ inventoryName → Migrated runDir after name) :
    ∃ records rows, (names.filter (· ≠ inventoryName)).mapM runDir.fromJson = .ok records ∧
      List.Forall₂ CountedAs (records.filter (·.faultType ∈ classifiedFaults)) rows ∧
      ∀ counts, names.foldlM (countFile after) counts =
        .ok (Dict.tally id 0 (fun runs _ => runs + 1) rows counts) := by
  induction names with
  | nil => exact ⟨[], [], rfl, .nil, fun _ => rfl⟩
  | cons name names ih =>
      obtain ⟨records, rows, read, counted, folded⟩ :=
        ih fun other member => each other (List.mem_cons_of_mem name member)
      by_cases kept : name = inventoryName
      · refine ⟨records, rows, ?_, counted, ?_⟩
        · rw [List.filter_cons, if_neg (by simpa using kept), read]
        · intro counts
          rw [List.foldlM_cons, countFile, if_pos kept, ok_bind, folded]
      · obtain ⟨record, found, skipped, taken⟩ :=
          countFile_eq (each name List.mem_cons_self kept) kept
        have loaded : ((name :: names).filter (· ≠ inventoryName)).mapM runDir.fromJson =
            .ok (record :: records) := by
          rw [List.filter_cons, if_pos (by simpa using kept), List.mapM_cons, found, ok_bind, read,
            ok_bind]
          rfl
        by_cases classified : record.faultType ∈ classifiedFaults
        · obtain ⟨row, shown, step⟩ := taken classified
          refine ⟨record :: records, row :: rows, loaded, ?_, ?_⟩
          · rw [List.filter_cons, if_pos (by simpa using classified)]
            exact .cons shown counted
          · intro counts
            rw [List.foldlM_cons, step, ok_bind, folded]
            rfl
        · refine ⟨record :: records, rows, loaded, ?_, ?_⟩
          · rw [List.filter_cons, if_neg (by simpa using classified)]
            exact counted
          · intro counts
            rw [List.foldlM_cons, skipped classified, ok_bind, folded]

variable (files : ∀ name, after.get? name =
  if name ∈ runDir.jsonPaths then ((migration runDir name).map File.record).or (runDir.get? name)
  else runDir.get? name)
include files

/-- The migration changes a record of a survey in its labels only. -/
theorem SurveyDirectory.sameButLabels (survey : SurveyDirectory runDir)
    (member : name ∈ runDir.jsonPaths) (kept : name ≠ inventoryName) :
    ∃ record changed, runDir.get? name = some (.record record) ∧
      after.get? name = some (.record changed) ∧ SameButLabels changed record := by
  obtain ⟨file, found, known⟩ := survey.found name member
  obtain ⟨record, rfl⟩ := known.exists_record kept
  have change := files name
  rw [if_pos member, found] at change
  cases written : migration runDir name with
  | none =>
      rw [written, Option.map_none, Option.none_or] at change
      exact ⟨record, record, found, change, rfl, fun _ _ => rfl⟩
  | some changed =>
      obtain ⟨other, same, labels, _⟩ := migration_eq_some found known written
      cases same
      rw [written, Option.map_some, Option.some_or] at change
      exact ⟨record, changed, found, change, labels⟩

theorem SurveyDirectory.migrated_file (survey : SurveyDirectory runDir)
    (member : name ∈ runDir.jsonPaths) (kept : name ≠ inventoryName) :
    Migrated runDir after name := by
  obtain ⟨record, changed, before, found, same⟩ := survey.sameButLabels files member kept
  obtain ⟨again, settled⟩ := survey.migrated files
  obtain ⟨read, _⟩ := mem_jsonPaths.mp member
  have fault : changed.faultType = record.faultType := by rw [same.fields]
  refine ⟨record, changed, before, found, fault, ?_⟩
  intro classified
  obtain ⟨client, server, groups, shares, sent⟩ :=
    (survey name read _ before).sent kept classified
  have current : ∃ groups shares server, Stores changed groups shares server := by
    by_contra outdated
    have inside := mem_jsonPaths.mpr ⟨read, _, found⟩
    exact settled name inside ⟨kept, changed, found, fault ▸ classified, outdated⟩
  exact ⟨rowOf client server groups shares, ⟨client, server, groups, shares, sent, rfl⟩,
    (sent.of_sameButLabels same).surveyRowKey_eq current⟩

theorem SurveyDirectory.jsonPaths_migrated (survey : SurveyDirectory runDir) :
    after.jsonPaths = runDir.jsonPaths := by
  apply jsonPaths_eq
  intro name
  rw [files]
  split
  · rename_i member
    obtain ⟨file, found, _⟩ := survey.found name member
    rw [found]
    cases migration runDir name <;> exact iff_of_true rfl rfl
  · rfl

end Loop

/-- The migration of a survey and then its table return. The table has one row for each different
row of the records that the survey had before, with the class of their lists and the number of their
runs. Rows with the same lists have the same class. -/
theorem reclassify_renderV18 {runDir : Directory} (survey : SurveyDirectory runDir) :
    ∃ changes after records rows, reclassify runDir = .ok (changes, after) ∧
      (runDir.jsonPaths.filter (· ≠ inventoryName)).mapM runDir.fromJson = .ok records ∧
      List.Forall₂ CountedAs (records.filter (·.faultType ∈ classifiedFaults)) rows ∧
      renderV18 after = .ok ("\n".intercalate (v18Header ++
        (sortedRows rows).map fun row => classRow (row, rows.countP (· = row)))) ∧
      ∀ row ∈ rows, ∀ next ∈ rows, row.2.2 = next.2.2 → row.2.1 = next.2.1 := by
  have distinct := nodup_jsonPaths runDir
  have returned : reclassify runDir = .ok (runDir.jsonPaths.foldl migrated (0, runDir)) :=
    reclassifyFile_foldlM distinct (0, runDir) survey.found
  obtain ⟨_, files⟩ := migrated_foldl distinct (0, runDir)
  generalize runDir.jsonPaths.foldl migrated (0, runDir) = result at files returned
  obtain ⟨changes, after⟩ := result
  obtain ⟨records, rows, read, counted, folded⟩ :=
    countFile_foldlM fun name member kept => survey.migrated_file files member kept
  refine ⟨changes, after, records, rows, returned, read, counted, ?_, ?_⟩
  · rw [renderV18, survey.jsonPaths_migrated files, folded, ok_bind]
    rw [show (fun key : ClassRow => [key.1, key.2.1, key.2.2.1, key.2.2.2]) = rowTexts from rfl,
      sortedItems_tally rowTexts_injective, List.map_map]
    rfl
  · intro row member next other
    obtain ⟨_, _, first⟩ := exists_of_mem_forall₂ counted.flip member
    obtain ⟨_, _, second⟩ := exists_of_mem_forall₂ counted.flip other
    exact CountedAs.class_eq first second

/-- A record with an outdated class is shown with the class of its lists. -/
theorem reclassify_renderV18_sample : ∃ (record evaluated : RunRecord) (changes : Nat)
    (after : Directory), WrittenByEvaluation evaluated ∧ SameButLabels record evaluated ∧
      record.provenance.get? "classification" = some (.str "unparsed") ∧
      reclassify (Dict.empty.set "openssl_client-default-v18_r01_botan.json" (.record record)) =
        .ok (changes, after) ∧
      renderV18 after = .ok ("\n".intercalate (v18Header ++
        [classRow (("botan -> openssl-3.5.6-default", "C2-hybrid-first-share-omitted",
          "X25519MLKEM768,X25519", "X25519"), 1)])) := by
  obtain ⟨evaluated, rest, returned, runId, fault⟩ := evaluateV18_surveyRun summarizeHellos_canonical
  have written : WrittenByEvaluation evaluated := ⟨_, _, _, _, _, _, _, returned⟩
  obtain ⟨_, captured, original⟩ := evaluateV18_sent returned
  rw [captureSummary_surveyRun summarizeHellos_canonical, Except.ok.injEq] at captured
  subst captured
  let record := relabel evaluated ("unparsed", "")
  let runDir : Directory := Dict.empty.set "openssl_client-default-v18_r01_botan.json" (.record record)
  have same : SameButLabels record evaluated := relabel_sameButLabels _ _
  have survey : SurveyDirectory runDir := by
    apply SurveyDirectory.single written same
    rw [show record.runId = evaluated.runId from rfl, runId]
    rfl
  obtain ⟨changes, after, records, rows, migrated, read, counted, rendered, _⟩ :=
    reclassify_renderV18 survey
  have files : runDir.jsonPaths.filter (· ≠ inventoryName) =
      ["openssl_client-default-v18_r01_botan.json"] := by
    have names : runDir.entries.map Prod.fst = ["openssl_client-default-v18_r01_botan.json"] := rfl
    rw [Directory.jsonPaths, names]
    decide +kernel
  have loaded : records = [record] := by
    rw [files] at read
    exact (Except.ok.inj read).symm
  have classified : record.faultType ∈ classifiedFaults := by
    rw [show record.faultType = evaluated.faultType from rfl, fault]
    decide
  rw [loaded, List.filter_cons, if_pos (decide_eq_true classified), List.filter_nil] at counted
  cases counted with
  | cons shown rest =>
      cases rest
      have row := (original.of_sameButLabels same).row_eq shown
      rw [row] at rendered
      refine ⟨record, evaluated, changes, after, written, same, ?_, migrated, rendered⟩
      rw [get?_relabel]
      rfl

end FaultInject.V18
