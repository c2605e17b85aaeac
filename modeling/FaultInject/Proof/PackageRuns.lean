import FaultInject.Proof.MatrixFinish
import FaultInject.Proof.Package

/-
This file shows when the package of a finished run is accepted. The run decides about the
artifacts, and the repository about the other files.
-/

namespace FaultInject.ReproPackage
open Python Harness Glob Record
open FaultInject.Matrix (Left leftNames Read)

section Placed
variable {root runDir : Directory} {rawDir suffix : String} {identifiers names : List String}
  {records : List RunRecord}

/-- The files of the run are in the directory of the repository. -/
def Placed (root : Directory) (rawDir : String) (runDir : Directory) : Prop :=
  ∀ name, '/' ∉ name.toList → root.get? (rawDir ++ "/" ++ name) = runDir.get? name

/-- These are the names of the files of a run. -/
def fileNames (runDir : Directory) : List String :=
  (runDir.entries.map Prod.fst).filter fun name => '/' ∉ name.toList

theorem mem_fileNames {name : String} :
    name ∈ fileNames runDir ↔ (runDir.get? name).isSome = true ∧ '/' ∉ name.toList := by
  rw [fileNames, List.mem_filter, ← isFile_iff, decide_eq_true_eq]
  rfl

theorem nodup_fileNames (runDir : Directory) : (fileNames runDir).Nodup := runDir.distinct.filter _

/-- The files in the directory are those of the run. -/
theorem Placed.glob_perm (placed : Placed root rawDir runDir) (own : RawDir rawDir) :
    (root.glob s!"{rawDir}/*").Perm ((fileNames runDir).map (rawDir ++ "/" ++ ·)) := by
  have distinct : ((fileNames runDir).map (rawDir ++ "/" ++ ·)).Nodup := by
    apply (nodup_fileNames runDir).map_on
    intro first known second other same
    have parts := congrArg base same
    rw [base_append _ (mem_fileNames.mp known).2, base_append _ (mem_fileNames.mp other).2] at parts
    exact parts
  rw [List.perm_ext_iff_of_nodup (nodup_glob root _) distinct]
  intro path
  rw [mem_glob, List.mem_map]
  show root.isFile path = true ∧ globMatch (rawDir ++ "/*") path = true ↔ _
  rw [globMatch_all own.plainFolder]
  constructor
  · rintro ⟨file, inside⟩
    have whole := path_of_folder inside
    refine ⟨base path, mem_fileNames.mpr ⟨?_, base_clean path⟩, whole.symm⟩
    rw [← placed _ (base_clean path), ← whole]
    exact file
  · rintro ⟨name, member, rfl⟩
    obtain ⟨present, clean⟩ := mem_fileNames.mp member
    rw [folder_append rawDir clean, Directory.isFile, Dict.contains, placed name clean]
    exact ⟨present, rfl⟩

/-- The artifacts in the directory are those of the run. -/
theorem Placed.artifactCount_eq (placed : Placed root rawDir runDir) (own : RawDir rawDir)
    (plain : '/' ∉ suffix.toList) :
    artifactCount root rawDir suffix = (fileNames runDir).countP (endsWith suffix) := by
  rw [artifactCount, (placed.glob_perm own).countP_eq, List.countP_map]
  apply List.countP_congr
  intro name _
  have whole : (rawDir ++ "/" ++ name).toList = rawDir.toList ++ '/' :: name.toList := by simp
  rw [Function.comp_apply, endsWith, endsWith, List.isSuffixOf_iff_suffix,
    List.isSuffixOf_iff_suffix, whole, suffix_append_mark plain]

/-- Distinct names of files with a suffix are counted. -/
theorem length_le_countP (distinct : names.Nodup)
    (counted : ∀ name ∈ names, (runDir.get? name).isSome = true ∧ '/' ∉ name.toList ∧
      endsWith suffix name = true) :
    names.length ≤ (fileNames runDir).countP (endsWith suffix) := by
  rw [List.countP_eq_length_filter]
  apply (List.subperm_of_subset distinct _).length_le
  intro name member
  obtain ⟨present, clean, ends⟩ := counted name member
  exact List.mem_filter.mpr ⟨mem_fileNames.mpr ⟨present, clean⟩, ends⟩

/-- The records that are loaded are counted. -/
theorem countP_json (loaded : Analyze.loadRecords runDir = .ok records) :
    (fileNames runDir).countP (endsWith ".json") = records.length := by
  rw [Analyze.loadRecords, mapM_eq_ok] at loaded
  rw [← loaded.length_eq, Directory.jsonPaths, List.length_insertionSort, fileNames,
    List.countP_filter, ← List.countP_eq_length_filter]
  rfl

/-- The directory has one record for each identifier and the outputs beside it. -/
structure Filed (runDir : Directory) (identifiers : List String) : Prop where
  distinct : identifiers.Nodup
  clean : ∀ identifier ∈ identifiers, '/' ∉ identifier.toList
  left : ∀ identifier ∈ identifiers, Left runDir identifier
  json : (fileNames runDir).countP (endsWith ".json") = identifiers.length

/-- These are the suffixes of the outputs. -/
def leftSuffixes : List String := ["-server.log", "-capture.log", ".pcapng", "-client.log"]

theorem leftNames_eq (identifier : String) :
    leftNames identifier = leftSuffixes.map (identifier ++ ·) := rfl

theorem endsWith_append (text suffix : String) : endsWith suffix (text ++ suffix) = true := by
  rw [endsWith, List.isSuffixOf_iff_suffix, String.toList_append]
  exact List.suffix_append _ _

theorem slash_notMem_append {text suffix : String} (clean : '/' ∉ text.toList)
    (plain : '/' ∉ suffix.toList) : '/' ∉ (text ++ suffix).toList := by
  rw [String.toList_append, List.mem_append, not_or]
  exact ⟨clean, plain⟩

/-- Each identifier has its output with the suffix. -/
theorem Filed.length_le (filed : Filed runDir identifiers) (known : suffix ∈ leftSuffixes) :
    identifiers.length ≤ (fileNames runDir).countP (endsWith suffix) := by
  have plain : '/' ∉ suffix.toList := by
    have each : ∀ suffix ∈ leftSuffixes, '/' ∉ suffix.toList := by decide
    exact each suffix known
  rw [← List.length_map (· ++ suffix)]
  apply length_le_countP
  · exact filed.distinct.map_on fun _ _ _ _ same => (String.append_left_inj _).mp same
  · intro name member
    obtain ⟨identifier, inside, rfl⟩ := List.mem_map.mp member
    have output : identifier ++ suffix ∈ leftNames identifier := by
      rw [leftNames_eq]
      exact List.mem_map_of_mem known
    exact ⟨filed.left identifier inside _ output,
      slash_notMem_append (filed.clean identifier inside) plain, endsWith_append _ _⟩

/-- The directory has enough artifacts when the run has enough records. -/
theorem Filed.artifacts_iff (filed : Filed runDir identifiers) (placed : Placed root rawDir runDir)
    (own : RawDir rawDir) {artifacts : List (String × String × Nat)} {minimum : Nat}
    (listed : (".json", minimum) ∈ artifacts.map Prod.snd)
    (least : ∀ artifact ∈ artifacts, artifact.2.2 = minimum ∧ artifact.2.1 ∈ ".json" :: leftSuffixes) :
    (∀ artifact ∈ artifacts, artifact.2.2 ≤ artifactCount root rawDir artifact.2.1) ↔
      minimum ≤ identifiers.length := by
  have plain : ∀ suffix ∈ ".json" :: leftSuffixes, '/' ∉ suffix.toList := by decide
  constructor
  · intro enough
    obtain ⟨⟨label, suffix, number⟩, member, same⟩ := List.mem_map.mp listed
    cases same
    have json := enough _ member
    rwa [placed.artifactCount_eq own (plain _ List.mem_cons_self), filed.json] at json
  · intro enough artifact member
    obtain ⟨same, suffix⟩ := least artifact member
    rw [same, placed.artifactCount_eq own (plain _ suffix)]
    rcases List.mem_cons.mp suffix with json | output
    · rw [json, filed.json]
      exact enough
    · exact enough.trans (filed.length_le output)

/-- This repository has only the files of a run. -/
def moved (rawDir : String) (runDir : Directory) : Directory where
  entries := runDir.entries.map fun entry => (rawDir ++ "/" ++ entry.1, entry.2)
  distinct := by
    rw [List.map_map]
    have names := List.Nodup.map (fun _ _ same => (String.append_right_inj _).mp same :
      Function.Injective (rawDir ++ "/" ++ ·)) runDir.distinct
    rw [List.map_map] at names
    exact names

theorem placed_moved (rawDir : String) (runDir : Directory) :
    Placed (moved rawDir runDir) rawDir runDir := by
  intro name _
  ext file
  rw [Dict.get?_eq_some, Dict.get?_eq_some, moved, List.mem_map]
  constructor
  · rintro ⟨⟨other, content⟩, member, same⟩
    rw [Prod.mk.injEq, String.append_right_inj] at same
    rw [← same.1, ← same.2]
    exact member
  · exact fun member => ⟨_, member, rfl⟩

/-- The repository also has these files. -/
def completed (root : Directory) (paths : List String) : Directory :=
  paths.foldl (fun root path => root.set path (.text "")) root

theorem get?_completed (root : Directory) (paths : List String) (path : String) :
    (completed root paths).get? path = if path ∈ paths then some (.text "") else root.get? path := by
  induction paths generalizing root with
  | nil => rfl
  | cons first paths ih =>
      rw [completed, List.foldl_cons, ← completed, ih, Dict.get?_set]
      by_cases member : path ∈ paths
      · rw [if_pos member, if_pos (List.mem_cons_of_mem _ member)]
      · by_cases same : path = first <;> simp [member, same]

theorem placed_completed {rawDir : String} {runDir : Directory} {paths : List String}
    (placed : Placed root rawDir runDir)
    (apart : ∀ path ∈ paths, folder path ≠ split rawDir '/') :
    Placed (completed root paths) rawDir runDir := by
  intro name clean
  rw [get?_completed, if_neg, placed name clean]
  intro member
  exact apart _ member (folder_append rawDir clean)

/-- The required files and those of a run have no marker. -/
theorem completed_unmarked {package : Package} {paths : List String}
    (required : ∀ path ∈ paths, ∀ marker ∈ package.excluded, ¬marker.toList <:+: path.toList)
    (files : ∀ name, (runDir.get? name).isSome = true → ∀ marker ∈ package.excluded,
      ¬marker.toList <:+: (package.raw ++ "/" ++ name).toList) :
    Unmarked (completed (moved package.raw runDir) paths) package := by
  intro path file _ marker known
  rw [Directory.isFile, Dict.contains, get?_completed] at file
  by_cases member : path ∈ paths
  · exact required path member marker known
  · rw [if_neg member] at file
    obtain ⟨content, found⟩ := Option.isSome_iff_exists.mp file
    obtain ⟨⟨name, _⟩, stored, same⟩ := List.mem_map.mp (Dict.get?_eq_some.mp found)
    obtain ⟨rfl, rfl⟩ := Prod.mk.inj same
    exact files name (Option.isSome_iff_exists.mpr ⟨_, Dict.get?_eq_some.mpr stored⟩) marker known

end Placed

section Marks
variable {folder name text marker : String} {spec : ScenarioSpec}

theorem toList_path (folder name : String) :
    (folder ++ "/" ++ name).toList = folder.toList ++ '/' :: name.toList := by
  simp [String.toList_append]

/-- A marker in a path without its separator is in the folder or in the name. -/
theorem unmarked_path (plain : '/' ∉ marker.toList) (outer : ¬marker.toList <:+: folder.toList)
    (inner : ¬marker.toList <:+: name.toList) :
    ¬marker.toList <:+: (folder ++ "/" ++ name).toList := by
  rw [toList_path]
  exact fun inside => (infix_append_mark plain inside).elim outer inner

/-- A marker that ends with the separator is in the folder. -/
theorem unmarked_folder {lead : List Char} (ends : marker.toList = lead ++ ['/'])
    (outer : ¬marker.toList <:+: folder.toList ++ ['/']) (clean : '/' ∉ name.toList) :
    ¬marker.toList <:+: (folder ++ "/" ++ name).toList := by
  rw [ends] at outer ⊢
  rw [toList_path]
  exact fun inside => outer (infix_append_end clean inside)

/-- A marker in the name of a round is in one of its labels. -/
theorem unmarked_identifier (plain : '_' ∉ marker.toList) (letter : 'v' ∈ marker.toList)
    (impl : ¬marker.toList <:+: spec.impl.toList)
    (fault : ¬marker.toList <:+: spec.faultType.toList)
    (condition : ¬marker.toList <:+: spec.condition.toList ++ text.toList) :
    ¬marker.toList <:+: (Matrix.identifier spec ++ text).toList := by
  have whole : (Matrix.identifier spec ++ text).toList = spec.impl.toList ++ '_' ::
      (spec.faultType.toList ++ '_' :: ('r' :: (formatDecimal 2 spec.repetition).toList ++ '_' ::
        (spec.condition.toList ++ text.toList))) := by
    rw [String.toList_append, Matrix.identifier, Matrix.toList_runId]
    simp only [List.append_assoc, List.cons_append]
  rw [whole]
  intro inside
  -- The marker is searched from mark to mark.
  rcases infix_append_mark plain inside with first | inside
  · exact impl first
  rcases infix_append_mark plain inside with second | inside
  · exact fault second
  rcases infix_append_mark plain inside with third | last
  · rcases List.mem_cons.mp (third.subset letter) with other | digit
    · exact absurd other (by decide)
    · rcases mem_formatDecimal digit with sign | digit
      · exact absurd sign (by decide)
      · exact absurd digit (by decide)
  · exact condition last

end Marks

end FaultInject.ReproPackage

namespace FaultInject.Matrix
open Python Record ReproPackage

section Settings
variable {environ paths : Dict String String} {version setting groups : String}
  {repetition : Int} {spec : Harness.ScenarioSpec}

/-- No file of the matrix has a marker of diagnostic data. -/
theorem settings_unmarked
    (made : V12.v12Spec environ version setting repetition paths groups = .ok spec)
    {text marker : String} (known : text ∈ suffixes) (marked : marker ∈ v12Package.excluded) :
    ¬marker.toList <:+: (v12Package.raw ++ "/" ++ (identifier spec ++ text)).toList := by
  have parts : ∀ marker ∈ ["v1.2-s4", "v12-smoke"], '/' ∉ marker.toList ∧ '_' ∉ marker.toList ∧
      'v' ∈ marker.toList ∧ ¬marker.toList <:+: v12Package.raw.toList ∧
      ¬marker.toList <:+: "openssl".toList ∧ ¬marker.toList <:+: "server-setting".toList ∧
      ∀ version ∈ V12.prefixes.map Prod.fst, ∀ setting ∈ V12.serverSettings.map Prod.fst,
        ∀ text ∈ suffixes,
          ¬marker.toList <:+: version.toList ++ "-".toList ++ setting.toList ++ text.toList := by
    decide +kernel
  have plain := v12Spec_plain made
  obtain ⟨arguments, item, made⟩ := bind_eq_ok.mp made
  simp only [bind_eq_ok, Except.ok.injEq] at made
  obtain ⟨_, _, _, _, _, _, _, _, _, native, same⟩ := made
  obtain ⟨folder, listed, _⟩ := bind_eq_ok.mp native
  have labels : version ∈ V12.prefixes.map Prod.fst ∧ setting ∈ V12.serverSettings.map Prod.fst :=
    ⟨Dict.item_returns.mp ⟨_, listed⟩, Dict.item_returns.mp ⟨_, item⟩⟩
  have split : v12Package.excluded = ["v1.2-s4", "v12-smoke"] ++ ["/raw/v1.1/"] := rfl
  rw [split, List.mem_append, List.mem_singleton] at marked
  rcases marked with inner | rfl
  · obtain ⟨noSlash, noMark, letter, noFolder, noImpl, noFault, noCondition⟩ := parts marker inner
    rw [← same]
    apply unmarked_path noSlash noFolder
    apply unmarked_identifier noMark letter noImpl noFault
    have condition : s!"{version}-{setting}".toList =
        version.toList ++ "-".toList ++ setting.toList := by
      rw [← String.toList_append, ← String.toList_append]
      rfl
    rw [condition]
    exact noCondition version labels.1 setting labels.2 text known
  · have ends : "/raw/v1.1/".toList = "/raw/v1.1".toList ++ ['/'] := rfl
    apply unmarked_folder ends (by decide +kernel)
    have clean : ∀ text ∈ suffixes, '/' ∉ text.toList := by decide
    rw [String.toList_append, List.mem_append, not_or]
    exact ⟨plain.identifier.slash, clean text known⟩

end Settings

section Runs
variable {context : Context} {run : MatrixRun} {runDir root : Directory} {events : List Event}
  {state : State}

/-- The directory of a finished run has one record for each round and the outputs beside it. -/
theorem filed_of_finished (distinct : run.Distinct) (fresh : run.Fresh)
    (reached : Transition.run (step (run.plan context)) (.initial runDir) events = some state)
    (finished : Finished state) : Filed state.runDir (state.records.map RunRecord.runId) := by
  obtain ⟨done, kept, planned⟩ := finished_progress distinct reached finished
  obtain ⟨loaded, read, perm⟩ := loaded_of_finished distinct fresh reached finished
  have jobs : ∀ runId ∈ state.records.map RunRecord.runId, ∃ job record, PlainSpec job.spec ∧
      Kept state.runDir job record ∧ runId = identifier job.spec := by
    intro runId member
    obtain ⟨record, inside, rfl⟩ := List.mem_map.mp member
    obtain ⟨job, known, own⟩ := exists_of_mem_forall₂ kept.flip inside
    exact ⟨job, record, MatrixRun.plain ⟨_, planned, List.mem_map_of_mem known⟩, own,
      own.ofSpec.runId⟩
  constructor
  · have names := nodup_recordNames distinct planned
    rw [map_recordName kept] at names
    apply List.Nodup.of_map (fun runId : String => s!"{runId}.json")
    rw [List.map_map]
    exact names
  · intro runId member slash
    obtain ⟨job, record, plain, own, rfl⟩ := jobs runId member
    apply plain.read_recordName.2
    rw [recordName, String.toList_append]
    exact List.mem_append_left _ slash
  · intro runId member
    obtain ⟨job, record, plain, own, rfl⟩ := jobs runId member
    exact left_of_finished fresh reached finished own plain
  · rw [countP_json read, perm.length_eq, List.length_map]

/-- The directory of a run without earlier files has only files of its rounds. -/
theorem name_of_run (fresh : run.Fresh)
    (reached : Transition.run (step (run.plan context)) (.initial .empty) events = some state)
    {name : String} (present : (state.runDir.get? name).isSome = true) :
    ∃ job, (run.plan context).Contains job ∧
      ∃ text ∈ suffixes, name = identifier job.spec ++ text := by
  have framed := framed_of_run (fun job known => (run.repeatable context known).toOwnJob) reached
  by_contra absent
  have free : ¬(run.plan context).Writes name := by
    rintro (⟨job, known, inside⟩ | ⟨inventory, planned, _⟩)
    · have own : OwnProxyLog job.spec := .inl (run.repeatable context known).proxyLog
      exact absent ⟨job, known, mem_artifactNames own inside⟩
    · cases run with
      | v12 settings versions groups => cases planned
      | v15 selected => cases planned
      | v16 => cases planned
      | v16Direct => cases planned
      | v18 clients => exact fresh
      | e8 servers => exact fresh
  rw [framed.keeps name free] at present
  cases present

/-- The package of a finished run is accepted exactly when the run has enough rounds and the
repository has the other files and artifacts. -/
theorem finished_package (distinct : run.Distinct) (fresh : run.Fresh)
    (reached : Transition.run (step (run.plan context)) (.initial runDir) events = some state)
    (finished : Finished state) {package : String} {config : Package} {minimum : Nat}
    (known : Dict.item packages package = .ok config)
    (uniform : config.artifacts.map Prod.snd = [(".json", minimum), (".pcapng", minimum),
      ("-client.log", minimum), ("-server.log", minimum), ("-capture.log", minimum)])
    (placed : Placed root config.raw state.runDir) :
    ∃ jobs archive missing accepted, (run.plan context).jobs = .ok jobs ∧
      buildZip root package = .ok archive ∧ verifyZip archive package = .ok (accepted, missing) ∧
      (accepted = true ↔ minimum ≤ jobs.length ∧
        (∀ required ∈ config.requiredFiles, root.isFile required = true) ∧
        (∀ artifact ∈ config.extraArtifacts,
          artifact.2.2.2 ≤ artifactCount root artifact.2.1 artifact.2.2.1) ∧
        Unmarked root config) := by
  obtain ⟨done, kept, planned⟩ := finished_progress distinct reached finished
  have own := (Apart.of_item known).rawDirs config.raw List.mem_cons_self
  have filed := filed_of_finished distinct fresh reached finished
  obtain ⟨missing, accepted, checked, accepts⟩ := verifyZip_packed root known
  have artifacts : (∀ artifact ∈ config.artifacts,
      artifact.2.2 ≤ artifactCount root config.raw artifact.2.1) ↔
        minimum ≤ (done.map (Except.ok : Job → Result Job)).length := by
    rw [List.length_map, kept.length_eq, ← List.length_map RunRecord.runId]
    apply filed.artifacts_iff placed own
    · rw [uniform]
      exact List.mem_cons_self
    · intro artifact member
      have inside := List.mem_map_of_mem (f := Prod.snd) member
      rw [uniform] at inside
      simp only [List.mem_cons, List.not_mem_nil, or_false] at inside
      rcases inside with same | same | same | same | same <;>
        · rw [same]
          exact ⟨rfl, by simp [leftSuffixes]⟩
  refine ⟨_, _, missing, accepted, planned, buildZip_eq root known, checked, accepts.trans ?_⟩
  rw [← artifacts]
  constructor
  · exact fun whole => ⟨whole.artifacts, whole.required, whole.extra, whole.unmarked⟩
  · rintro ⟨enough, required, extra, unmarked⟩
    exact ⟨required, enough, extra, unmarked⟩

end Runs

/-- This run has six cells with ten repetitions. -/
def acceptedRuns : MatrixRun := .v12 V12.requiredSettings V12.serverVersions V12.clientGroups

def acceptedContext : Context := { sampleContext with repetitions := 10 }

/-- Ten repetitions and the required files are enough for the package. -/
theorem finished_package_sample : ∃ events state archive missing,
    Transition.run (step (acceptedRuns.plan acceptedContext)) (.initial .empty) events =
      some state ∧
    buildZip (completed (moved v12Package.raw state.runDir) v12Package.requiredFiles) "v1.2" =
      .ok archive ∧
    verifyZip archive "v1.2" = .ok (true, missing) := by
  obtain ⟨jobs, known, length, returns⟩ : ∃ jobs : List Job,
      (acceptedRuns.plan acceptedContext).jobs = .ok (jobs.map .ok) ∧ jobs.length = 60 ∧
      ∀ job ∈ jobs, job.Returns := runV12_returns (by decide) (by decide)
  have guarded : (acceptedRuns.plan acceptedContext).guard .empty = .ok () := rfl
  obtain ⟨lead, state, reached, finished⟩ :=
    exists_finished (fun _ => refusedOutcome) guarded known returns
  have distinct : acceptedRuns.Distinct :=
    ⟨(by decide : V12.serverVersions.Nodup), (by decide : V12.requiredSettings.Nodup)⟩
  have fresh : acceptedRuns.Fresh := trivial
  have placed := placed_completed (placed_moved v12Package.raw state.runDir)
    (by decide +kernel : ∀ path ∈ v12Package.requiredFiles,
      Glob.folder path ≠ split v12Package.raw '/')
  obtain ⟨listed, archive, missing, accepted, same, built, checked, accepts⟩ :=
    finished_package distinct fresh reached finished
      (rfl : Dict.item packages "v1.2" = .ok v12Package) rfl placed
  rw [known] at same
  cases same
  have enough : 60 ≤ (jobs.map (Except.ok : Job → Result Job)).length := by
    rw [List.length_map, length]
  have required : ∀ required ∈ v12Package.requiredFiles,
      (completed (moved v12Package.raw state.runDir) v12Package.requiredFiles).isFile required =
        true := by
    intro required member
    rw [Directory.isFile, Dict.contains, get?_completed, if_pos member]
    rfl
  have unmarked : Unmarked
      (completed (moved v12Package.raw state.runDir) v12Package.requiredFiles) v12Package := by
    have marks : ∀ path ∈ v12Package.requiredFiles, ∀ marker ∈ v12Package.excluded,
        ¬marker.toList <:+: path.toList := by decide +kernel
    apply completed_unmarked marks
    intro name present marker marked
    obtain ⟨job, inside, text, suffix, rfl⟩ := name_of_run fresh reached present
    obtain ⟨_, _, version, setting, repetition, inputs, made, _⟩ := runV12_job _ _ _ _ inside
    exact settings_unmarked made suffix marked
  have whole := accepts.mpr ⟨enough, required, fun artifact none => absurd none List.not_mem_nil,
    unmarked⟩
  exact ⟨_, state, archive, missing, reached, built, whole ▸ checked⟩

end FaultInject.Matrix

namespace FaultInject.Run
open Python Record Harness VerifyApplied ReproPackage Analyze
open FaultInject.Matrix (Kept identifier recordName map_recordName)

section Records
variable {K : Type} [DecidableEq K] {key : RunRecord → K} {width : Nat}

/-- The records of counted cells are counted once. -/
theorem Counted.length_eq {cells : List K} (distinct : cells.Nodup) {records : List RunRecord}
    (counted : Counted cells width fun cell => records.countP fun record => key record = cell) :
    records.length = cells.length * width := by
  induction cells generalizing records with
  | nil =>
      rw [List.length_nil, Nat.zero_mul, List.length_eq_zero_iff, List.eq_nil_iff_forall_not_mem]
      intro record member
      have none := counted.outside (key record) List.not_mem_nil
      exact List.countP_eq_zero.mp none record member (decide_eq_true rfl)
  | cons cell cells ih =>
      rw [List.nodup_cons] at distinct
      have others (other : K) (different : other ≠ cell) :
          ((records.filter fun record => !decide (key record = cell)).countP fun record =>
            key record = other) = records.countP fun record => key record = other := by
        rw [List.countP_filter]
        apply List.countP_congr
        intro record _
        simp only [Bool.and_eq_true, decide_eq_true_eq, Bool.not_eq_true', decide_eq_false_iff_not]
        exact ⟨fun both => both.1, fun same => ⟨same, same ▸ different⟩⟩
      have rest : Counted cells width fun other =>
          (records.filter fun record => !decide (key record = cell)).countP fun record =>
            key record = other := by
        constructor
        · intro other known
          have different : other ≠ cell := fun same => distinct.1 (same ▸ known)
          rw [others other different, counted.inside other (List.mem_cons_of_mem _ known)]
        · intro other unknown
          by_cases same : other = cell
          · rw [List.countP_filter, List.countP_eq_zero]
            intro record _ both
            simp [same] at both
          · rw [others other same, counted.outside other]
            rw [List.mem_cons, not_or]
            exact ⟨same, unknown⟩
      have parts := List.length_eq_length_filter_add (l := records) fun record =>
        decide (key record = cell)
      rw [← List.countP_eq_length_filter, counted.inside cell List.mem_cons_self,
        ih distinct.2 rest] at parts
      rw [parts, List.length_cons, Nat.succ_mul, Nat.add_comm]

end Records

section Conditions
variable {evidence : Evidence} {start root : Directory} {environ : Dict String String}
  {specs : List ScenarioSpec} {outcomes : List Outcome} {batch : Batch} {repetitions : Int}

/-- A verified round through the proxy has its log. -/
theorem proxyLog_of_kept {spec : ScenarioSpec} {record : RunRecord} {outDir : Directory}
    (kept : Kept outDir (verifiedJob evidence spec) record) {event groupId : String}
    {transform : Bytes → Result Bytes} (logs : LogsMutation spec event groupId transform) :
    (outDir.get? (proxyLogOf spec)).isSome = true := by
  have label : Matrix.OfSpec spec record := kept.ofSpec
  obtain ⟨value, checked, _⟩ := verifyRecord_eq_ok.mp kept.again
  have named : record.artifacts.get? "proxy_log" = some (proxyLogOf spec) := by
    rw [label.artifacts, scenarioArtifacts, logs.log, Dict.get?_set, if_pos rfl]
  have found (other : String) (item : record.artifacts.getItem "proxy_log" "proxy_log" = .ok other)
      (file : File) (opened : outDir.file other = .ok file) :
      (outDir.get? (proxyLogOf spec)).isSome = true := by
    rw [Dict.getItem_eq_ok, named, Option.some.injEq] at item
    unfold Directory.file at opened
    rw [← item] at opened
    split at opened
    · rename_i present
      rw [present]
      rfl
    · cases opened
  rw [verified] at checked
  rcases logs.kind with binding | ⟨fault, condition⟩
  · have other : record.faultType ≠ "condition" := by
      rw [label.faultType, binding]
      decide
    rw [if_neg other, if_pos (label.faultType.trans binding)] at checked
    obtain ⟨log, item, checked⟩ := bind_eq_ok.mp checked
    obtain ⟨file, opened, _⟩ := bind_eq_ok.mp checked
    exact found log item file opened
  · have strip : record.condition = "onpath-strip" := label.condition.trans condition
    have other : record.condition ≠ "silent-downgrade" := by
      rw [strip]
      decide
    rw [if_pos (label.faultType.trans fault), verifyCondition, if_neg other, if_pos strip] at checked
    obtain ⟨log, item, checked⟩ := bind_eq_ok.mp checked
    obtain ⟨file, opened, _⟩ := bind_eq_ok.mp checked
    exact found log item file opened

/-- The directory of finished conditions has one record for each round and the outputs beside it. -/
theorem filed_of_conditions (planned : v11Specs repetitions environ = .ok specs)
    (fresh : start.glob "*.json" = [])
    (reached : Transition.run (Batch.step evidence) (.initial specs start) outcomes = some batch)
    (finished : batch.Finished) : Filed batch.outDir (batch.records.map RunRecord.runId) := by
  have conditions : (VerifiedRun.v11 repetitions).specs environ = .ok specs := planned
  obtain ⟨done, loaded, complete, read, perm, _⟩ :=
    finished_conditions planned fresh reached finished
  have observed : ∀ spec ∈ specs, Observed spec := fun spec member =>
    VerifiedRun.observed conditions member
  have left := allLeft_of_run observed reached finished.raised specs
    (by rw [finished.todo, List.append_nil])
  have rounds : ∀ runId ∈ batch.records.map RunRecord.runId, ∃ spec ∈ specs,
      runId = identifier spec := by
    intro runId member
    obtain ⟨record, inside, rfl⟩ := List.mem_map.mp member
    obtain ⟨round, _, known, kept⟩ := complete.round_of_mem inside
    exact ⟨round.1, known, kept.kept.ofSpec.runId⟩
  constructor
  · have names := VerifiedRun.nodup_recordNames conditions
    have same : specs.map recordName = batch.records.map fun record => s!"{record.runId}.json" := by
      rw [← map_recordName complete.kept, complete.specs, List.map_map, List.map_map]
      rfl
    rw [same] at names
    apply List.Nodup.of_map (fun runId : String => s!"{runId}.json")
    rw [List.map_map]
    exact names
  · intro runId member slash
    obtain ⟨spec, known, rfl⟩ := rounds runId member
    apply (observed spec known).read.2
    rw [recordName, String.toList_append]
    exact List.mem_append_left _ slash
  · intro runId member
    obtain ⟨spec, known, rfl⟩ := rounds runId member
    exact left spec known
  · rw [countP_json read, perm.length_eq, List.length_map]

/-- These are the cells of the conditions on the path. -/
def stripCells : List (String × String) := implementations.map fun impl => (impl, "onpath-strip")

/-- The conditions on the path have one record for each implementation and repetition. -/
theorem length_strips {records : List RunRecord} {width : Nat}
    (counted : Counted Identity.v11Cells width fun cell =>
      records.countP fun record => conditionKey record = cell) :
    (records.filter fun record => record.condition = "onpath-strip").length = 3 * width := by
  apply @Counted.length_eq _ _ conditionKey width stripCells (by decide)
  constructor
  · intro cell known
    have planned : cell.2 = "onpath-strip" ∧ cell ∈ Identity.v11Cells := by
      have each : ∀ cell ∈ stripCells, cell.2 = "onpath-strip" ∧ cell ∈ Identity.v11Cells := by
        decide
      exact each cell known
    rw [← counted.inside cell planned.2, List.countP_filter]
    apply List.countP_congr
    intro record _
    rw [Bool.and_eq_true, decide_eq_true_eq, decide_eq_true_eq, and_iff_left_of_imp]
    intro same
    rw [← planned.1, ← same, conditionKey]
  · intro cell unknown
    rw [List.countP_filter, List.countP_eq_zero]
    intro record member both
    rw [Bool.and_eq_true, decide_eq_true_eq, decide_eq_true_eq] at both
    by_cases planned : cell ∈ Identity.v11Cells
    · have each : ∀ cell ∈ Identity.v11Cells, cell.2 = "onpath-strip" → cell ∈ stripCells := by
        decide
      apply unknown (each cell planned _)
      rw [← both.1, conditionKey, both.2]
    · exact List.countP_eq_zero.mp (counted.outside cell planned) record member
        (decide_eq_true both.1)

/-- Each round on the path has left its log. -/
theorem proxyLogs_of_conditions (planned : v11Specs repetitions environ = .ok specs)
    (fresh : start.glob "*.json" = [])
    (reached : Transition.run (Batch.step evidence) (.initial specs start) outcomes = some batch)
    (finished : batch.Finished) :
    3 * repetitions.toNat ≤ (fileNames batch.outDir).countP (endsWith "-proxy.log") := by
  have filed := filed_of_conditions planned fresh reached finished
  obtain ⟨done, loaded, complete, _, _, counted⟩ :=
    finished_conditions planned fresh reached finished
  rw [← length_strips counted, ← List.length_map fun record => record.runId ++ "-proxy.log"]
  apply length_le_countP
  · have sub : ((batch.records.filter fun record => record.condition = "onpath-strip").map
        RunRecord.runId).Nodup := filed.distinct.sublist (List.filter_sublist.map _)
    have names := sub.map_on (f := (· ++ "-proxy.log")) fun _ _ _ _ same =>
      (String.append_left_inj _).mp same
    rw [List.map_map] at names
    exact names
  · intro name member
    obtain ⟨record, inside, rfl⟩ := List.mem_map.mp member
    rw [List.mem_filter, decide_eq_true_eq] at inside
    obtain ⟨round, _, known, kept⟩ := complete.round_of_mem inside.1
    have label : Matrix.OfSpec round.1 record := kept.kept.ofSpec
    have own : proxyLogOf round.1 = record.runId ++ "-proxy.log" := by
      rw [proxyLogOf, identifierOf_eq, label.runId]
    have clean := filed.clean record.runId (List.mem_map_of_mem inside.1)
    refine ⟨?_, slash_notMem_append clean (by decide), endsWith_append _ _⟩
    obtain ⟨_, _, named | ⟨event, groupId, transform, logs⟩⟩ := v11_values planned known
    · rw [← label.condition, inside.2] at named
      exact absurd named (by decide)
    · rw [← own]
      exact proxyLog_of_kept kept.kept logs

/-- The directory of a finished run without earlier files has only files of its rounds. -/
theorem name_of_finished {run : VerifiedRun} (planned : run.specs environ = .ok specs)
    (reached : Transition.run (Batch.step evidence) (.initial specs .empty) outcomes = some batch)
    (finished : batch.Finished) {name : String} (present : (batch.outDir.get? name).isSome = true) :
    ∃ spec ∈ specs, ∃ text ∈ Matrix.suffixes, name = identifier spec ++ text := by
  have observed : ∀ spec ∈ specs, Observed spec := fun spec member =>
    VerifiedRun.observed planned member
  obtain ⟨done, progress⟩ := progress_of_run observed (VerifiedRun.apart planned) reached
  by_contra absent
  have free : ∀ round ∈ done, name ∉ Matrix.artifactNames round.1 := by
    intro round member inside
    have known : round.1 ∈ specs := by
      rw [progress.planned]
      exact List.mem_append_left _ (List.mem_map_of_mem member)
    exact absent ⟨round.1, known, Matrix.mem_artifactNames (observed _ known).ownProxyLog inside⟩
  rw [progress.keeps finished.raised name free] at present
  cases present

theorem v11_labels (planned : v11Specs repetitions environ = .ok specs) {spec : ScenarioSpec}
    (member : spec ∈ specs) : spec.impl ∈ implementations ∧ spec.condition ∈ labels := by
  obtain ⟨impl, known, _, _, _, ⟨condition, named, direct⟩ | stripped⟩ := mem_v11Specs planned member
  · obtain ⟨base, based, direct⟩ := bind_eq_ok.mp direct
    obtain ⟨advertised, _, same⟩ := bind_eq_ok.mp direct
    obtain ⟨port, _, based⟩ := bind_eq_ok.mp based
    obtain ⟨commands, _, conditioned⟩ := bind_eq_ok.mp based
    cases conditioned
    cases same
    have labelled : ∀ condition ∈ ["base", "silent-downgrade", "ssh-order"], condition ∈ labels := by
      decide
    exact ⟨known, labelled condition named⟩
  · obtain ⟨base, based, made⟩ := bind_eq_ok.mp stripped
    obtain ⟨values, _, same⟩ := bind_eq_ok.mp made
    obtain ⟨rfl, _⟩ := conditionSpec_values based
    cases same
    exact ⟨known, (by decide : "onpath-strip" ∈ labels)⟩

/-- No file of the conditions has a marker of diagnostic data. -/
theorem conditions_unmarked (planned : v11Specs repetitions environ = .ok specs)
    {spec : ScenarioSpec} (member : spec ∈ specs) {text marker : String}
    (known : text ∈ Matrix.suffixes) (marked : marker ∈ v11Package.excluded) :
    ¬marker.toList <:+: (rawV11Dir ++ "/" ++ (identifier spec ++ text)).toList := by
  have parts : ∀ marker ∈ v11Package.excluded, '/' ∉ marker.toList ∧ '_' ∉ marker.toList ∧
      'v' ∈ marker.toList ∧ ¬marker.toList <:+: rawV11Dir.toList ∧
      ¬marker.toList <:+: "condition".toList ∧
      (∀ impl ∈ implementations, ¬marker.toList <:+: impl.toList) ∧
      ∀ condition ∈ labels, ∀ text ∈ Matrix.suffixes,
        ¬marker.toList <:+: condition.toList ++ text.toList := by decide +kernel
  obtain ⟨noSlash, noMark, letter, noFolder, noFault, noImpl, noCondition⟩ := parts marker marked
  obtain ⟨impl, condition⟩ := v11_labels planned member
  apply unmarked_path noSlash noFolder
  apply unmarked_identifier noMark letter (noImpl _ impl) _ (noCondition _ condition text known)
  rw [(v11_values planned member).1]
  exact noFault

/-- The package of finished conditions is accepted exactly when the conditions were repeated ten
times and the repository has the other files. -/
theorem finished_packageV11 (planned : v11Specs repetitions environ = .ok specs)
    (fresh : start.glob "*.json" = [])
    (reached : Transition.run (Batch.step evidence) (.initial specs start) outcomes = some batch)
    (finished : batch.Finished) (placed : Placed root rawV11Dir batch.outDir) :
    ∃ archive missing accepted, buildZip root "v1.1" = .ok archive ∧
      verifyZip archive "v1.1" = .ok (accepted, missing) ∧
      (accepted = true ↔ 10 ≤ repetitions ∧
        (∀ required ∈ requiredFiles, root.isFile required = true) ∧ Unmarked root v11Package) := by
  have known : Dict.item packages "v1.1" = .ok v11Package := rfl
  have own := (Apart.of_item known).rawDirs rawV11Dir List.mem_cons_self
  have filed := filed_of_conditions planned fresh reached finished
  have logs := proxyLogs_of_conditions planned fresh reached finished
  obtain ⟨_, _, _, _, _, counted⟩ := finished_conditions planned fresh reached finished
  have rounds : (batch.records.map RunRecord.runId).length = 9 * repetitions.toNat := by
    rw [List.length_map, counted.length_eq (by decide)]
    rfl
  obtain ⟨missing, accepted, checked, accepts⟩ := verifyZip_packed root known
  have outputs : (∀ artifact ∈ requiredArtifacts.dropLast,
      artifact.2.2 ≤ artifactCount root rawV11Dir artifact.2.1) ↔
        90 ≤ (batch.records.map RunRecord.runId).length :=
    filed.artifacts_iff placed own List.mem_cons_self (by decide)
  have artifacts : (∀ artifact ∈ requiredArtifacts,
      artifact.2.2 ≤ artifactCount root rawV11Dir artifact.2.1) ↔ 10 ≤ repetitions := by
    have parts : requiredArtifacts =
      requiredArtifacts.dropLast ++ [("v1.1 proxy logs", "-proxy.log", 30)] := rfl
    rw [parts, List.forall_mem_append, List.forall_mem_singleton, outputs, rounds,
      placed.artifactCount_eq own (by decide)]
    show 90 ≤ 9 * repetitions.toNat ∧
      30 ≤ (fileNames batch.outDir).countP (endsWith "-proxy.log") ↔ 10 ≤ repetitions
    omega
  refine ⟨_, missing, accepted, buildZip_eq root known, checked, accepts.trans ?_⟩
  rw [← artifacts]
  constructor
  · exact fun whole => ⟨whole.artifacts, whole.required, whole.unmarked⟩
  · rintro ⟨enough, required, unmarked⟩
    exact ⟨required, enough, fun artifact none => absurd none List.not_mem_nil, unmarked⟩

end Conditions

/-- Ten repetitions and the required files are enough for the package. -/
theorem finished_packageV11_sample : ∃ specs batch archive missing,
    v11Specs 10 .empty = .ok specs ∧
    Transition.run (Batch.step emptyEvidence) (.initial specs .empty)
      (specs.map conditionOutcome) = some batch ∧
    buildZip (completed (moved rawV11Dir batch.outDir) requiredFiles) "v1.1" = .ok archive ∧
    verifyZip archive "v1.1" = .ok (true, missing) := by
  obtain ⟨specs, planned, _⟩ := Identity.v11Specs_plans .empty 10
  obtain ⟨batch, reached, finished⟩ := exists_finished_conditions planned
  have placed := placed_completed (placed_moved rawV11Dir batch.outDir)
    (by decide +kernel : ∀ path ∈ requiredFiles, Glob.folder path ≠ split rawV11Dir '/')
  obtain ⟨archive, missing, accepted, built, checked, accepts⟩ :=
    finished_packageV11 planned rfl reached finished placed
  have required : ∀ required ∈ requiredFiles,
      (completed (moved rawV11Dir batch.outDir) requiredFiles).isFile required = true := by
    intro required member
    rw [Directory.isFile, Dict.contains, get?_completed, if_pos member]
    rfl
  have unmarked : Unmarked (completed (moved rawV11Dir batch.outDir) requiredFiles) v11Package := by
    have marks : ∀ path ∈ requiredFiles, ∀ marker ∈ v11Package.excluded,
        ¬marker.toList <:+: path.toList := by decide +kernel
    have conditions : (VerifiedRun.v11 10).specs .empty = .ok specs := planned
    apply completed_unmarked marks
    intro name present marker known
    obtain ⟨spec, member, text, suffix, rfl⟩ :=
      name_of_finished conditions reached finished present
    exact conditions_unmarked planned member suffix known
  have whole := accepts.mpr ⟨by decide, required, unmarked⟩
  exact ⟨specs, batch, archive, missing, planned, reached, built, whole ▸ checked⟩

end FaultInject.Run
