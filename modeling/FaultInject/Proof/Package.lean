import FaultInject.Construction.Package
import FaultInject.Proof.SizeFallback
import FaultInject.Python.Paths
import Mathlib.Data.List.Perm.Basic

/-
This file shows which repositories give a package that its own check accepts.
-/

namespace FaultInject.ReproPackage
open Python Harness Glob

/-- These are the patterns of the files of a package. -/
def patterns (config : Package) : List String :=
  (config.raw :: config.extraRaw).map (· ++ "/*") ++ (faultinjectDir ++ "/*.py") :: config.extraGlobs

/-- A package has its documents and the files of its patterns. -/
def Selected (config : Package) (path : String) : Prop :=
  path ∈ config.documents ∨ ∃ pattern ∈ patterns config, globMatch pattern path = true

/-- These are the components of the directory of the runs. -/
def rawFolder : List String := ["docs", "research", "baselines", "raw"]

/-- These are the components of the directory of the program. -/
def sourceFolder : List String := ["tools", "faultinject"]

/-- The directory of a run is among the runs. -/
structure RawDir (rawDir : String) : Prop where
  folder : folder rawDir = rawFolder
  plain : ∀ character ∈ rawDir.toList, Plain character

/-- A document is neither in the directory of a run nor in that of the program. -/
structure Loose (document : String) : Prop where
  raw : rawFolder <+: folder document → folder document = rawFolder
  source : ¬sourceFolder <+: folder document

/-- The parts of a package do not overlap. -/
structure Apart (config : Package) : Prop where
  raws : (config.raw :: config.extraRaw).Nodup
  rawDirs : ∀ rawDir ∈ config.raw :: config.extraRaw, RawDir rawDir
  globs : config.extraGlobs = [] ∨ config.extraGlobs = [faultinjectDir ++ "/tests/*.py"]
  documents : config.documents.Nodup
  loose : ∀ document ∈ config.documents, Loose document
  covers : ∀ required ∈ config.requiredFiles,
    required ∈ config.documents ∨ globMatch (faultinjectDir ++ "/*.py") required = true
  extra : ∀ artifact ∈ config.extraArtifacts, artifact.2.1 ∈ config.extraRaw

section Table

/-- These are the characters of the components of the directory of the runs. -/
def rawCharacters : List (List Char) :=
  [['d', 'o', 'c', 's'], ['r', 'e', 's', 'e', 'a', 'r', 'c', 'h'],
    ['b', 'a', 's', 'e', 'l', 'i', 'n', 'e', 's'], ['r', 'a', 'w']]

def sourceCharacters : List (List Char) :=
  [['t', 'o', 'o', 'l', 's'], ['f', 'a', 'u', 'l', 't', 'i', 'n', 'j', 'e', 'c', 't']]

def isRawDir (characters : List Char) : Bool :=
  (characters.splitOn '/').dropLast == rawCharacters && characters.all fun character => Plain character

def isLoose (characters : List Char) : Bool :=
  let folder := (characters.splitOn '/').dropLast
  (!rawCharacters.isPrefixOf folder || folder == rawCharacters) && !sourceCharacters.isPrefixOf folder

/-- These are the characters of a program behind its directory. -/
def isSource (characters : List Char) : Bool :=
  characters.head? == some '/' && ['.', 'p', 'y'].isSuffixOf characters.tail && '/' ∉ characters.tail

theorem map_rawCharacters : rawCharacters.map String.ofList = rawFolder := rfl

theorem map_sourceCharacters : sourceCharacters.map String.ofList = sourceFolder := rfl

theorem map_toList (lists : List (List Char)) : (lists.map String.ofList).map String.toList = lists := by
  rw [List.map_map]
  exact List.map_id'' (fun _ => String.toList_ofList) lists

theorem rawDir_of_characters {characters : List Char} (checked : isRawDir characters = true) :
    RawDir (String.ofList characters) := by
  rw [isRawDir, Bool.and_eq_true, beq_iff_eq, List.all_eq_true] at checked
  constructor
  · rw [folder_ofList, checked.1, map_rawCharacters]
  · rw [String.toList_ofList]
    exact plain_of_all (List.all_eq_true.mpr checked.2)

theorem loose_of_characters {characters : List Char} (checked : isLoose characters = true) :
    Loose (String.ofList characters) := by
  simp only [isLoose, Bool.and_eq_true, Bool.or_eq_true, Bool.not_eq_true', beq_iff_eq,
    ← Bool.not_eq_true, List.isPrefixOf_iff_prefix] at checked
  obtain ⟨raw, source⟩ := checked
  constructor
  · intro inside
    rw [folder_ofList, ← map_rawCharacters] at inside ⊢
    have within := inside.map String.toList
    rw [map_toList, map_toList] at within
    rw [raw.resolve_left (not_not_intro within)]
  · intro inside
    rw [folder_ofList, ← map_sourceCharacters] at inside
    have within := inside.map String.toList
    rw [map_toList, map_toList] at within
    exact source within

theorem source_eq : faultinjectDir ++ "/*.py" = faultinjectDir ++ "/" ++ "*.py" := by
  rw [String.append_assoc]
  rfl

theorem split_faultinjectDir : split faultinjectDir '/' = sourceFolder := by
  rw [split, show faultinjectDir.toList = _ from String.toList_ofList]
  rfl

/-- A program of the directory is one of its Python files. -/
theorem globMatch_of_isSource {characters : List Char} (checked : isSource characters = true) :
    globMatch (faultinjectDir ++ "/*.py") (faultinjectDir ++ String.ofList characters) = true := by
  simp only [isSource, Bool.and_eq_true, beq_iff_eq, List.isSuffixOf_iff_suffix,
    decide_eq_true_eq] at checked
  obtain ⟨⟨head, last⟩, clean⟩ := checked
  obtain ⟨stem, rfl⟩ := List.head?_eq_some_iff.mp head
  rw [List.tail_cons] at last clean
  have path : faultinjectDir ++ String.ofList ('/' :: stem) =
      faultinjectDir ++ "/" ++ String.ofList stem := by
    rw [String.append_assoc, ← List.singleton_append, String.ofList_append]
  rw [← @String.toList_ofList stem] at clean
  rw [source_eq, path, globMatch_iff, folder_append _ clean, folder_append _ (by decide),
    base_append _ clean, base_append _ (by decide), and_iff_right rfl]
  · obtain ⟨front, rfl⟩ := last
    exact fnmatch_star (fun _ none => absurd none List.not_mem_nil)
      (plain_of_all (by decide) : ∀ character ∈ ['.', 'p', 'y'], Plain character) front
  · rw [PlainFolder, folder_append _ (by decide), split_faultinjectDir, ← map_sourceCharacters]
    exact plain_parts (by decide)

theorem apart_of_spells {config : Package} {raws documents : List (List Char)}
    (rawTexts : Spells (config.raw :: config.extraRaw) raws)
    (documentTexts : Spells config.documents documents)
    (checked : (decide raws.Nodup && decide documents.Nodup && raws.all isRawDir &&
      documents.all isLoose) = true)
    (globs : config.extraGlobs = [] ∨ config.extraGlobs = [faultinjectDir ++ "/tests/*.py"])
    (covers : ∀ required ∈ config.requiredFiles, required ∈ config.documents ∨
      ∃ characters, required = faultinjectDir ++ String.ofList characters ∧
        isSource characters = true)
    (extra : ∀ artifact ∈ config.extraArtifacts, artifact.2.1 ∈ config.extraRaw) : Apart config := by
  simp only [Bool.and_eq_true, decide_eq_true_eq, List.all_eq_true] at checked
  obtain ⟨⟨⟨rawNodup, documentNodup⟩, rawDirs⟩, loose⟩ := checked
  refine ⟨rawTexts.nodup rawNodup, ?_, globs, documentTexts.nodup documentNodup, ?_, ?_, extra⟩
  · exact rawTexts.forall_mem fun characters member => rawDir_of_characters (rawDirs characters member)
  · exact documentTexts.forall_mem fun characters member =>
      loose_of_characters (loose characters member)
  · intro required member
    rcases covers required member with document | ⟨characters, rfl, source⟩
    · exact .inl document
    · exact .inr (globMatch_of_isSource source)

/-- The parts of every package do not overlap. -/
theorem apart_of_mem : ∀ entry ∈ packages, Apart entry.2 := by
  rw [packages]
  repeat rw [List.forall_mem_cons]
  refine ⟨?_, ?_, ?_, ?_, ?_, ?_, ?_, ?_, List.forall_mem_nil _⟩ <;>
    apply apart_of_spells (by repeat constructor) (by repeat constructor) (by decide +kernel)
      (by first | exact .inl rfl | exact .inr rfl)
  all_goals
    repeat' first
      | exact List.forall_mem_nil _
      | refine List.forall_mem_cons.mpr ⟨?_, ?_⟩
      | exact .inr ⟨_, rfl, by decide +kernel⟩
      | apply Or.inl
      | exact List.mem_cons_self
      | apply List.mem_cons_of_mem

end Table

section Layout
variable {config : Package} {rawDir pattern document path : String}

theorem RawDir.split_eq (own : RawDir rawDir) : split rawDir '/' = rawFolder ++ [base rawDir] := by
  rw [← folder_base, own.folder]

theorem RawDir.plainFolder (own : RawDir rawDir) : PlainFolder (rawDir ++ "/*") := by
  intro part member character inside
  rw [folder_star] at member
  apply own.plain
  rw [← join_split rawDir '/']
  exact mem_join_of_mem member inside

theorem folder_source : folder (faultinjectDir ++ "/*.py") = sourceFolder := by
  rw [source_eq, folder_append _ (by decide), split_faultinjectDir]

theorem folder_tests : folder (faultinjectDir ++ "/tests/*.py") = sourceFolder ++ ["tests"] := by
  have path : faultinjectDir ++ "/tests/*.py" = faultinjectDir ++ "/" ++ "tests" ++ "/" ++ "*.py" := by
    rw [String.append_assoc, String.append_assoc, String.append_assoc]
    rfl
  rw [path, folder_append _ (by decide), split_slash, split_faultinjectDir,
    split_singleton (by decide)]

/-- The patterns of a package are those of its runs, of the program and of the tests. -/
theorem Apart.pattern_cases (apart : Apart config) (member : pattern ∈ patterns config) :
    (∃ rawDir ∈ config.raw :: config.extraRaw, pattern = rawDir ++ "/*") ∨
      pattern = faultinjectDir ++ "/*.py" ∨ pattern = faultinjectDir ++ "/tests/*.py" := by
  rw [patterns, List.mem_append, List.mem_cons] at member
  rcases member with raw | source | test
  · obtain ⟨rawDir, known, rfl⟩ := List.mem_map.mp raw
    exact .inl ⟨rawDir, known, rfl⟩
  · exact .inr (.inl source)
  · rcases apart.globs with none | one
    · rw [none] at test
      cases test
    · rw [one, List.mem_singleton] at test
      exact .inr (.inr test)

theorem Apart.plain (apart : Apart config) (member : pattern ∈ patterns config) :
    PlainFolder pattern := by
  rcases apart.pattern_cases member with ⟨rawDir, known, rfl⟩ | rfl | rfl
  · exact (apart.rawDirs rawDir known).plainFolder
  · rw [PlainFolder, folder_source, ← map_sourceCharacters]
    exact plain_parts (by decide)
  · have tests : sourceFolder ++ ["tests"] =
        (sourceCharacters ++ [['t', 'e', 's', 't', 's']]).map String.ofList := rfl
    rw [PlainFolder, folder_tests, tests]
    exact plain_parts (by decide)

/-- The folder of a run is not one of the program. -/
theorem RawDir.split_ne (own : RawDir rawDir) (rest : List String) :
    split rawDir '/' ≠ sourceFolder ++ rest := by
  rw [own.split_eq]
  intro same
  exact absurd (List.cons.inj same).1 (by decide)

/-- Two patterns have different folders. -/
theorem Apart.folders (apart : Apart config) : ((patterns config).map folder).Nodup := by
  have raws : (((config.raw :: config.extraRaw).map (· ++ "/*")).map folder) =
      (config.raw :: config.extraRaw).map (split · '/') := by
    rw [List.map_map]
    exact List.map_congr_left fun rawDir _ => folder_star rawDir
  have injective : Function.Injective (split · '/') := by
    intro first second same
    rw [← join_split first '/', ← join_split second '/']
    exact congrArg (join '/') same
  have others : (((faultinjectDir ++ "/*.py") :: config.extraGlobs).map folder) = [sourceFolder] ∨
      (((faultinjectDir ++ "/*.py") :: config.extraGlobs).map folder) =
        [sourceFolder, sourceFolder ++ ["tests"]] := by
    rw [List.map_cons, folder_source]
    rcases apart.globs with none | one
    · rw [none]
      exact .inl rfl
    · rw [one, List.map_singleton, folder_tests]
      exact .inr rfl
  have free : ∀ rest, sourceFolder ++ rest ∉ (config.raw :: config.extraRaw).map (split · '/') := by
    intro rest member
    obtain ⟨rawDir, known, same⟩ := List.mem_map.mp member
    exact (apart.rawDirs rawDir known).split_ne rest same
  rw [patterns, List.map_append, raws, List.nodup_append']
  refine ⟨apart.raws.map injective, ?_, ?_⟩
  · rcases others with one | two
    · rw [one]
      decide
    · rw [two]
      decide
  · intro other known member
    rcases others with one | two
    · rw [one, List.mem_singleton] at member
      exact free [] (by rwa [List.append_nil, ← member])
    · rw [two, List.mem_cons, List.mem_singleton] at member
      rcases member with rfl | rfl
      · exact free [] (by rwa [List.append_nil])
      · exact free ["tests"] known

/-- No pattern matches a document. -/
theorem Apart.document_free (apart : Apart config) (member : document ∈ config.documents)
    (known : pattern ∈ patterns config) : globMatch pattern document ≠ true := by
  have loose := apart.loose document member
  rw [ne_eq, globMatch_iff (apart.plain known)]
  rintro ⟨inside, _⟩
  rcases apart.pattern_cases known with ⟨rawDir, raw, rfl⟩ | rfl | rfl
  · rw [folder_star, (apart.rawDirs rawDir raw).split_eq] at inside
    have same := loose.raw (inside ▸ List.prefix_append _ _)
    rw [inside] at same
    exact absurd (congrArg List.length same) (by simp)
  · rw [folder_source] at inside
    exact loose.source (inside ▸ List.prefix_rfl)
  · rw [folder_tests] at inside
    exact loose.source (inside ▸ List.prefix_append _ _)

/-- A file of a package that begins with the directory of a run is directly in it. -/
theorem Apart.prefix_iff_glob (apart : Apart config) (known : rawDir ∈ config.raw :: config.extraRaw)
    (selected : Selected config path) :
    (rawDir ++ "/").toList <+: path.toList ↔ globMatch (rawDir ++ "/*") path = true := by
  have own := apart.rawDirs rawDir known
  rw [prefix_iff, globMatch_all own.plainFolder]
  refine ⟨fun inside => ?_, fun same => same ▸ List.prefix_rfl⟩
  rcases selected with document | ⟨pattern, member, found⟩
  · have loose := apart.loose path document
    rw [own.split_eq] at inside
    have same := loose.raw ((List.prefix_append _ _).trans inside)
    rw [same] at inside
    exact absurd inside.length_le (by simp)
  · have place := ((globMatch_iff (apart.plain member)).mp found).1
    rcases apart.pattern_cases member with ⟨other, raw, rfl⟩ | rfl | rfl
    · rw [folder_star] at place
      rw [place] at inside ⊢
      refine (inside.eq_of_length ?_).symm
      rw [own.split_eq, (apart.rawDirs other raw).split_eq, List.length_append, List.length_append]
      rfl
    · rw [place, folder_source, own.split_eq] at inside
      exact absurd (List.cons_prefix_cons.mp inside).1 (by decide)
    · rw [place, folder_tests, own.split_eq] at inside
      exact absurd (List.cons_prefix_cons.mp inside).1 (by decide)

end Layout

section Build
variable {root : Directory} {config : Package} {rawDir pattern path : String}

theorem isFile_iff : root.isFile path = true ↔ path ∈ root.entries.map Prod.fst := by
  rw [Directory.isFile, Dict.contains, Option.isSome_iff_exists, List.mem_map]
  constructor
  · rintro ⟨file, found⟩
    exact ⟨(path, file), Dict.get?_eq_some.mp found, rfl⟩
  · rintro ⟨⟨_, file⟩, member, rfl⟩
    exact ⟨file, Dict.get?_eq_some.mpr member⟩

theorem mem_glob :
    path ∈ root.glob pattern ↔ root.isFile path = true ∧ globMatch pattern path = true := by
  rw [Directory.glob, List.mem_filter, isFile_iff]

theorem nodup_glob (root : Directory) (pattern : String) : (root.glob pattern).Nodup :=
  root.distinct.filter _

/-- The members are the files of the patterns and the documents. -/
theorem members_perm (root : Directory) (config : Package) :
    (members root config).Perm ((patterns config).flatMap root.glob ++ config.documents) := by
  have sorted (pattern : String) : (sortedGlob root pattern).Perm (root.glob pattern) :=
    List.perm_insertionSort _ _
  have parts : (patterns config).flatMap root.glob =
      root.glob (config.raw ++ "/*") ++
        config.extraRaw.flatMap (fun rawDir => root.glob (rawDir ++ "/*")) ++
        (root.glob (faultinjectDir ++ "/*.py") ++ config.extraGlobs.flatMap root.glob) := by
    rw [patterns, List.flatMap_append, List.map_cons, List.flatMap_cons, List.flatMap_cons,
      List.flatMap_map]
  have raws : (config.extraRaw.flatMap fun rawDir => sortedGlob root (rawDir ++ "/*")).Perm
      (config.extraRaw.flatMap fun rawDir => root.glob (rawDir ++ "/*")) :=
    List.Perm.flatMap_left _ fun rawDir _ => sorted _
  have tests : (config.extraGlobs.flatMap (sortedGlob root)).Perm (config.extraGlobs.flatMap root.glob) :=
    List.Perm.flatMap_left _ fun pattern _ => sorted pattern
  rw [parts, members, List.append_assoc _ config.documents, List.append_assoc (_ ++ _),
    List.append_assoc (_ ++ _), List.append_assoc _ _ config.documents]
  apply ((sorted _).append raws).append
  exact (sorted _).append (List.perm_append_comm.trans (tests.append_right _))

theorem mem_members : path ∈ members root config ↔
    path ∈ config.documents ∨ root.isFile path = true ∧ Selected config path := by
  rw [(members_perm root config).mem_iff, List.mem_append, List.mem_flatMap, Selected]
  constructor
  · rintro (⟨pattern, known, found⟩ | document)
    · rw [mem_glob] at found
      exact .inr ⟨found.1, .inr ⟨pattern, known, found.2⟩⟩
    · exact .inl document
  · rintro (document | ⟨file, document | ⟨pattern, known, found⟩⟩)
    · exact .inr document
    · exact .inr document
    · exact .inl ⟨pattern, known, mem_glob.mpr ⟨file, found⟩⟩

/-- No member is packed twice. -/
theorem Apart.nodup_members (apart : Apart config) : (members root config).Nodup := by
  rw [(members_perm root config).nodup_iff, List.nodup_append']
  refine ⟨?_, apart.documents, ?_⟩
  · rw [List.nodup_flatMap]
    refine ⟨fun pattern _ => nodup_glob root pattern, ?_⟩
    have folders := apart.folders
    rw [List.Nodup, List.pairwise_map] at folders
    apply folders.imp_of_mem
    intro first second known other different path here there
    rw [mem_glob, globMatch_iff (apart.plain known)] at here
    rw [mem_glob, globMatch_iff (apart.plain other)] at there
    exact different (here.2.1.symm.trans there.2.1)
  · intro path member document
    obtain ⟨pattern, known, found⟩ := List.mem_flatMap.mp member
    exact apart.document_free document known (mem_glob.mp found).2

/-- These are the names in the archive of a package. -/
def archiveNames (root : Directory) (config : Package) : List String :=
  (members root config).filter root.isFile

theorem mem_archiveNames :
    path ∈ archiveNames root config ↔ root.isFile path = true ∧ Selected config path := by
  rw [archiveNames, List.mem_filter, mem_members]
  constructor
  · rintro ⟨document | both, file⟩
    · exact ⟨file, .inl document⟩
    · exact both
  · exact fun both => ⟨.inr both, both.1⟩

/-- The files of the archive that begin with the directory of a run are those of the run. -/
theorem Apart.rawNames_perm (apart : Apart config) (known : rawDir ∈ config.raw :: config.extraRaw) :
    ((archiveNames root config).filter (startsWith s!"{rawDir}/")).Perm
      (root.glob s!"{rawDir}/*") := by
  have distinct : (archiveNames root config).Nodup := apart.nodup_members.filter _
  rw [List.perm_ext_iff_of_nodup (distinct.filter _) (nodup_glob root _)]
  intro path
  rw [List.mem_filter, mem_archiveNames, mem_glob, startsWith, List.isPrefixOf_iff_prefix]
  have pattern : rawDir ++ "/*" ∈ patterns config :=
    List.mem_append_left _ (List.mem_map_of_mem known)
  constructor
  · rintro ⟨⟨file, selected⟩, inside⟩
    exact ⟨file, (apart.prefix_iff_glob known selected).mp inside⟩
  · rintro ⟨file, found⟩
    have selected : Selected config path := .inr ⟨_, pattern, found⟩
    exact ⟨⟨file, selected⟩, (apart.prefix_iff_glob known selected).mpr found⟩

/-- This is the number of artifacts in the directory of a run. -/
def artifactCount (root : Directory) (rawDir suffix : String) : Nat :=
  (root.glob s!"{rawDir}/*").countP (endsWith suffix)

theorem Apart.countP_rawNames (apart : Apart config) (known : rawDir ∈ config.raw :: config.extraRaw)
    (suffix : String) :
    ((archiveNames root config).filter (startsWith s!"{rawDir}/")).countP (endsWith suffix) =
      artifactCount root rawDir suffix := (apart.rawNames_perm known).countP_eq _

/-- No file of the package has a marker of diagnostic data. -/
def Unmarked (root : Directory) (config : Package) : Prop :=
  ∀ path, root.isFile path = true → Selected config path →
    ∀ marker ∈ config.excluded, ¬marker.toList <:+: path.toList

/-- The repository has what the check of a package asks for. -/
structure Acceptable (root : Directory) (config : Package) : Prop where
  required : ∀ required ∈ config.requiredFiles, root.isFile required = true
  artifacts : ∀ artifact ∈ config.artifacts,
    artifact.2.2 ≤ artifactCount root config.raw artifact.2.1
  extra : ∀ artifact ∈ config.extraArtifacts,
    artifact.2.2.2 ≤ artifactCount root artifact.2.1 artifact.2.2.1
  unmarked : Unmarked root config

theorem not_isIn_iff {marker name : String} : isIn marker name = false ↔ ¬marker.toList <:+: name.toList := by
  rw [← Bool.not_eq_true, not_iff_not]
  refine ⟨fun found => ?_, isIn_of_infix⟩
  rw [isIn, List.any_eq_true] at found
  obtain ⟨tail, behind, front⟩ := found
  rw [List.mem_tails] at behind
  exact (List.isPrefixOf_iff_prefix.mp front).isInfix.trans behind.isInfix

/-- The names of a built archive. -/
theorem map_fst_built (root : Directory) (paths : List String) :
    (paths.filterMap fun path => (root.get? path).map fun file => (path, file.readBytes)).map Prod.fst =
      paths.filter root.isFile := by
  induction paths with
  | nil => rfl
  | cons path paths ih =>
      rw [List.filterMap_cons, List.filter_cons, Directory.isFile, Dict.contains]
      cases root.get? path with
      | none => exact ih
      | some file =>
          rw [Option.map_some, List.map_cons, ih]
          rfl

theorem Apart.of_item {package : String} (known : Dict.item packages package = .ok config) :
    Apart config := by
  unfold Dict.item at known
  split at known
  · rename_i value found
    cases known
    obtain ⟨before, behind, whole, _⟩ := List.lookup_eq_some_iff.mp found
    have member : (package, config) ∈ packages := by
      rw [whole]
      exact List.mem_append_right _ List.mem_cons_self
    exact apart_of_mem _ member
  · cases known

theorem filter_lt_eq_nil {A : Type} {entries : List A} {number minimum : A → Nat} :
    (entries.filter fun entry => decide (number entry < minimum entry)) = [] ↔
      ∀ entry ∈ entries, minimum entry ≤ number entry := by
  rw [List.filter_eq_nil_iff]
  refine forall₂_congr fun entry _ => ?_
  rw [decide_eq_true_eq, Nat.not_lt]

/-- A required file is missing when the repository does not have it. -/
theorem Apart.missing_eq_nil (apart : Apart config) :
    (config.requiredFiles.filter fun required => required ∉ archiveNames root config) = [] ↔
      ∀ required ∈ config.requiredFiles, root.isFile required = true := by
  rw [List.filter_eq_nil_iff]
  refine forall₂_congr fun required member => ?_
  rw [decide_eq_true_eq, not_not, mem_archiveNames, and_iff_left]
  rcases apart.covers required member with document | source
  · exact .inl document
  · exact .inr ⟨_, List.mem_append_right _ List.mem_cons_self, source⟩

theorem Apart.few_eq_nil (apart : Apart config) :
    (config.artifacts.filter fun artifact =>
      ((archiveNames root config).filter (startsWith s!"{config.raw}/")).countP
        (endsWith artifact.2.1) < artifact.2.2) = [] ↔
      ∀ artifact ∈ config.artifacts, artifact.2.2 ≤ artifactCount root config.raw artifact.2.1 := by
  rw [filter_lt_eq_nil]
  refine forall₂_congr fun artifact _ => ?_
  rw [apart.countP_rawNames List.mem_cons_self]

theorem Apart.fewExtra_eq_nil (apart : Apart config) :
    (config.extraArtifacts.filter fun artifact =>
      (archiveNames root config).countP (fun name =>
        startsWith s!"{artifact.2.1}/" name && endsWith artifact.2.2.1 name) <
          artifact.2.2.2) = [] ↔
      ∀ artifact ∈ config.extraArtifacts,
        artifact.2.2.2 ≤ artifactCount root artifact.2.1 artifact.2.2.1 := by
  rw [filter_lt_eq_nil]
  refine forall₂_congr fun artifact member => ?_
  have known : artifact.2.1 ∈ config.raw :: config.extraRaw :=
    List.mem_cons_of_mem _ (apart.extra artifact member)
  have count := @Apart.countP_rawNames root config artifact.2.1 apart known artifact.2.2.1
  rw [List.countP_filter] at count
  simp only [Bool.and_comm (endsWith _ _)] at count
  rw [count]

theorem diagnostic_eq_false :
    ((archiveNames root config).any fun name => config.excluded.any fun marker => isIn marker name) =
        false ↔ Unmarked root config := by
  rw [List.any_eq_false, Unmarked]
  constructor
  · intro clean path file selected marker known
    have free := clean path (mem_archiveNames.mpr ⟨file, selected⟩)
    rw [Bool.not_eq_true, List.any_eq_false] at free
    exact not_isIn_iff.mp (Bool.not_eq_true _ ▸ free marker known)
  · intro clean path member found
    obtain ⟨file, selected⟩ := mem_archiveNames.mp member
    obtain ⟨marker, known, inside⟩ := List.any_eq_true.mp found
    rw [not_isIn_iff.mpr (clean path file selected marker known)] at inside
    cases inside

/-- This is the archive of a package. -/
def packed (root : Directory) (config : Package) : Archive :=
  (members root config).filterMap fun path => (root.get? path).map fun file => (path, file.readBytes)

theorem buildZip_eq {package : String} (root : Directory)
    (known : Dict.item packages package = .ok config) :
    buildZip root package = .ok (packed root config) := by
  rw [buildZip, known, ok_bind, packed]

theorem names_packed (root : Directory) (config : Package) :
    (packed root config).map Prod.fst = archiveNames root config := map_fst_built root _

theorem mem_packed {content : Bytes} : (path, content) ∈ packed root config ↔
    Selected config path ∧ ∃ file, root.get? path = some file ∧ content = file.readBytes := by
  rw [packed, List.mem_filterMap]
  constructor
  · rintro ⟨member, inside, found⟩
    obtain ⟨file, present, same⟩ := Option.map_eq_some_iff.mp found
    cases same
    refine ⟨?_, file, present, rfl⟩
    rcases mem_members.mp inside with document | both
    · exact .inl document
    · exact both.2
  · rintro ⟨selected, file, present, rfl⟩
    refine ⟨path, mem_members.mpr (.inr ⟨?_, selected⟩), by rw [present]; rfl⟩
    rw [Directory.isFile, Dict.contains, present]
    rfl

/-- The check accepts the archive of a package exactly when the repository is acceptable. -/
theorem verifyZip_packed {package : String} (root : Directory)
    (known : Dict.item packages package = .ok config) :
    ∃ missing accepted, verifyZip (packed root config) package = .ok (accepted, missing) ∧
      (accepted = true ↔ Acceptable root config) := by
  have apart := Apart.of_item known
  refine ⟨_, _, by rw [verifyZip, known, ok_bind], ?_⟩
  rw [List.isEmpty_iff, List.append_eq_nil_iff, List.append_eq_nil_iff, List.append_eq_nil_iff,
    List.map_eq_nil_iff, List.map_eq_nil_iff, names_packed, apart.missing_eq_nil,
    apart.few_eq_nil, apart.fewExtra_eq_nil, ite_eq_right_iff]
  constructor
  · rintro ⟨⟨⟨required, artifacts⟩, extra⟩, unmarked⟩
    refine ⟨required, artifacts, extra, diagnostic_eq_false.mp (Bool.eq_false_iff.mpr fun marked => ?_)⟩
    cases unmarked marked
  · rintro ⟨required, artifacts, extra, unmarked⟩
    refine ⟨⟨⟨required, artifacts⟩, extra⟩, fun marked => ?_⟩
    rw [diagnostic_eq_false.mpr unmarked] at marked
    cases marked

/-- The check of a built package accepts it exactly when the repository has all required files,
enough artifacts of each kind and no marked file. The archive has each file of the package once
with its content. -/
theorem verifyZip_buildZip (root : Directory) {package : String} {config : Package}
    (known : Dict.item packages package = .ok config) :
    ∃ archive missing accepted, buildZip root package = .ok archive ∧
      verifyZip archive package = .ok (accepted, missing) ∧ (archive.map Prod.fst).Nodup ∧
      (∀ path content, (path, content) ∈ archive ↔
        Selected config path ∧ ∃ file, root.get? path = some file ∧ content = file.readBytes) ∧
      (accepted = true ↔ Acceptable root config) := by
  obtain ⟨missing, accepted, checked, accepts⟩ := verifyZip_packed root known
  refine ⟨_, missing, accepted, buildZip_eq root known, checked, ?_, fun _ _ => mem_packed, accepts⟩
  rw [names_packed]
  exact (Apart.of_item known).nodup_members.filter _

end Build

section Sample
variable {config : Package} {rawDir suffix path : String}

/-- These names differ in the number of a character that no marker has. -/
def sampleName (suffix : String) (number : Nat) : String :=
  String.ofList (List.replicate (number + 1) 'z' ++ suffix.toList)

def sampleArtifacts (rawDir suffix : String) (number : Nat) : List String :=
  (List.range number).map fun index => rawDir ++ "/" ++ sampleName suffix index

/-- These are the required files with the least number of artifacts of each kind. -/
def samplePaths (config : Package) : List String :=
  config.requiredFiles ++
    config.artifacts.flatMap (fun artifact => sampleArtifacts config.raw artifact.2.1 artifact.2.2) ++
    config.extraArtifacts.flatMap fun artifact =>
      sampleArtifacts artifact.2.1 artifact.2.2.1 artifact.2.2.2

def sampleTree (config : Package) : Directory :=
  .ofEntries ((samplePaths config).map fun path => (path, .text ""))

theorem isFile_sampleTree : (sampleTree config).isFile path = true ↔ path ∈ samplePaths config := by
  rw [Directory.isFile, Dict.contains, sampleTree, Dict.get?_ofEntries_isSome, List.map_map]
  exact iff_of_eq (congrArg (path ∈ ·) (List.map_id _))

theorem toList_sampleName (suffix : String) (number : Nat) :
    (sampleName suffix number).toList = List.replicate (number + 1) 'z' ++ suffix.toList :=
  String.toList_ofList

theorem slash_notMem_sampleName (plain : '/' ∉ suffix.toList) (number : Nat) :
    '/' ∉ (sampleName suffix number).toList := by
  rw [toList_sampleName, List.mem_append, not_or]
  exact ⟨fun member => absurd (List.eq_of_mem_replicate member) (by decide), plain⟩

theorem nodup_sampleArtifacts (rawDir suffix : String) (number : Nat) :
    (sampleArtifacts rawDir suffix number).Nodup := by
  apply List.nodup_range.map
  intro first second same
  have names := congrArg String.toList ((String.append_right_inj _).mp same)
  rw [toList_sampleName, toList_sampleName, List.append_left_inj] at names
  have counts := congrArg List.length names
  rw [List.length_replicate, List.length_replicate] at counts
  omega

/-- A tree with the files has their number of artifacts. -/
theorem le_artifactCount {root : Directory} (own : RawDir rawDir) (plain : '/' ∉ suffix.toList)
    {number : Nat} (present : ∀ path ∈ sampleArtifacts rawDir suffix number, root.isFile path = true) :
    number ≤ artifactCount root rawDir suffix := by
  have width : (sampleArtifacts rawDir suffix number).length = number := by
    rw [sampleArtifacts, List.length_map, List.length_range]
  rw [artifactCount, List.countP_eq_length_filter, ← width]
  apply (List.subperm_of_subset (nodup_sampleArtifacts rawDir suffix number) _).length_le
  intro path member
  have file := present path member
  obtain ⟨index, _, rfl⟩ := List.mem_map.mp member
  rw [List.mem_filter, mem_glob]
  refine ⟨⟨file, (globMatch_all own.plainFolder).mpr ?_⟩, ?_⟩
  · exact folder_append rawDir (slash_notMem_sampleName plain index)
  · rw [endsWith, List.isSuffixOf_iff_suffix, String.toList_append, toList_sampleName]
    exact (List.suffix_append _ _).trans (List.suffix_append _ _)

/-- These are the texts in front of the names and behind them. -/
def sampleEnds (config : Package) : List String :=
  (config.raw :: config.extraArtifacts.map fun artifact => artifact.2.1).map (· ++ "/") ++
    config.artifacts.map (fun artifact => artifact.2.1) ++
    config.extraArtifacts.map fun artifact => artifact.2.2.1

/-- No marker is in a required file, and none can be in an artifact. -/
def Clear (config : Package) : Prop :=
  ∀ marker ∈ config.excluded, 'z' ∉ marker.toList ∧
    ∀ text ∈ config.requiredFiles ++ sampleEnds config, ¬marker.toList <:+: text.toList

theorem not_infix_sampleArtifact (clear : Clear config) {marker : String}
    (known : marker ∈ config.excluded) {number : Nat} (front : rawDir ++ "/" ∈ sampleEnds config)
    (back : suffix ∈ sampleEnds config) (member : path ∈ sampleArtifacts rawDir suffix number) :
    ¬marker.toList <:+: path.toList := by
  intro inside
  obtain ⟨index, _, rfl⟩ := List.mem_map.mp member
  obtain ⟨plain, free⟩ := clear marker known
  rw [String.toList_append, toList_sampleName] at inside
  rcases infix_append_replicate plain index inside with early | late
  · exact free _ (List.mem_append_right _ front) early
  · exact free _ (List.mem_append_right _ back) late

theorem acceptable_sampleTree (apart : Apart config) (clear : Clear config)
    (plain : ∀ text ∈ config.artifacts.map (fun artifact => artifact.2.1) ++
      config.extraArtifacts.map (fun artifact => artifact.2.2.1), '/' ∉ text.toList) :
    Acceptable (sampleTree config) config := by
  have own : ∀ rawDir ∈ config.raw :: config.extraRaw, RawDir rawDir := apart.rawDirs
  constructor
  · intro required member
    exact isFile_sampleTree.mpr (List.mem_append_left _ (List.mem_append_left _ member))
  · intro artifact member
    apply le_artifactCount (own _ List.mem_cons_self)
    · exact plain _ (List.mem_append_left _ (List.mem_map_of_mem member))
    · intro path inside
      apply isFile_sampleTree.mpr (List.mem_append_left _ (List.mem_append_right _ _))
      exact List.mem_flatMap.mpr ⟨artifact, member, inside⟩
  · intro artifact member
    apply le_artifactCount (own _ (List.mem_cons_of_mem _ (apart.extra artifact member)))
    · exact plain _ (List.mem_append_right _ (List.mem_map_of_mem member))
    · intro path inside
      apply isFile_sampleTree.mpr (List.mem_append_right _ _)
      exact List.mem_flatMap.mpr ⟨artifact, member, inside⟩
  · intro path file _ marker known
    have member := isFile_sampleTree.mp file
    rw [samplePaths, List.mem_append, List.mem_append, List.mem_flatMap, List.mem_flatMap] at member
    rcases member with (required | ⟨artifact, listed, inside⟩) | ⟨artifact, listed, inside⟩
    · exact (clear marker known).2 path (List.mem_append_left _ required)
    · refine not_infix_sampleArtifact clear known ?_ ?_ inside
      · exact List.mem_append_left _ (List.mem_append_left _ List.mem_cons_self)
      · exact List.mem_append_left _ (List.mem_append_right _ (List.mem_map_of_mem listed))
    · refine not_infix_sampleArtifact clear known ?_ ?_ inside
      · apply List.mem_append_left _ (List.mem_append_left _ (List.mem_map_of_mem _))
        exact List.mem_cons_of_mem _ (List.mem_map_of_mem listed)
      · exact List.mem_append_right _ (List.mem_map_of_mem listed)

end Sample

/-- A repository with all files that the check asks for gives a package that is accepted. -/
theorem verifyZip_buildZip_sample : ∃ archive missing,
    buildZip (sampleTree v18Package) "v1.8" = .ok archive ∧
      verifyZip archive "v1.8" = .ok (true, missing) := by
  have known : Dict.item packages "v1.8" = .ok v18Package := rfl
  obtain ⟨archive, missing, accepted, built, checked, _, _, accepts⟩ :=
    verifyZip_buildZip (sampleTree v18Package) known
  have clear : Clear v18Package := by
    unfold Clear
    decide +kernel
  have whole := acceptable_sampleTree (Apart.of_item known) clear (by decide +kernel)
  exact ⟨archive, missing, built, accepts.mpr whole ▸ checked⟩

end FaultInject.ReproPackage
