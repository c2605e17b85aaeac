import FaultInject.Python.Glob
import Mathlib.Data.List.Nodup

/-
This file has the rules of patterns for the files of one folder.
-/

namespace FaultInject.Python.Glob
open Python

/-- These are the components of the folder of a path. -/
def folder (path : String) : List String := (split path '/').dropLast

/-- This is the last component of a path. -/
def base (path : String) : String := (split path '/').getLastD ""

/-- No character of the folder has a meaning in a pattern. -/
def PlainFolder (path : String) : Prop :=
  ∀ part ∈ folder path, ∀ character ∈ part.toList, Plain character

theorem split_ne_nil (text : String) (separator : Char) : split text separator ≠ [] := by
  rw [split, ne_eq, List.map_eq_nil_iff]
  exact List.splitOn_ne_nil _ _

/-- The components are those of the folder and the last one. -/
theorem folder_base (path : String) : folder path ++ [base path] = split path '/' := by
  have some := split_ne_nil path '/'
  rw [folder, base, List.getLastD_eq_getLast?, List.getLast?_eq_some_getLast some]
  exact List.dropLast_append_getLast some

/-- A path is its folder and its last component. -/
theorem path_eq {path other : String} (same : folder path = folder other)
    (last : base path = base other) : path = other := by
  rw [← join_split path '/', ← join_split other '/', ← folder_base, ← folder_base, same, last]

/-- A path behind a directory has its components behind those of the directory. -/
theorem split_slash (directory rest : String) :
    split (directory ++ "/" ++ rest) '/' = split directory '/' ++ split rest '/' := by
  have whole : (directory ++ "/" ++ rest).toList = directory.toList ++ '/' :: rest.toList := by
    simp
  rw [split, whole, List.splitOn,
    @List.splitOnP_append_cons _ (· == '/') _ _ '/' (beq_self_eq_true '/'), List.map_append]
  rfl

theorem folder_append (directory : String) {name : String} (clean : '/' ∉ name.toList) :
    folder (directory ++ "/" ++ name) = split directory '/' := by
  rw [folder, split_slash, split_singleton clean, List.dropLast_concat]

theorem base_append (directory : String) {name : String} (clean : '/' ∉ name.toList) :
    base (directory ++ "/" ++ name) = name := by
  rw [base, split_slash, split_singleton clean, List.getLastD_concat]

theorem base_clean (path : String) : '/' ∉ (base path).toList := by
  apply @notMem_of_mem_split path
  rw [← folder_base]
  exact List.mem_append_right _ List.mem_cons_self

/-- A path in a directory is the directory with its last component. -/
theorem path_of_folder {directory path : String} (inside : folder path = split directory '/') :
    path = directory ++ "/" ++ base path := by
  apply path_eq
  · rw [folder_append directory (base_clean path), inside]
  · rw [base_append directory (base_clean path)]

/-- A plain pattern matches only itself. -/
theorem fnmatch_plain {pattern name : String} (plain : ∀ character ∈ pattern.toList, Plain character) :
    fnmatch pattern name = true ↔ name = pattern := by
  have literals := items_plain plain 0 []
  rw [Nat.add_zero, List.append_nil, items, List.append_nil] at literals
  rw [fnmatch, ← String.length_toList, literals, ← String.toList_inj]
  clear literals plain
  generalize pattern.toList = text
  generalize name.toList = other
  induction text generalizing other with
  | nil => rw [List.map_nil, matchItems, List.isEmpty_iff]
  | cons character text ih =>
      rw [List.map_cons]
      cases other with
      | nil => simp [matchItems]
      | cons first other =>
          rw [matchItems, Bool.and_eq_true, beq_iff_eq, List.cons.injEq]
          exact and_congr_right fun _ => ih other

/-- A pattern with a plain folder matches the names of this folder. -/
theorem globMatch_iff {pattern path : String} (plain : PlainFolder pattern) :
    globMatch pattern path = true ↔
      folder path = folder pattern ∧ fnmatch (base pattern) (base path) = true := by
  have parts (first second : List String)
      (plain : ∀ part ∈ first, ∀ character ∈ part.toList, Plain character) :
      (first.length = second.length ∧ ((first.zip second).all fun pair => fnmatch pair.1 pair.2) = true) ↔
        second = first := by
    induction first generalizing second with
    | nil =>
        cases second with
        | nil => simp
        | cons name second => simp
    | cons part first ih =>
        cases second with
        | nil => simp
        | cons name second =>
            rw [List.zip_cons_cons, List.all_cons, Bool.and_eq_true,
              fnmatch_plain (plain part List.mem_cons_self), List.length_cons, List.length_cons,
              List.cons.injEq, ← ih second fun other member => plain other (List.mem_cons_of_mem _ member)]
            constructor
            · rintro ⟨width, same, rest⟩
              exact ⟨same, by omega, rest⟩
            · rintro ⟨same, width, rest⟩
              exact ⟨by omega, same, rest⟩
  rw [globMatch, ← folder_base, ← folder_base path, Bool.and_eq_true, beq_iff_eq,
    List.length_append, List.length_append, List.length_singleton, List.length_singleton,
    Nat.add_right_cancel_iff, ← parts _ _ plain]
  constructor
  · rintro ⟨width, all⟩
    rw [List.zip_append width, List.all_append, Bool.and_eq_true] at all
    exact ⟨⟨width, all.1⟩, by simpa using all.2⟩
  · rintro ⟨⟨width, all⟩, last⟩
    rw [List.zip_append width, List.all_append, Bool.and_eq_true]
    exact ⟨width, all, by simpa using last⟩

/-- A star matches every name. -/
theorem fnmatch_all (name : String) : fnmatch "*" name = true := by
  have all := @fnmatch_star [] [] (by simp) (by simp) name.toList
  simpa using all

theorem star_eq (directory : String) : directory ++ "/*" = directory ++ "/" ++ "*" := by
  rw [String.append_assoc]
  rfl

theorem folder_star (directory : String) : folder (directory ++ "/*") = split directory '/' := by
  rw [star_eq, folder_append directory (by decide)]

/-- A star in a directory matches the files of this directory. -/
theorem globMatch_all {directory path : String} (plain : PlainFolder (directory ++ "/*")) :
    globMatch (directory ++ "/*") path = true ↔ folder path = split directory '/' := by
  have last : base (directory ++ "/*") = "*" := by
    rw [star_eq, base_append directory (by decide)]
  rw [globMatch_iff plain, folder_star, last, fnmatch_all, and_iff_left rfl]

/-- A path begins with a directory when its folder is in the directory. -/
theorem prefix_iff {directory path : String} :
    (directory ++ "/").toList <+: path.toList ↔ split directory '/' <+: folder path := by
  constructor
  · rintro ⟨rest, whole⟩
    have same : path = directory ++ "/" ++ String.ofList rest := by
      rw [← String.toList_inj, ← whole]
      simp
    rw [folder, same, split_slash, List.dropLast_append_of_ne_nil (split_ne_nil _ _)]
    exact List.prefix_append _ _
  · rintro ⟨rest, whole⟩
    have free : ∀ part ∈ rest ++ [base path], '/' ∉ part.toList := by
      intro part member
      apply @notMem_of_mem_split path
      rw [← folder_base, ← whole, List.append_assoc]
      exact List.mem_append_right _ member
    have parts : split path '/' = split (directory ++ "/" ++ join '/' (rest ++ [base path])) '/' := by
      rw [split_slash, split_join (by simp) free, ← List.append_assoc, whole, folder_base]
    have same : path = directory ++ "/" ++ join '/' (rest ++ [base path]) := by
      rw [← join_split (directory ++ _ ++ _) '/', ← parts, join_split]
    refine ⟨(join '/' (rest ++ [base path])).toList, ?_⟩
    rw [← String.toList_append, ← same]

/-- These are the characters of the texts. -/
def Spells (texts : List String) (lists : List (List Char)) : Prop :=
  List.Forall₂ (fun text characters => text = String.ofList characters) texts lists

theorem Spells.map_eq {texts : List String} {lists : List (List Char)} (spells : Spells texts lists) :
    texts = lists.map String.ofList := by
  induction spells with
  | nil => rfl
  | cons head _ ih => rw [List.map_cons, ← ih, head]

/-- A property of the texts is one of their characters. -/
theorem Spells.forall_mem {texts : List String} {lists : List (List Char)} (spells : Spells texts lists)
    {holds : String → Prop} (each : ∀ characters ∈ lists, holds (String.ofList characters)) :
    ∀ text ∈ texts, holds text := by
  rw [spells.map_eq]
  exact List.forall_mem_map.mpr each

theorem Spells.nodup {texts : List String} {lists : List (List Char)} (spells : Spells texts lists)
    (distinct : lists.Nodup) : texts.Nodup := by
  rw [spells.map_eq]
  exact List.Nodup.map (fun _ _ same => String.ofList_injective same) distinct

/-- Characters that pass the test stand for themselves. -/
theorem plain_of_all {characters : List Char}
    (checked : (characters.all fun character => decide (Plain character)) = true) :
    ∀ character ∈ characters, Plain character :=
  fun character member => of_decide_eq_true (List.all_eq_true.mp checked character member)

theorem plain_parts {lists : List (List Char)}
    (checked : (lists.all fun part => part.all fun character => decide (Plain character)) = true) :
    ∀ part ∈ lists.map String.ofList, ∀ character ∈ part.toList, Plain character := by
  intro part member
  obtain ⟨characters, known, rfl⟩ := List.mem_map.mp member
  rw [String.toList_ofList]
  exact plain_of_all (List.all_eq_true.mp checked characters known)

theorem split_ofList (characters : List Char) (separator : Char) :
    split (String.ofList characters) separator = (characters.splitOn separator).map String.ofList := by
  rw [split, String.toList_ofList]

theorem folder_ofList (characters : List Char) :
    folder (String.ofList characters) = (characters.splitOn '/').dropLast.map String.ofList := by
  rw [folder, split_ofList, List.map_dropLast]

end FaultInject.Python.Glob
