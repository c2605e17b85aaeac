import FaultInject.Construction.VerifyApplied

/-
This file proves that the verification reads the groups that `tshark` prints.
-/

namespace FaultInject.VerifyApplied
open Python Record

/-- This is a printed group. -/
def printedGroup (group : Nat) : String := "0x" ++ formatHex 4 group

def printedGroups (groups : List Nat) : String := join ',' (groups.map printedGroup)

/-- The line of a ClientHello has its groups and its key shares. -/
def printedHello (hello : List Nat × List Nat) : String :=
  printedGroups hello.1 ++ "\t" ++ printedGroups hello.2

def printedHellos (hellos : List (List Nat × List Nat)) : String :=
  String.join (hellos.map fun hello => printedHello hello ++ "\n")

section Characters

theorem mem_printedGroup {group : Nat} {character : Char}
    (member : character ∈ (printedGroup group).toList) : character ∈ 'x' :: hexDigits := by
  rw [printedGroup, String.toList_append, List.mem_append] at member
  rcases member with mark | digit
  · have all : ∀ character ∈ "0x".toList, character ∈ 'x' :: hexDigits :=
      List.all_iff_forall_prop.mp (by decide)
    exact all character mark
  · exact List.mem_cons_of_mem _ (mem_formatHex digit)

theorem mem_printedGroups {groups : List Nat} {character : Char}
    (member : character ∈ (printedGroups groups).toList) :
    character ∈ ',' :: 'x' :: hexDigits := by
  rcases mem_join member with rfl | ⟨part, among, inside⟩
  · exact List.mem_cons_self
  · obtain ⟨group, _, rfl⟩ := List.mem_map.mp among
    exact List.mem_cons_of_mem _ (mem_printedGroup inside)

theorem comma_not_mem (group : Nat) : ',' ∉ (printedGroup group).toList :=
  fun member => absurd (mem_printedGroup member) (by decide)

theorem tab_not_mem (groups : List Nat) : '\t' ∉ (printedGroups groups).toList :=
  fun member => absurd (mem_printedGroups member) (by decide)

/-- The line of a ClientHello has no end inside. -/
theorem oneLine_printedHello (hello : List Nat × List Nat) : OneLine (printedHello hello) := by
  have tab : '\t' ∈ (printedHello hello).toList := by
    rw [printedHello, String.toList_append, String.toList_append]
    simp
  constructor
  · intro empty
    rw [empty] at tab
    cases tab
  · have plain : ∀ character ∈ ',' :: 'x' :: hexDigits, ¬isLineBoundary character :=
      List.all_iff_forall_prop.mp (by decide)
    intro character member
    rw [printedHello, String.toList_append, String.toList_append, List.mem_append,
      List.mem_append] at member
    rcases member with (groups | tab) | shares
    · exact plain character (mem_printedGroups groups)
    · have all : ∀ character ∈ "\t".toList, ¬isLineBoundary character :=
        List.all_iff_forall_prop.mp (by decide)
      exact all character tab
    · exact plain character (mem_printedGroups shares)

end Characters

section Reading

/-- Printing groups between commas loses none of them. -/
theorem values_printedGroups (groups : List Nat) :
    values (printedGroups groups) = groups.map printedGroup := by
  have filled : ∀ value ∈ groups.map printedGroup, (value != "") = true := by
    intro value member
    obtain ⟨group, _, rfl⟩ := List.mem_map.mp member
    rw [bne_iff_ne, printedGroup, Ne, String.append_eq_empty_iff, not_and]
    exact fun empty => absurd empty (by decide)
  by_cases none : groups = []
  · rw [none]
    rfl
  · rw [values, printedGroups, split_join, List.filter_eq_self.mpr filled]
    · exact fun empty => none (List.map_eq_nil_iff.mp empty)
    · intro value member
      obtain ⟨group, _, rfl⟩ := List.mem_map.mp member
      exact comma_not_mem group

theorem ids_printedGroups (groups : List Nat) :
    ids (printedGroups groups) = .ok (groups.map Int.ofNat) := by
  rw [ids, values_printedGroups, mapM_eq_ok, List.forall₂_map_left_iff, List.forall₂_map_right_iff,
    List.forall₂_same]
  exact fun group _ => intLiteral_hex 4 group

/-- A printed line is read as the groups and the key shares of its ClientHello. -/
theorem lineGroups_printedHello (hello : List Nat × List Nat) :
    lineGroups (printedHello hello) = .ok (hello.1.map Int.ofNat, hello.2.map Int.ofNat) := by
  have shape : printedHello hello = String.ofList
      ((printedGroups hello.1).toList ++ '\t' :: (printedGroups hello.2).toList) := by
    rw [printedHello, ← String.toList_inj, String.toList_append, String.toList_append,
      String.toList_ofList, List.append_assoc, List.singleton_append, String.toList_ofList]
  rw [lineGroups, shape, splitOnce_append (tab_not_mem hello.1)]
  simp only [ids_printedGroups, ok_bind]
  rfl

theorem splitlines_printedHellos (hellos : List (List Nat × List Nat)) :
    splitlines (printedHellos hellos) = hellos.map printedHello ∧
      WholeLines (printedHellos hellos) := by
  induction hellos using List.reverseRecOn with
  | nil => exact ⟨splitlines_empty, .inl rfl⟩
  | append_singleton hellos hello ih =>
      have shape : printedHellos (hellos ++ [hello]) =
          printedHellos hellos ++ printedHello hello ++ "\n" := by
        rw [← String.toList_inj]
        simp [printedHellos, String.toList_join]
      rw [shape]
      constructor
      · rw [splitlines_append ih.2 (oneLine_printedHello hello), ih.1, List.map_append,
          List.map_singleton]
      · right
        rw [String.toList_append]
        exact List.getLast?_concat

/-- The verification reads the ClientHellos that the program prints. -/
theorem clientHelloGroups_printed {evidence : Evidence} {pcap : Option File}
    {hellos : List (List Nat × List Nat)} {message : String}
    (prints : evidence.tshark helloQuery pcap = .ok ⟨0, printedHellos hellos, message⟩) :
    clientHelloGroups evidence pcap =
      .ok (hellos.map fun hello => (hello.1.map Int.ofNat, hello.2.map Int.ofNat)) := by
  have tabs : (hellos.map printedHello).filter (fun line => '\t' ∈ line.toList) =
      hellos.map printedHello := by
    rw [List.filter_eq_self]
    intro line member
    obtain ⟨hello, _, rfl⟩ := List.mem_map.mp member
    rw [decide_eq_true_iff, printedHello, String.toList_append, String.toList_append]
    simp
  rw [clientHelloGroups, Evidence.lines, prints]
  simp only [ok_bind, ne_eq, not_true_eq_false, if_false, pure_eq_ok, (splitlines_printedHellos hellos).1,
    tabs]
  rw [mapM_eq_ok, List.forall₂_map_left_iff, List.forall₂_map_right_iff, List.forall₂_same]
  exact fun hello _ => lineGroups_printedHello hello

/-- A silent downgrade is verified when a client advertises a hybrid group and shares X25519
first. -/
theorem verifyCondition_printed {evidence : Evidence} {record : RunRecord} {outputDir : Directory}
    {pcap message : String} {hellos : List (List Nat × List Nat)}
    (silent : record.condition = "silent-downgrade")
    (artifact : record.artifacts.get? "pcap" = some pcap)
    (prints : evidence.tshark helloQuery (outputDir.get? pcap) =
      .ok ⟨0, printedHellos hellos, message⟩) :
    ∃ verdict, verifyCondition evidence record outputDir = .ok verdict ∧ (verdict = true ↔
      ∃ hello ∈ hellos, (∃ group ∈ hello.1, group = 0x11EC ∨ group = 0x6399) ∧
        hello.2.head? = some 0x001D) := by
  rw [verifyCondition, if_pos silent, Dict.getItem_eq_ok.mpr artifact, ok_bind,
    clientHelloGroups_printed prints, ok_bind]
  refine ⟨_, rfl, ?_⟩
  rw [List.any_map, List.any_eq_true]
  apply exists_congr
  intro hello
  apply and_congr_right
  intro _
  rw [Function.comp_apply, Bool.and_eq_true, List.any_map, List.any_eq_true, beq_iff_eq,
    List.head?_map]
  apply and_congr
  · apply exists_congr
    intro group
    apply and_congr_right
    intro _
    rw [Function.comp_apply, decide_eq_true_iff, List.mem_cons, List.mem_singleton,
      Int.ofNat_eq_natCast]
    omega
  · cases hello.2.head? with
    | none => exact ⟨nofun, nofun⟩
    | some share =>
        rw [Option.map_some, Option.some.injEq, Option.some.injEq, Int.ofNat_eq_natCast]
        omega

end Reading

end FaultInject.VerifyApplied
