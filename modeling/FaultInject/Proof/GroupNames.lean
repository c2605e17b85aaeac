import FaultInject.Construction.V18

/-
This file relates the codes of groups to the tests on their names.
-/

namespace FaultInject.PcapHello
open Python Harness V16 V18

/-- This is the name of one code. -/
def groupText (code : Nat) : String := (groupNames.lookup code).getD s!"0x{formatHex 4 code}"

/-- These codes have the names of ML-KEM and Kyber hybrids. -/
def HybridGroup (code : Nat) : Prop := code = 0x11EC ∨ code = 0x6399

/-- The sixteen codes have two equal bytes whose second digit is `a`. -/
def GreaseCode (code : Nat) : Prop := ∃ digit < 16, code = 0x0A0A + 0x1010 * digit

instance (code : Nat) : Decidable (HybridGroup code) := inferInstanceAs (Decidable (_ ∨ _))

instance (code : Nat) : Decidable (GreaseCode code) :=
  inferInstanceAs (Decidable (∃ digit < 16, _))

theorem groupNamesOf_eq (groups : List Nat) : groupNamesOf groups = groups.map groupText :=
  congrFun (@List.filterMap_eq_map _ _ groupText) groups

/-- A code has its name of the table or its digits. -/
theorem groupText_cases (code : Nat) :
    (code, groupText code) ∈ groupNames ∨
      code ∉ groupNames.map Prod.fst ∧
        (groupText code).toList = '0' :: 'x' :: (formatHex 4 code).toList := by
  cases found : groupNames.lookup code with
  | some name =>
      have text : groupText code = name := by rw [groupText, found, Option.getD_some]
      obtain ⟨before, behind, whole, _⟩ := List.lookup_eq_some_iff.mp found
      rw [text, whole]
      exact .inl (List.mem_append_right _ List.mem_cons_self)
  | none =>
      rw [List.lookup_eq_none_iff] at found
      refine .inr ⟨?_, ?_⟩
      · intro member
        obtain ⟨entry, inside, same⟩ := List.mem_map.mp member
        exact bne_iff_ne.mp (found entry inside) same.symm
      · rw [groupText, List.lookup_eq_none_iff.mpr found, Option.getD_none]
        show ("0x" ++ formatHex 4 code).toList = _
        rw [String.toList_append]
        rfl

section Names

/-- A found text has only characters of the text around it. -/
theorem mem_of_isIn {pattern text : String} {character : Char} (found : isIn pattern text = true)
    (member : character ∈ pattern.toList) : character ∈ text.toList := by
  obtain ⟨tail, among, starts⟩ := List.any_eq_true.mp found
  have behind : tail <:+ text.toList := (List.mem_tails _ _).mp among
  exact behind.subset ((List.isPrefixOf_iff_prefix.mp starts).subset member)

/-- A name without the letter K of the markers is not hybrid. -/
theorem isHybridName_eq_false {name : String}
    (free : 'K' ∉ name.toList.map Char.toUpper) : isHybridName (some name) = false := by
  rw [isHybridName, Option.any_some, List.any_eq_false]
  intro marker known found
  have letter : 'K' ∈ marker.toList := by
    have all : ∀ marker ∈ hybridMarkers, 'K' ∈ marker.toList := by decide
    exact all marker known
  have inside := mem_of_isIn found letter
  rw [String.toList_ofList] at inside
  exact free inside

/-- Exactly the two hybrid codes have hybrid names. -/
theorem isHybridName_groupText (code : Nat) :
    isHybridName (some (groupText code)) = decide (HybridGroup code) := by
  rcases groupText_cases code with named | ⟨unnamed, digits⟩
  · have all : ∀ entry ∈ groupNames,
        isHybridName (some entry.2) = decide (HybridGroup entry.1) := by decide +kernel
    have entry := all (code, groupText code) named
    dsimp only at entry
    rw [entry]
  · have known : ∀ hybrid, HybridGroup hybrid → hybrid ∈ groupNames.map Prod.fst := by
      rintro hybrid (rfl | rfl) <;> decide
    have other : ¬HybridGroup code := fun hybrid => unnamed (known code hybrid)
    rw [decide_eq_false other]
    apply isHybridName_eq_false
    rw [digits]
    intro member
    obtain ⟨character, inside, upper⟩ := List.mem_map.mp member
    have letters : ('0' :: 'x' :: hexDigits).all (fun character => character.toUpper != 'K') := rfl
    have among : character ∈ '0' :: 'x' :: hexDigits := by
      rw [List.mem_cons, List.mem_cons] at inside ⊢
      exact inside.imp_right (Or.imp_right mem_formatHex)
    exact bne_iff_ne.mp (List.all_eq_true.mp letters character among) upper

/-- A name of the table does not look like a number. -/
theorem ne_digits_of_mem_groupNames {code : Nat} {name : String} {digits : List Char}
    (named : (code, name) ∈ groupNames) : name.toList ≠ '0' :: digits := by
  intro same
  have first : ∀ entry ∈ groupNames, entry.2.toList.head? = some 'X' := by decide
  have head := first _ named
  rw [same, List.head?_cons, Option.some.injEq] at head
  exact absurd head (by decide)

theorem groupText_ne_empty (code : Nat) : groupText code ≠ "" := by
  intro empty
  rcases groupText_cases code with named | ⟨_, digits⟩
  · have all : ∀ entry ∈ groupNames, entry.2 ≠ "" := by decide
    exact all _ named empty
  · rw [empty] at digits
    cases digits

/-- The name of a code is not empty and has no comma. -/
theorem groupText_clean (code : Nat) : groupText code ≠ "" ∧ ',' ∉ (groupText code).toList := by
  refine ⟨groupText_ne_empty code, ?_⟩
  rcases groupText_cases code with named | ⟨_, digits⟩
  · have all : ∀ entry ∈ groupNames, ',' ∉ entry.2.toList := by decide
    exact all (code, groupText code) named
  · rw [digits]
    have none : ',' ∉ hexDigits := by decide
    simp only [List.mem_cons, not_or]
    exact ⟨by decide, by decide, fun member => none (mem_formatHex member)⟩

/-- Exactly the names of GREASE codes match the pattern. -/
theorem isGreaseName_groupText (code : Nat) :
    isGreaseName (groupText code) = true ↔ GreaseCode code := by
  constructor
  · intro matched
    unfold isGreaseName at matched
    split at matched
    · rename_i digit again text
      rw [Bool.and_eq_true, decide_eq_true_eq, beq_iff_eq] at matched
      obtain ⟨known, rfl⟩ := matched
      rcases groupText_cases code with named | ⟨_, digits⟩
      · exact absurd text (ne_digits_of_mem_groupNames named)
      · rw [text, List.cons.injEq, List.cons.injEq] at digits
        have number := parseHex_formatHex 4 code
        rw [← digits.2.2] at number
        have value : parseHex [again, 'a', again, 'a'] = 0x0A0A + 0x1010 * digitValue again := by
          show 16 * (16 * (16 * (16 * 0 + digitValue again) + 10) + digitValue again) + 10 = _
          omega
        exact ⟨digitValue again, digitValue_lt known, number.symm.trans value⟩
    · cases matched
  · rintro ⟨digit, small, rfl⟩
    have all : ∀ digit < 16, isGreaseName (groupText (0x0A0A + 0x1010 * digit)) = true := by
      decide +kernel
    exact all digit small

/-- A GREASE code is not hybrid. -/
theorem GreaseCode.not_hybrid {code : Nat} (grease : GreaseCode code) : ¬HybridGroup code := by
  obtain ⟨digit, small, rfl⟩ := grease
  rintro (same | same) <;> omega

end Names

end FaultInject.PcapHello
