import Mathlib.Data.List.Infix
import FaultInject.Python.Text

/-
This file follows the search for a pattern with a mark. A text is searched from mark to mark.
-/

namespace FaultInject.Python
variable {A B : Type} {lead front : List A} {mark : A}

/-- A text without the mark ends a marked text exactly when it ends what is behind the mark. -/
theorem suffix_append_mark (plain : mark ∉ lead) (rest : List A) :
    lead <:+ front ++ mark :: rest ↔ lead <:+ rest := by
  constructor
  · intro ends
    rcases List.suffix_or_suffix_of_suffix ends (List.suffix_append front _) with inside | longer
    · rcases List.suffix_cons_iff.mp inside with whole | behind
      · rw [whole] at plain
        exact absurd List.mem_cons_self plain
      · exact behind
    · exact absurd (longer.subset List.mem_cons_self) plain
  · intro ends
    exact ends.trans ((List.suffix_cons mark rest).trans (List.suffix_append front _))

/-- A text without the mark starts a marked text exactly when it starts what is before the mark. -/
theorem prefix_append_mark (plain : mark ∉ lead) (rest : List A) :
    lead <+: front ++ mark :: rest ↔ lead <+: front := by
  constructor
  · intro starts
    rcases List.prefix_or_prefix_of_prefix starts (List.prefix_append front _) with inside | longer
    · exact inside
    · obtain ⟨more, rfl⟩ := longer
      rw [List.prefix_append_right_inj] at starts
      cases more with
      | nil =>
          rw [List.append_nil]
      | cons first more =>
          rw [(List.cons_prefix_cons.mp starts).1] at plain
          simp at plain
  · intro starts
    exact starts.trans (List.prefix_append front _)

/-- A text without the mark in a marked text is before the mark or behind it. -/
theorem infix_append_mark (plain : mark ∉ lead) {rest : List A}
    (inside : lead <:+: front ++ mark :: rest) : lead <:+: front ∨ lead <:+: rest := by
  obtain ⟨tail, starts, ends⟩ := List.infix_iff_prefix_suffix.mp inside
  rcases List.suffix_or_suffix_of_suffix ends (List.suffix_append front _) with late | ⟨before, rfl⟩
  · rcases List.suffix_cons_iff.mp late with rfl | behind
    · have none : lead <+: [] := (prefix_append_mark plain rest).mp starts
      rw [List.prefix_nil.mp none]
      exact .inl List.nil_infix
    · exact .inr (starts.isInfix.trans behind.isInfix)
  · have early := (prefix_append_mark plain rest).mp starts
    exact .inl (early.isInfix.trans (List.suffix_append_self_iff.mp ends).isInfix)

/-- A text that ends with the mark is found only up to the mark. -/
theorem infix_append_end {rest : List A} (plain : mark ∉ rest)
    (inside : lead ++ [mark] <:+: front ++ mark :: rest) : lead ++ [mark] <:+: front ++ [mark] := by
  obtain ⟨before, tail, whole⟩ := inside
  have parts : front ++ mark :: rest = (front ++ [mark]) ++ rest := by simp
  rw [parts] at whole
  have short : tail <:+ front ++ [mark] ++ rest := whole ▸ List.suffix_append _ _
  rcases List.suffix_or_suffix_of_suffix short (List.suffix_append _ _) with ⟨more, rfl⟩ | ⟨more, rfl⟩
  · -- The mark ends the pattern, so nothing is between the mark and the rest.
    rw [← List.append_assoc (front ++ [mark]), List.append_cancel_right_eq] at whole
    rcases List.eq_nil_or_concat more with rfl | ⟨first, last, rfl⟩
    · exact ⟨before, [], by rw [List.append_nil, whole, List.append_nil]⟩
    · have ends := congrArg List.getLast? whole
      simp only [List.concat_eq_append, ← List.append_assoc, List.getLast?_concat,
        Option.some.injEq] at ends
      rw [ends] at plain
      simp at plain
  · rw [← List.append_assoc (before ++ _), List.append_cancel_right_eq] at whole
    exact ⟨before, more, whole⟩

/-- A text without the mark is in front of some marks or behind them. -/
theorem infix_append_replicate (plain : mark ∉ lead) (count : Nat) {rest : List A}
    (inside : lead <:+: front ++ (List.replicate (count + 1) mark ++ rest)) :
    lead <:+: front ∨ lead <:+: rest := by
  induction count generalizing front with
  | zero => exact infix_append_mark plain inside
  | succ count ih =>
      rw [List.replicate_succ, List.cons_append] at inside
      rcases infix_append_mark plain inside with early | late
      · exact .inl early
      · rcases @ih [] late with none | behind
        · exact .inl (none.trans List.nil_infix)
        · exact .inr behind

section Pattern
variable {pattern : List A → Option B}
  (marked : ∀ text, pattern text ≠ none → lead ++ [mark] <+: text) (plain : mark ∉ lead)

include marked

/-- A text without the mark has no match. -/
theorem findSome?_tails_clean {text : List A} (clean : mark ∉ text) :
    text.tails.findSome? pattern = none := by
  rw [List.findSome?_eq_none_iff]
  intro tail member
  by_contra found
  apply clean
  have inside : mark ∈ tail := (marked tail found).subset (by simp)
  exact ((List.mem_tails tail text).mp member).subset inside

include plain

/-- A match before the first mark starts with the text in front of the mark. -/
theorem pattern_append_mark [DecidableEq A] (clean : mark ∉ front) (rest : List A) :
    pattern (front ++ mark :: rest) =
      if lead = front then pattern (lead ++ mark :: rest) else none := by
  split
  · rename_i same
    rw [same]
  · rename_i apart
    by_contra found
    obtain ⟨other, same⟩ := marked _ found
    rw [List.append_assoc, List.singleton_append] at same
    exact apart (append_cons_inj plain clean same).1

/-- The first match is at the first mark or behind it. -/
theorem findSome?_tails_mark [DecidableEq A] (clean : mark ∉ front) (rest : List A) :
    (front ++ mark :: rest).tails.findSome? pattern =
      (if lead <:+ front then pattern (lead ++ mark :: rest) else none).or
        (rest.tails.findSome? pattern) := by
  have step (first : A) (text : List A) : (first :: text).tails.findSome? pattern =
      (pattern (first :: text)).or (text.tails.findSome? pattern) := by
    rw [List.tails_cons, List.findSome?_cons]
    cases pattern (first :: text) <;> rfl
  have match_eq (front : List A) (clean : mark ∉ front) := pattern_append_mark marked plain clean rest
  induction front with
  | nil =>
      have head := match_eq [] clean
      rw [List.nil_append] at head
      rw [List.nil_append, step, head]
      simp only [List.suffix_nil]
  | cons first front ih =>
      have inner : mark ∉ front := fun member => clean (List.mem_cons_of_mem _ member)
      have head := match_eq (first :: front) clean
      rw [List.cons_append] at head
      rw [List.cons_append, step, head, ih inner]
      simp only [List.suffix_cons_iff]
      by_cases whole : lead = first :: front
      · have longer : ¬lead <:+ front := by
          intro ends
          have short := ends.length_le
          rw [whole, List.length_cons] at short
          omega
        rw [if_pos whole, if_neg longer, Option.none_or, if_pos (Or.inl whole)]
      · simp [whole]

end Pattern

end FaultInject.Python
