import FaultInject.Construction.V16
import FaultInject.Python.Table
import Mathlib.Data.String.Basic

/-
This file relates the sorted rows of the tables to the order of their texts.
-/

namespace FaultInject.V16
open Python

/-- The order of the tuples of texts is the lexicographic one. -/
theorem textsLe_iff {firsts seconds : List String} :
    textsLe firsts seconds = true ↔ firsts ≤ seconds := by
  rw [← not_lt]
  induction firsts generalizing seconds with
  | nil => exact iff_of_true rfl (List.not_lt_nil seconds)
  | cons first firsts ih =>
      cases seconds with
      | nil => exact iff_of_false Bool.false_ne_true (not_not.mpr (List.nil_lt_cons first firsts))
      | cons second seconds =>
          rw [textsLe, List.cons_lt_cons_iff, not_or, not_lt]
          split
          · rename_i same
            rw [ih, same, eq_self_iff_true, true_and, and_iff_right le_rfl]
          · rename_i different
            rw [decide_eq_true_iff, and_iff_left fun both => different both.1.symm]

section Order
variable {K V : Type} {texts : K → List String}

/-- The keys have the order of their texts. -/
def KeyLe (texts : K → List String) (first second : K) : Prop :=
  textsLe (texts first) (texts second) = true

instance : DecidableRel (KeyLe texts) := fun _ _ => instDecidableEqBool _ _

theorem keyLe_iff {first second : K} : KeyLe texts first second ↔ texts first ≤ texts second :=
  textsLe_iff

instance : Std.Total (KeyLe texts) := ⟨fun first second => by
  rw [keyLe_iff, keyLe_iff]
  exact le_total _ _⟩

instance : IsTrans K (KeyLe texts) := ⟨fun first second third below next => by
  rw [keyLe_iff] at below next ⊢
  exact below.trans next⟩

/-- The sorted rows of a table are its keys in order. -/
theorem sortedItems_eq (injective : Function.Injective texts) {table : Dict K V} {keys : List K}
    {value : K → V} (distinct : keys.Nodup)
    (rows : table.entries.Perm (keys.map fun key => (key, value key))) :
    sortedItems texts table =
      (keys.insertionSort (KeyLe texts)).map fun key => (key, value key) := by
  have antisymm {first second : K} (forwards : KeyLe texts first second)
      (backwards : KeyLe texts second first) : first = second :=
    injective (le_antisymm (keyLe_iff.mp forwards) (keyLe_iff.mp backwards))
  exact Dict.sorted_rows distinct (fun _ _ _ _ => antisymm) rows

/-- The sorted rows of a tally have one row for each different key in increasing order. -/
theorem sortedItems_tally [DecidableEq K] (injective : Function.Injective texts) (keys : List K) :
    sortedItems texts (Dict.tally id 0 (fun count _ => count + 1) keys .empty) =
      (keys.dedup.insertionSort (KeyLe texts)).map fun key => (key, keys.countP (· = key)) :=
  sortedItems_eq injective (List.nodup_dedup keys) (Dict.tally_perm keys)

end Order

end FaultInject.V16
