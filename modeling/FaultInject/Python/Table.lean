import FaultInject.Python.Tally
import Mathlib.Data.List.Dedup
import Mathlib.Data.List.Sort

/-
This file has the rules of sorted tables. The rows of a table in the order of their keys do not
depend on the order in which the keys were added.
-/

namespace FaultInject.Python.Dict
variable {K V : Type}

/-- A table with exactly the keys of some cells has one entry for each of them. -/
theorem entries_perm {C : Type} [DecidableEq K] {dict : Dict K V} {cells : List C} {label : C → K}
    {value : C → V} (distinct : (cells.map label).Nodup)
    (found : ∀ cell ∈ cells, dict.get? (label cell) = some (value cell))
    (absent : ∀ key, key ∉ cells.map label → dict.get? key = none) :
    dict.entries.Perm (cells.map fun cell => (label cell, value cell)) := by
  have single : (cells.map fun cell => (label cell, value cell)).Nodup := by
    apply List.Nodup.of_map Prod.fst
    rw [List.map_map]
    exact distinct
  rw [List.perm_ext_iff_of_nodup dict.distinct.of_map single]
  intro entry
  rw [List.mem_map, ← get?_eq_some]
  constructor
  · intro present
    by_contra other
    rw [absent] at present
    · cases present
    · intro known
      obtain ⟨cell, member, same⟩ := List.mem_map.mp known
      rw [← same, found cell member] at present
      exact other ⟨cell, member, Prod.ext same (Option.some.inj present)⟩
  · rintro ⟨cell, member, rfl⟩
    exact found cell member

/-- A table with exactly the listed keys has one entry for each of them. -/
theorem rows_perm [DecidableEq K] {dict : Dict K V} {keys : List K} {value : K → V}
    (distinct : keys.Nodup) (found : ∀ key ∈ keys, dict.get? key = some (value key))
    (absent : ∀ key, key ∉ keys → dict.get? key = none) :
    dict.entries.Perm (keys.map fun key => (key, value key)) := by
  apply @entries_perm K V K _ dict keys id value _ found
  · rw [List.map_id]
    exact absent
  · rw [List.map_id]
    exact distinct

/-- A tally of keys has one row for each of them with the number of its places. -/
theorem tally_perm [DecidableEq K] (keys : List K) :
    (tally id 0 (fun count _ => count + 1) keys empty).entries.Perm
      (keys.dedup.map fun key => (key, keys.countP (· = key))) := by
  have places (key : K) : (keys.filter (id · = key)).length = keys.countP (· = key) :=
    List.countP_eq_length_filter.symm
  apply rows_perm (List.nodup_dedup keys)
  · intro key known
    have some : keys.filter (id · = key) ≠ [] := by
      apply List.ne_nil_of_mem
      exact List.mem_filter.mpr ⟨List.mem_dedup.mp known, decide_eq_true rfl⟩
    rw [get?_tally_empty, if_neg some, List.foldl_add_const, places, Nat.zero_add, Nat.one_mul]
  · intro key other
    rw [get?_tally_empty, if_pos]
    rw [List.filter_eq_nil_iff]
    intro found member same
    rw [decide_eq_true_eq] at same
    exact other (List.mem_dedup.mpr (same ▸ member))

variable {le : K → K → Prop} [DecidableRel le] [Std.Total le] [IsTrans K le]

/-- Rows with distinct keys have one order. -/
theorem insertionSort_eq {rows others : List (K × V)} (distinct : (rows.map Prod.fst).Nodup)
    (antisymm : ∀ first ∈ rows.map Prod.fst, ∀ second ∈ rows.map Prod.fst, le first second →
      le second first → first = second) (same : rows.Perm others) :
    (rows.insertionSort fun first second => le first.1 second.1) =
      others.insertionSort fun first second => le first.1 second.1 := by
  have total : Std.Total fun first second : K × V => le first.1 second.1 :=
    ⟨fun first second => Std.Total.total first.1 second.1⟩
  have trans : IsTrans (K × V) fun first second => le first.1 second.1 :=
    ⟨fun first second third => IsTrans.trans first.1 second.1 third.1⟩
  have perm := (List.perm_insertionSort (fun first second : K × V => le first.1 second.1) rows).trans
    (same.trans (List.perm_insertionSort (fun first second : K × V => le first.1 second.1) others).symm)
  apply List.Perm.eq_of_pairwise _ (List.pairwise_insertionSort _ rows)
    (List.pairwise_insertionSort _ others) perm
  intro first second here there forwards backwards
  rw [List.mem_insertionSort] at here there
  have inside := same.mem_iff.mpr there
  have names := antisymm _ (List.mem_map_of_mem here) _ (List.mem_map_of_mem inside) forwards backwards
  exact List.inj_on_of_nodup_map distinct here inside names

/-- The sorted rows of listed keys are the sorted keys with their values. -/
theorem sorted_rows {keys : List K} {value : K → V} {rows : List (K × V)} (distinct : keys.Nodup)
    (antisymm : ∀ first ∈ keys, ∀ second ∈ keys, le first second → le second first → first = second)
    (same : rows.Perm (keys.map fun key => (key, value key))) :
    (rows.insertionSort fun first second => le first.1 second.1) =
      (keys.insertionSort le).map fun key => (key, value key) := by
  have names : (keys.map fun key => (key, value key)).map Prod.fst = keys := by
    rw [List.map_map]
    exact List.map_id _
  rw [← names] at distinct antisymm
  rw [← insertionSort_eq distinct antisymm same.symm]
  symm
  apply List.map_insertionSort
  exact fun _ _ _ _ => Iff.rfl

end FaultInject.Python.Dict
