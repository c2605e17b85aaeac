import FaultInject.Python.Dict

/-
This file has the rules of tallies. A tally keeps one count for each key, and every record is
counted for one key.
-/

namespace FaultInject.Python

/-- A counter that grows with a test ends with the number of records that pass it. -/
theorem foldl_counter {R V : Type} {change : V → R → V} (field : V → Nat) (test : R → Bool)
    (grows : ∀ value record, field (change value record) = field value + (test record).toNat)
    (records : List R) (value : V) :
    field (records.foldl change value) = field value + records.countP test := by
  induction records generalizing value with
  | nil => rfl
  | cons record records ih =>
      rw [List.foldl_cons, ih, grows, List.countP_cons]
      cases test record <;> simp [Nat.add_comm, Nat.add_left_comm]

namespace Dict
variable {K V W R : Type}

/-- The values are changed, and the keys stay. -/
def mapValues (change : V → W) (dict : Dict K V) : Dict K W :=
  ⟨dict.entries.map fun entry => (entry.1, change entry.2), by
    rw [List.map_map]
    exact dict.distinct⟩

/-- This is the sum of a field over all values. -/
def total (field : V → Nat) (dict : Dict K V) : Nat :=
  dict.entries.foldr (fun entry sum => field entry.2 + sum) 0

@[simp] theorem total_empty (field : V → Nat) : total field (empty : Dict K V) = 0 := rfl

theorem eq_of_entries {first second : Dict K V} (same : first.entries = second.entries) :
    first = second := by
  obtain ⟨entries, _⟩ := first
  obtain ⟨others, _⟩ := second
  cases same
  rfl

theorem map_fst_mapValues (change : V → W) (dict : Dict K V) :
    (dict.mapValues change).entries.map Prod.fst = dict.entries.map Prod.fst := by
  rw [mapValues, List.map_map]
  rfl

variable [DecidableEq K]

theorem get?_mapValues (change : V → W) (dict : Dict K V) (key : K) :
    (dict.mapValues change).get? key = (dict.get? key).map change := by
  obtain ⟨entries, distinct⟩ := dict
  show (entries.map fun entry => (entry.1, change entry.2)).lookup key =
    (entries.lookup key).map change
  clear distinct
  induction entries with
  | nil => rfl
  | cons entry entries ih =>
      rw [List.map_cons, List.lookup_cons, List.lookup_cons]
      cases key == entry.1 with
      | true => rfl
      | false => exact ih

/-- A new key comes behind the entries, and an old one keeps its place. -/
theorem entries_set (dict : Dict K V) (key : K) (value : V) :
    (dict.set key value).entries = if key ∈ dict.entries.map Prod.fst then
      replaced dict.entries key value else dict.entries ++ [(key, value)] := by
  unfold set
  split <;> rfl

/-- An assignment and a change of all values can be exchanged. -/
theorem mapValues_set (change : V → W) (dict : Dict K V) (key : K) (value : V) :
    (dict.set key value).mapValues change = (dict.mapValues change).set key (change value) := by
  apply eq_of_entries
  rw [entries_set, map_fst_mapValues]
  show (dict.set key value).entries.map (fun entry => (entry.1, change entry.2)) = _
  rw [entries_set]
  split
  · rw [replaced, replaced, mapValues, List.map_map, List.map_map]
    apply List.map_congr_left
    intro entry _
    by_cases same : entry.1 = key <;> simp [same]
  · rw [List.map_append]
    rfl

/-- A tally of forgotten values forgets the values of the tally. -/
theorem mapValues_tally (forget : V → W) {key : R → K} {initial : V} {change : V → R → V}
    {other : W → R → W} (same : ∀ value record, forget (change value record) =
      other (forget value) record) (records : List R) (dict : Dict K V) :
    (tally key initial change records dict).mapValues forget =
      tally key (forget initial) other records (dict.mapValues forget) := by
  induction records generalizing dict with
  | nil => rfl
  | cons record records ih =>
      rw [tally, List.foldl_cons, ← tally, ih, tally, tally, List.foldl_cons]
      congr 1
      rw [update, update, mapValues_set, same, get?_mapValues, Option.getD_map]

/-- Entries with other keys are not replaced. -/
theorem replaced_of_absent {entries : List (K × V)} {key : K} (value : V)
    (absent : key ∉ entries.map Prod.fst) : replaced entries key value = entries := by
  have fixed : replaced entries key value = entries.map id := by
    apply List.map_congr_left
    intro entry member
    apply if_neg
    rintro rfl
    exact absent (List.mem_map_of_mem member)
  rw [fixed, List.map_id]

/-- An assignment replaces the part of its key in a sum. -/
theorem total_set (field : V → Nat) (dict : Dict K V) (key : K) (value : V) :
    total field (dict.set key value) + ((dict.get? key).map field).getD 0 =
      total field dict + field value := by
  obtain ⟨entries, distinct⟩ := dict
  unfold set
  by_cases present : key ∈ entries.map Prod.fst
  · rw [dif_pos present]
    show (replaced entries key value).foldr (fun entry sum => field entry.2 + sum) 0 +
      ((entries.lookup key).map field).getD 0 =
        entries.foldr (fun entry sum => field entry.2 + sum) 0 + field value
    induction entries with
    | nil => cases present
    | cons entry entries ih =>
        rw [List.map_cons, List.nodup_cons] at distinct
        rw [replaced, List.map_cons, List.foldr_cons, List.foldr_cons, List.lookup_cons]
        by_cases same : entry.1 = key
        · rw [same] at distinct
          have others := replaced_of_absent value distinct.1
          rw [replaced] at others
          rw [if_pos same, others, beq_iff_eq.mpr same.symm]
          simp only [Option.map_some, Option.getD_some]
          omega
        · have inside : key ∈ entries.map Prod.fst := by
            rcases List.mem_cons.mp present with here | behind
            · exact absurd here.symm same
            · exact behind
          have rest := ih distinct.2 inside
          rw [replaced] at rest
          rw [if_neg same, beq_eq_false_iff_ne.mpr (Ne.symm same)]
          dsimp only
          omega
  · rw [dif_neg present]
    have none : entries.lookup key = none := by
      rw [List.lookup_eq_none_iff]
      intro entry member
      rw [bne_iff_ne]
      rintro rfl
      exact present (List.mem_map_of_mem member)
    show (entries ++ [(key, value)]).foldr (fun entry sum => field entry.2 + sum) 0 +
      ((entries.lookup key).map field).getD 0 =
        entries.foldr (fun entry sum => field entry.2 + sum) 0 + field value
    rw [none, List.foldr_append]
    clear present none distinct
    induction entries with
    | nil => simp
    | cons entry entries ih =>
        simp only [List.foldr_cons] at ih ⊢
        omega

/-- The dictionary counts each of the records for its own key. -/
inductive Tallied (own : R → Option K) (initial : V) (change : V → R → V) :
    List R → Dict K V → Prop where
  | empty : Tallied own initial change [] empty
  | update (records : List R) (dict : Dict K V) (key : K) (record : R) (same : own record = some key)
      (before : Tallied own initial change records dict) :
      Tallied own initial change (records ++ [record]) (dict.update key initial (change · record))

section Tallied
variable {own : R → Option K} {initial : V} {change : V → R → V} {records : List R} {dict : Dict K V}

/-- A counter that grows with a test counts the records that pass it, whatever their keys are. -/
theorem Tallied.total_eq (tallied : Tallied own initial change records dict) (field : V → Nat)
    (test : R → Bool) (zero : field initial = 0)
    (grows : ∀ value record, field (change value record) = field value + (test record).toNat) :
    total field dict = records.countP test := by
  induction tallied with
  | empty => rfl
  | update records dict key record same before ih =>
      have assigned := total_set field dict key (change ((dict.get? key).getD initial) record)
      have current : field ((dict.get? key).getD initial) = ((dict.get? key).map field).getD 0 := by
        cases dict.get? key with
        | none => exact zero
        | some value => rfl
      rw [grows, current, ih] at assigned
      rw [Dict.update, List.countP_append, List.countP_singleton]
      cases passed : test record <;> simp only [passed, Bool.toNat_true, Bool.toNat_false, if_true,
        if_false, Bool.false_eq_true] at assigned ⊢ <;> omega

/-- A counter that grows with every record counts the records of each key. -/
theorem Tallied.own_eq (tallied : Tallied own initial change records dict) {field : V → Nat}
    (zero : field initial = 0)
    (grows : ∀ value record, field (change value record) = field value + 1) (key : K) :
    ((dict.get? key).map field).getD 0 = records.countP fun record => own record = some key := by
  induction tallied with
  | empty => rfl
  | update records dict other record same before ih =>
      rw [Dict.update, get?_set, List.countP_append, List.countP_singleton, ← ih, same]
      by_cases here : key = other
      · rw [if_pos here, here, Option.map_some, Option.getD_some, grows]
        cases dict.get? other with
        | none => simp [zero]
        | some value => simp
      · simp [here, Ne.symm here]

/-- Every count is behind at least one record. -/
theorem Tallied.each (tallied : Tallied own initial change records dict) (kept counted : V → Prop)
    (base : kept initial)
    (preserved : ∀ record ∈ records, ∀ value, kept value → kept (change value record))
    (last : ∀ record ∈ records, ∀ value, kept value → counted (change value record)) :
    ∀ entry ∈ dict.entries, kept entry.2 ∧ counted entry.2 := by
  induction tallied with
  | empty => exact fun entry member => absurd member List.not_mem_nil
  | update records dict key record same before ih =>
      have earlier := ih
        (fun other member => preserved other (List.mem_append_left _ member))
        (fun other member => last other (List.mem_append_left _ member))
      have current : kept ((dict.get? key).getD initial) := by
        cases found : dict.get? key with
        | none => exact base
        | some value => exact (earlier _ (get?_eq_some.mp found)).1
      have own : record ∈ records ++ [record] := List.mem_append_right _ List.mem_cons_self
      rintro ⟨other, value⟩ member
      rcases mem_set member with same | old
      · rw [(Prod.mk.inj same).2]
        exact ⟨preserved record own _ current, last record own _ current⟩
      · exact earlier _ old

/-- A loop that skips some records and counts the others is a tally of the others. -/
theorem tallied_of_foldlM {E : Type} {step : Dict K V → R → Except E (Dict K V)}
    {counted : R → Bool}
    (steps : ∀ out record next, step out record = .ok next → (counted record = false ∧ next = out) ∨
      (counted record = true ∧ ∃ key, own record = some key ∧
        next = out.update key initial (change · record)))
    {before : List R} {state : Dict K V} (tallied : Tallied own initial change before state)
    (folded : records.foldlM step state = .ok dict) :
    Tallied own initial change (before ++ records.filter counted) dict := by
  induction records generalizing before state with
  | nil =>
      cases folded
      rw [List.filter_nil, List.append_nil]
      exact tallied
  | cons record records ih =>
      rw [List.foldlM_cons] at folded
      obtain ⟨next, taken, rest⟩ := bind_eq_ok.mp folded
      rcases steps _ _ _ taken with ⟨skipped, rfl⟩ | ⟨kept, key, same, rfl⟩
      · rw [List.filter_cons, if_neg (by rw [skipped]; decide)]
        exact ih tallied rest
      · rw [List.filter_cons, if_pos kept, ← List.singleton_append, ← List.append_assoc]
        exact ih (.update before state key record same tallied) rest

theorem tallied_tally (key : R → K) (before : List R) (state : Dict K V)
    (tallied : Tallied (some ∘ key) initial change before state) :
    Tallied (some ∘ key) initial change (before ++ records) (tally key initial change records state) := by
  induction records generalizing before state with
  | nil =>
      rw [List.append_nil]
      exact tallied
  | cons record records ih =>
      rw [← List.singleton_append, ← List.append_assoc]
      exact ih _ _ (.update before state (key record) record rfl tallied)

/-- This is the sum of some parts of one count. -/
def partSum (count : V) (parts : List (V → Nat)) : Nat :=
  parts.foldr (fun part sum => part count + sum) 0

/-- Each row counts its own records, the rows count all records, no row is empty, and the parts of
each row add up. -/
structure CountsOnce (own : R → Option K) (n : V → Nat) (splits : List (List (V → Nat)))
    (records : List R) (dict : Dict K V) : Prop where
  rows : ∀ entry ∈ dict.entries, n entry.2 = records.countP fun record => own record = some entry.1
  all : total n dict = records.length
  filled : ∀ entry ∈ dict.entries, 0 < n entry.2
  adds : ∀ entry ∈ dict.entries, ∀ parts ∈ splits, partSum entry.2 parts = n entry.2

/-- A tally counts once when each record adds one to the number and to one part of each split. -/
theorem Tallied.countsOnce (tallied : Tallied own initial change records dict) {n : V → Nat}
    {splits : List (List (V → Nat))} (zero : n initial = 0)
    (empty : ∀ parts ∈ splits, partSum initial parts = 0)
    (grows : ∀ value record, n (change value record) = n value + 1)
    (splitGrows : ∀ record ∈ records, ∀ parts ∈ splits, ∀ value,
      partSum (change value record) parts = partSum value parts + 1) :
    CountsOnce own n splits records dict := by
  have rows := tallied.each (fun count => ∀ parts ∈ splits, partSum count parts = n count)
    (fun count => 0 < n count)
    (fun parts inside => (empty parts inside).trans zero.symm)
    (fun record member count kept parts inside => by
      rw [splitGrows record member parts inside, grows, kept parts inside])
    (fun record member count _ => by
      rw [grows]
      exact Nat.succ_pos _)
  constructor
  · rintro ⟨key, count⟩ member
    have counted := tallied.own_eq zero grows key
    rwa [get?_eq_some.mpr member] at counted
  · rw [tallied.total_eq n (fun _ => true) zero grows, List.countP_true]
  · exact fun entry member => (rows entry member).2
  · exact fun entry member => (rows entry member).1

end Tallied

end Dict

end FaultInject.Python
