import FaultInject.Python.Result
import Mathlib.Data.List.Nodup

namespace FaultInject.Python

/-- A `dict` keeps its entries in insertion order and has distinct keys. -/
structure Dict (K V : Type) where
  entries : List (K × V)
  distinct : (entries.map Prod.fst).Nodup

namespace Dict
variable {K V : Type}

/-- This is `{}`. -/
def empty : Dict K V := ⟨[], List.nodup_nil⟩

theorem nodup_filter (dict : Dict K V) (test : K × V → Bool) :
    ((dict.entries.filter test).map Prod.fst).Nodup :=
  (List.filter_sublist.map Prod.fst).nodup dict.distinct

/-- This is a lookup in a constant table. -/
def item (table : List (String × V)) (key : String) : Result V :=
  match table.lookup key with
  | some value => .ok value
  | none => .error (.keyError key)

/-- Exactly the keys of a table have a value. -/
theorem item_returns {table : List (String × V)} {key : String} :
    (∃ value, item table key = .ok value) ↔ key ∈ table.map Prod.fst := by
  unfold item
  cases found : table.lookup key with
  | none =>
      rw [List.lookup_eq_none_iff] at found
      constructor
      · rintro ⟨value, same⟩
        cases same
      · intro member
        obtain ⟨entry, inside, rfl⟩ := List.mem_map.mp member
        exact absurd rfl (bne_iff_ne.mp (found entry inside))
  | some value =>
      obtain ⟨before, behind, rfl, _⟩ := List.lookup_eq_some_iff.mp found
      rw [List.map_append, List.map_cons]
      exact ⟨fun _ => List.mem_append_right _ List.mem_cons_self, fun _ => ⟨value, rfl⟩⟩

/-- A test that all keys of a table pass is passed by every key with a value. -/
theorem test_of_item {table : List (String × V)} {test : String → Bool} {key : String} {value : V}
    (passed : (table.map Prod.fst).all test) (known : item table key = .ok value) :
    test key = true :=
  List.all_eq_true.mp passed key (item_returns.mp ⟨value, known⟩)

variable [DecidableEq K]

/-- This is `dict.get(key)`. -/
def get? (dict : Dict K V) (key : K) : Option V := dict.entries.lookup key

/-- This is `key in dict`. -/
def contains (dict : Dict K V) (key : K) : Bool := (dict.get? key).isSome

/-- This is `dict[key]` with the text of the key in the error. -/
def getItem (dict : Dict K V) (key : K) (text : String) : Result V :=
  match dict.get? key with
  | some value => .ok value
  | none => .error (.keyError text)

/-- The entries with the value of the key replaced in place. -/
def replaced (entries : List (K × V)) (key : K) (value : V) : List (K × V) :=
  entries.map fun entry => if entry.1 = key then (key, value) else entry

theorem map_fst_replaced (entries : List (K × V)) (key : K) (value : V) :
    (replaced entries key value).map Prod.fst = entries.map Prod.fst := by
  rw [replaced, List.map_map]
  apply List.map_congr_left
  intro entry _
  by_cases same : entry.1 = key <;> simp [same]

/-- This is `dict[key] = value`. -/
def set (dict : Dict K V) (key : K) (value : V) : Dict K V :=
  if present : key ∈ dict.entries.map Prod.fst then
    ⟨replaced dict.entries key value, by rw [map_fst_replaced]; exact dict.distinct⟩
  else
    ⟨dict.entries ++ [(key, value)], by
      rw [List.map_append, List.map_singleton, ← List.concat_eq_append]
      exact dict.distinct.concat present⟩

@[simp] theorem get?_empty (key : K) : (empty : Dict K V).get? key = none := rfl

/-- A key has the value of its one entry. -/
theorem get?_eq_some {dict : Dict K V} {key : K} {value : V} :
    dict.get? key = some value ↔ (key, value) ∈ dict.entries := by
  obtain ⟨entries, distinct⟩ := dict
  rw [get?]
  induction entries with
  | nil => simp
  | cons entry entries ih =>
      obtain ⟨first, found⟩ := entry
      rw [List.map_cons, List.nodup_cons] at distinct
      rw [List.lookup_cons, List.mem_cons, Prod.mk.injEq]
      by_cases same : key = first
      · subst same
        rw [beq_self_eq_true]
        constructor
        · intro value
          exact .inl ⟨rfl, (Option.some.inj value).symm⟩
        · rintro (⟨_, rfl⟩ | member)
          · rfl
          · exact absurd (List.mem_map_of_mem (f := Prod.fst) member) distinct.1
      · rw [beq_eq_false_iff_ne.mpr same]
        simp only [same, false_and, false_or]
        exact ih distinct.2

theorem lookup_replaced (entries : List (K × V)) (key other : K) (value : V) :
    (replaced entries key value).lookup other =
      if other = key then (entries.lookup key).map fun _ => value else entries.lookup other := by
  induction entries with
  | nil => simp [replaced]
  | cons entry entries ih =>
      obtain ⟨first, found⟩ := entry
      rw [replaced, List.map_cons]
      by_cases here : first = key
      · subst here
        by_cases same : other = first
        · simp [same]
        · rw [if_pos rfl, List.lookup_cons, beq_eq_false_iff_ne.mpr same, if_neg same,
            List.lookup_cons, beq_eq_false_iff_ne.mpr same]
          simpa [same, replaced] using ih
      · rw [if_neg here, List.lookup_cons]
        by_cases same : other = first
        · subst same
          simp [here]
        · rw [beq_eq_false_iff_ne.mpr same]
          rw [replaced] at ih
          simp only [ih, List.lookup_cons, beq_eq_false_iff_ne.mpr same,
            beq_eq_false_iff_ne.mpr (Ne.symm here)]

/-- An assignment changes the value of its key and of no other key. -/
theorem get?_set (dict : Dict K V) (key other : K) (value : V) :
    (dict.set key value).get? other = if other = key then some value else dict.get? other := by
  rw [set]
  split
  · rename_i present
    rw [get?, lookup_replaced]
    by_cases same : other = key
    · obtain ⟨entry, member, rfl⟩ := List.mem_map.mp present
      have found : dict.get? entry.1 = some entry.2 := get?_eq_some.mpr member
      rw [get?] at found
      rw [if_pos same, if_pos same, found]
      rfl
    · rw [if_neg same, if_neg same, get?]
  · rename_i absent
    rw [get?, List.lookup_append]
    by_cases same : other = key
    · subst same
      have none : dict.entries.lookup other = none := by
        rw [List.lookup_eq_none_iff]
        intro entry member
        rw [bne_iff_ne]
        rintro rfl
        exact absent (List.mem_map_of_mem member)
      rw [none, List.lookup_cons_self, if_pos rfl]
      rfl
    · rw [List.lookup_cons, beq_eq_false_iff_ne.mpr same, if_neg same]
      exact Option.or_none

/-- Only the last of two assignments to a key remains. -/
theorem set_set (dict : Dict K V) (key : K) (first second : V) :
    (dict.set key first).set key second = dict.set key second := by
  unfold set
  by_cases present : key ∈ dict.entries.map Prod.fst
  · have still : key ∈ (replaced dict.entries key first).map Prod.fst := by
      rw [map_fst_replaced]
      exact present
    simp only [dif_pos present, dif_pos still, mk.injEq]
    rw [replaced, replaced, replaced, List.map_map]
    apply List.map_congr_left
    intro entry _
    by_cases same : entry.1 = key <;> simp [same]
  · have still : key ∈ (dict.entries ++ [(key, first)]).map Prod.fst := by simp
    simp only [dif_neg present, dif_pos still, mk.injEq]
    have others : replaced dict.entries key second = dict.entries := by
      have fixed : dict.entries.map (fun entry => if entry.1 = key then (key, second) else entry) =
          dict.entries.map id := by
        apply List.map_congr_left
        intro entry member
        apply if_neg
        rintro rfl
        exact present (List.mem_map_of_mem member)
      rw [replaced, fixed, List.map_id]
    rw [replaced, List.map_append, ← replaced, others]
    simp

/-- An entry after an assignment is the assigned one or an entry before. -/
theorem mem_set {dict : Dict K V} {key other : K} {value found : V}
    (member : (other, found) ∈ (dict.set key value).entries) :
    (other, found) = (key, value) ∨ (other, found) ∈ dict.entries := by
  rw [← get?_eq_some, get?_set] at member
  by_cases same : other = key
  · rw [if_pos same] at member
    exact .inl (Prod.ext same (Option.some.inj member).symm)
  · rw [if_neg same, get?_eq_some] at member
    exact .inr member

/-- This is a `dict` display. A later value of a key replaces an earlier one. -/
def ofEntries (entries : List (K × V)) : Dict K V :=
  entries.foldl (fun dict entry => dict.set entry.1 entry.2) empty

/-- This is `{key: value for key, value in dict.items() if key not in removed}`. -/
def without (dict : Dict K V) (removed : List K) : Dict K V :=
  ⟨dict.entries.filter fun entry => entry.1 ∉ removed, nodup_filter dict _⟩

/-- A display has exactly the keys of its entries. -/
theorem get?_ofEntries_isSome {entries : List (K × V)} {key : K} :
    ((ofEntries entries).get? key).isSome ↔ key ∈ entries.map Prod.fst := by
  have keys (dict : Dict K V) :
      ((entries.foldl (fun dict entry => dict.set entry.1 entry.2) dict).get? key).isSome ↔
        key ∈ entries.map Prod.fst ∨ (dict.get? key).isSome := by
    induction entries generalizing dict with
    | nil => simp
    | cons entry entries ih =>
        rw [List.foldl_cons, ih, get?_set, List.map_cons, List.mem_cons]
        by_cases same : key = entry.1 <;> simp [same]
  rw [ofEntries, keys]
  simp

/-- A display of distinct keys has the values of its entries. -/
theorem get?_ofEntries {entries : List (K × V)} (distinct : (entries.map Prod.fst).Nodup)
    (key : K) : (ofEntries entries).get? key = entries.lookup key := by
  have values (dict : Dict K V) :
      (entries.foldl (fun dict entry => dict.set entry.1 entry.2) dict).get? key =
        (entries.lookup key).or (dict.get? key) := by
    induction entries generalizing dict with
    | nil => rfl
    | cons entry entries ih =>
        obtain ⟨first, value⟩ := entry
        rw [List.map_cons, List.nodup_cons] at distinct
        rw [List.foldl_cons, ih distinct.2, get?_set, List.lookup_cons]
        by_cases same : key = first
        · have none : entries.lookup key = none := by
            rw [List.lookup_eq_none_iff]
            intro other member
            rw [bne_iff_ne]
            intro again
            apply distinct.1
            rw [← same, again]
            exact List.mem_map.mpr ⟨other, member, rfl⟩
          rw [none, if_pos same, beq_iff_eq.mpr same]
          rfl
        · rw [if_neg same, beq_eq_false_iff_ne.mpr same]
  rw [ofEntries, values, get?_empty, Option.or_none]

/-- A display of distinct keys has its entries in order. -/
theorem entries_ofEntries {entries : List (K × V)} (distinct : (entries.map Prod.fst).Nodup) :
    (ofEntries entries).entries = entries := by
  have appended (dict : Dict K V) (fresh : ∀ key ∈ dict.entries.map Prod.fst,
      key ∉ entries.map Prod.fst) :
      (entries.foldl (fun dict entry => dict.set entry.1 entry.2) dict).entries =
        dict.entries ++ entries := by
    induction entries generalizing dict with
    | nil => rw [List.foldl_nil, List.append_nil]
    | cons entry entries ih =>
        rw [List.map_cons, List.nodup_cons] at distinct
        have absent : entry.1 ∉ dict.entries.map Prod.fst := fun present =>
          fresh entry.1 present List.mem_cons_self
        have next : (dict.set entry.1 entry.2).entries = dict.entries ++ [entry] := by
          rw [set, dif_neg absent]
        rw [List.foldl_cons, ih distinct.2, next, List.append_assoc, List.singleton_append]
        intro key member
        rw [next, List.map_append, List.map_singleton, List.mem_append, List.mem_singleton] at member
        rcases member with before | rfl
        · exact fun behind => fresh key before (List.mem_cons_of_mem _ behind)
        · exact distinct.1
  rw [ofEntries, appended empty fun key member => absurd member List.not_mem_nil]
  rfl

theorem getItem_returns {dict : Dict K V} {key : K} (present : (dict.get? key).isSome)
    (text : String) : ∃ value, dict.getItem key text = .ok value := by
  obtain ⟨value, found⟩ := Option.isSome_iff_exists.mp present
  exact ⟨value, by rw [getItem, found]⟩

/-- A lookup with a key error returns exactly the value of the key. -/
theorem getItem_eq_ok {dict : Dict K V} {key : K} {text : String} {value : V} :
    dict.getItem key text = .ok value ↔ dict.get? key = some value := by
  unfold getItem
  cases dict.get? key <;> simp

/-- This is `dict.setdefault(key, initial)` with an update of the value in place. -/
def update (dict : Dict K V) (key : K) (initial : V) (change : V → V) : Dict K V :=
  dict.set key (change ((dict.get? key).getD initial))

section Tally
variable {R : Type} (key : R → K) (initial : V) (change : V → R → V)

/-- A tally updates the value of the key of each record in turn. -/
def tally (records : List R) (dict : Dict K V) : Dict K V :=
  records.foldl (fun dict record => dict.update (key record) initial (change · record)) dict

/-- The value of a key is the fold over the records with that key. -/
theorem get?_tally (records : List R) (dict : Dict K V) (group : K) :
    (tally key initial change records dict).get? group =
      match records.filter (key · = group) with
      | [] => dict.get? group
      | first :: rest =>
          some ((first :: rest).foldl change ((dict.get? group).getD initial)) := by
  induction records generalizing dict with
  | nil => rfl
  | cons record records ih =>
      rw [tally, List.foldl_cons, ← tally, ih, update, get?_set, List.filter_cons]
      by_cases same : key record = group
      · subst same
        simp only [if_pos, decide_true, Option.getD_some, List.foldl_cons]
        cases records.filter fun other => key other = key record <;> rfl
      · simp only [if_neg (Ne.symm same), same, decide_false, Bool.false_eq_true, if_false]

/-- A fresh tally has exactly the keys of its records. -/
theorem get?_tally_empty (records : List R) (group : K) :
    (tally key initial change records empty).get? group =
      if records.filter (key · = group) = [] then none
      else some ((records.filter (key · = group)).foldl change initial) := by
  rw [get?_tally]
  cases records.filter fun record => key record = group <;> simp

end Tally

end Dict

end FaultInject.Python
