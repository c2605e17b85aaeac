import Mathlib.Data.List.Forall2

namespace FaultInject.Python

/-- The exception classes that the modelled functions raise. -/
inductive Error where
  | valueError (message : String)
  | unicodeError (message : String)
  | indexError (message : String)
  | keyError (key : String)
  | overflowError (message : String)
  | typeError (message : String)
  | attributeError (message : String)
  | fileNotFoundError (path : String)
  | runtimeError (message : String)
  deriving DecidableEq, Repr

/-- An `except ValueError` clause also catches the Unicode errors. -/
def Error.isValueError : Error → Bool
  | .valueError _ => true
  | .unicodeError _ => true
  | _ => false

/-- A call returns a value or raises an exception. -/
abbrev Result (A : Type) := Except Error A

/-- This is `try: body except ValueError: handler`. -/
def exceptValueError {A : Type} (body : Result A) (handler : Result A) : Result A :=
  match body with
  | .ok value => .ok value
  | .error error => if error.isValueError then handler else .error error

section Bind
variable {E A B : Type}

/-- A sequence returns exactly when both of its calls return. -/
theorem bind_eq_ok {first : Except E A} {next : A → Except E B} {result : B} :
    (first >>= next) = .ok result ↔ ∃ value, first = .ok value ∧ next value = .ok result := by
  cases first <;> simp [bind, Except.bind]

/-- A call that cannot return raises. -/
theorem raises_of_not_returns {call : Except E A} (never : ∀ value, call ≠ .ok value) :
    ∃ error, call = .error error := by
  cases call with
  | ok value => exact absurd rfl (never value)
  | error error => exact ⟨error, rfl⟩

theorem map_eq_ok {call : Except E A} {make : A → B} {result : B} :
    call.map make = .ok result ↔ ∃ value, call = .ok value ∧ make value = result := by
  cases call <;> simp [Except.map]

/-- A guarded call returns exactly when its guard passes and the call returns. -/
theorem guard_eq_ok {guard : Prop} [Decidable guard] {error : E} {call : Except E A} {result : A} :
    (if guard then .error error else call) = .ok result ↔ ¬guard ∧ call = .ok result := by
  by_cases failed : guard <;> simp [failed]

/-- A call behind an early `None` returns a value exactly when the early return is not taken. -/
theorem early_none_eq_ok {done : Prop} [Decidable done] {call : Except E (Option A)} {value : A} :
    (if done then .ok none else call) = .ok (some value) ↔ ¬done ∧ call = .ok (some value) := by
  by_cases taken : done <;> simp [taken]

@[simp] theorem ok_bind (value : A) (next : A → Except E B) :
    ((Except.ok value : Except E A) >>= next) = next value := rfl

@[simp] theorem error_bind (error : E) (next : A → Except E B) :
    ((Except.error error : Except E A) >>= next) = .error error := rfl

@[simp] theorem pure_eq_ok (value : A) : (pure value : Except E A) = .ok value := rfl

@[simp] theorem throw_eq_error (error : E) : (throw error : Except E A) = .error error := rfl

/-- A map returns exactly when every call returns, each with its result. -/
theorem mapM_eq_ok {call : A → Except E B} {values : List A} {results : List B} :
    values.mapM call = .ok results ↔
      List.Forall₂ (fun value result => call value = .ok result) values results := by
  induction values generalizing results with
  | nil =>
      rw [List.mapM_nil, pure_eq_ok, Except.ok.injEq, List.forall₂_nil_left_iff]
      exact eq_comm
  | cons value values ih =>
      simp only [List.mapM_cons, bind_eq_ok, pure_eq_ok, Except.ok.injEq, ih,
        List.forall₂_cons_left_iff]
      constructor
      · rintro ⟨result, first, rest, others, rfl⟩
        exact ⟨result, rest, first, others, rfl⟩
      · rintro ⟨result, rest, first, others, rfl⟩
        exact ⟨result, first, rest, others, rfl⟩

/-- Every result of a map is the result of a call. -/
theorem exists_of_mem_mapM {call : A → Except E B} {values : List A} {results : List B} {result : B}
    (mapped : values.mapM call = .ok results) (member : result ∈ results) :
    ∃ value ∈ values, call value = .ok result := by
  have entries := mapM_eq_ok.mp mapped
  obtain ⟨index, bound, rfl⟩ := List.getElem_of_mem member
  have room : index < values.length := by rw [entries.length_eq]; exact bound
  exact ⟨values[index], List.getElem_mem room, List.Forall₂.get entries room bound⟩

/-- A map that returns returned at each of its values. -/
theorem returns_of_mapM {call : A → Except E B} {values : List A} {results : List B} {value : A}
    (mapped : values.mapM call = .ok results) (member : value ∈ values) :
    ∃ result, call value = .ok result := by
  have entries := mapM_eq_ok.mp mapped
  clear mapped
  induction entries with
  | nil => cases member
  | cons first _ ih =>
      rcases List.mem_cons.mp member with rfl | inside
      · exact ⟨_, first⟩
      · exact ih inside

/-- A map returns when each of its calls returns. -/
theorem mapM_returns {call : A → Except E B} {values : List A}
    (each : ∀ value ∈ values, ∃ result, call value = .ok result) :
    ∃ results, values.mapM call = .ok results := by
  induction values with
  | nil => exact ⟨[], List.mapM_nil⟩
  | cons value values ih =>
      obtain ⟨result, first⟩ := each value List.mem_cons_self
      obtain ⟨results, others⟩ := ih fun other member => each other (List.mem_cons_of_mem _ member)
      exact ⟨result :: results, by rw [List.mapM_cons, first, ok_bind, others]; rfl⟩

/-- A fold returns when each of its steps returns. -/
theorem foldlM_returns {step : B → A → Except E B} {values : List A}
    (each : ∀ value ∈ values, ∀ state, ∃ next, step state value = .ok next) (state : B) :
    ∃ result, values.foldlM step state = .ok result := by
  induction values generalizing state with
  | nil => exact ⟨state, rfl⟩
  | cons value values ih =>
      obtain ⟨next, taken⟩ := each value List.mem_cons_self state
      rw [List.foldlM_cons, taken, ok_bind]
      exact ih (fun other member => each other (List.mem_cons_of_mem _ member)) next

/-- A fold that returns returned at each of its values. -/
theorem exists_of_mem_foldlM {step : B → A → Except E B} {values : List A} {value : A}
    (member : value ∈ values) {state result : B}
    (folded : values.foldlM step state = .ok result) :
    ∃ before after, step before value = .ok after := by
  induction values generalizing state with
  | nil => cases member
  | cons first values ih =>
      rw [List.foldlM_cons] at folded
      obtain ⟨next, taken, folded⟩ := bind_eq_ok.mp folded
      rcases List.mem_cons.mp member with rfl | inside
      · exact ⟨state, next, taken⟩
      · exact ih inside folded

/-- The results of a list of calls are those of the map. -/
theorem mapM_id_map (call : A → Except E B) (values : List A) :
    (values.map call).mapM id = values.mapM call := by
  induction values with
  | nil => rfl
  | cons value values ih => rw [List.map_cons, List.mapM_cons, List.mapM_cons, ih, id]

/-- The value of a result is the value that the call returns. -/
theorem toOption_eq_some {result : Except E A} {value : A} :
    result.toOption = some value ↔ result = .ok value := by
  cases result <;> simp [Except.toOption]

end Bind

/-- A call that fails raises only an allowed exception. -/
def RaisesOnly {E A : Type} (allowed : E → Prop) (result : Except E A) : Prop :=
  ∀ error, result = .error error → allowed error

section RaisesOnly
variable {E A B : Type} {allowed : E → Prop}

@[simp] theorem raisesOnly_ok (value : A) : RaisesOnly allowed (.ok value : Except E A) := by
  intro error same
  cases same

@[simp] theorem raisesOnly_error (error : E) :
    RaisesOnly allowed (.error error : Except E A) ↔ allowed error := by
  constructor
  · intro only
    exact only error rfl
  · intro member other same
    cases same
    exact member

/-- A sequence raises only what its calls raise. -/
theorem RaisesOnly.bind {first : Except E A} {next : A → Except E B}
    (head : RaisesOnly allowed first)
    (tail : ∀ value, first = .ok value → RaisesOnly allowed (next value)) :
    RaisesOnly allowed (first >>= next) := by
  cases first with
  | ok value => exact tail value rfl
  | error error => exact (raisesOnly_error error).mpr (head error rfl)

/-- A guarded call raises only the error of its guard and what the call raises. -/
theorem RaisesOnly.guard {failed : Prop} [Decidable failed] {error : E} {call : Except E A}
    (permitted : allowed error) (passed : ¬failed → RaisesOnly allowed call) :
    RaisesOnly allowed (if failed then .error error else call) := by
  split
  · exact (raisesOnly_error error).mpr permitted
  · exact passed ‹_›

/-- An early return raises nothing. -/
theorem RaisesOnly.early {done : Prop} [Decidable done] {value : A} {call : Except E A}
    (continued : ¬done → RaisesOnly allowed call) :
    RaisesOnly allowed (if done then .ok value else call) := by
  split
  · exact raisesOnly_ok value
  · exact continued ‹_›

/-- A fold raises only what its steps raise. -/
theorem RaisesOnly.foldlM {step : B → A → Except E B}
    (each : ∀ state value, RaisesOnly allowed (step state value))
    (values : List A) (state : B) : RaisesOnly allowed (values.foldlM step state) := by
  induction values generalizing state with
  | nil => exact raisesOnly_ok state
  | cons value rest ih =>
      rw [List.foldlM_cons]
      exact (each state value).bind fun next _ => ih next

/-- A map raises only what its calls raise. -/
theorem RaisesOnly.mapM {call : B → Except E A}
    (each : ∀ value, RaisesOnly allowed (call value)) (values : List B) :
    RaisesOnly allowed (values.mapM call) := by
  induction values with
  | nil => exact raisesOnly_ok []
  | cons value rest ih =>
      rw [List.mapM_cons]
      exact (each value).bind fun _ _ => ih.bind fun _ _ => raisesOnly_ok _

end RaisesOnly

/-- This call raises only what an `except ValueError` clause catches. -/
abbrev OnlyValueErrors {A : Type} (result : Result A) : Prop :=
  RaisesOnly (fun error => error.isValueError = true) result

/-- The value of the handler replaces every call that raises only value errors. -/
theorem exceptValueError_of_raisesOnly {A : Type} {body : Result A} (fallback : A)
    (only : OnlyValueErrors body) :
    exceptValueError body (.ok fallback) = .ok (body.toOption.getD fallback) := by
  cases body with
  | ok value => rfl
  | error error => exact if_pos (only error rfl)

end FaultInject.Python
