import Mathlib.Data.List.Forall2

namespace FaultInject.Python
variable {A : Type}

/-- The second list is the first one with more values that are noise. -/
inductive Inserted (noise : A → Prop) : List A → List A → Prop where
  | nil : Inserted noise [] []
  | keep {values longer : List A} (value : A) (rest : Inserted noise values longer) :
      Inserted noise (value :: values) (value :: longer)
  | insert {values longer : List A} (value : A) (noisy : noise value)
      (rest : Inserted noise values longer) : Inserted noise values (value :: longer)

namespace Inserted
variable {noise : A → Prop} {values longer : List A}

theorem subset (inserted : Inserted noise values longer) : values ⊆ longer := by
  induction inserted with
  | nil => exact List.Subset.refl _
  | keep value _ ih => exact List.cons_subset_cons value ih
  | insert value _ _ ih => exact List.subset_cons_of_subset value ih

/-- A test that no noise passes does not see the inserted values. -/
theorem any_eq (inserted : Inserted noise values longer) {test : A → Bool}
    (quiet : ∀ value, noise value → test value = false) : longer.any test = values.any test := by
  induction inserted with
  | nil => rfl
  | keep value _ ih => rw [List.any_cons, List.any_cons, ih]
  | insert value noisy _ ih => rw [List.any_cons, quiet value noisy, Bool.false_or, ih]

/-- The first value that passes such a test is the old one. -/
theorem find?_eq (inserted : Inserted noise values longer) {test : A → Bool}
    (quiet : ∀ value, noise value → test value = false) : longer.find? test = values.find? test := by
  induction inserted with
  | nil => rfl
  | keep value _ ih => rw [List.find?_cons, List.find?_cons, ih]
  | insert value noisy _ ih => rw [List.find?_cons, quiet value noisy, ih]

/-- The first value is the old one or noise. -/
theorem head?_eq (inserted : Inserted noise values longer) :
    longer.head? = values.head? ∨ ∃ value, noise value ∧ longer.head? = some value := by
  cases inserted with
  | nil => exact .inl rfl
  | keep value _ => exact .inl rfl
  | insert value noisy _ => exact .inr ⟨value, noisy, rfl⟩

end Inserted

end FaultInject.Python
