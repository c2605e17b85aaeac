import Mathlib.Logic.Basic

/-
This file states rules for computations that change a state and raise exceptions. An exception keeps
the state.
-/

namespace FaultInject.Python

/-- A computation changes the state and returns a value or raises an exception. -/
abbrev Effect (E S A : Type) := ExceptT E (StateM S) A

namespace Effect
variable {E S A B : Type}

/-- This is the result of the computation and the state behind it. -/
def outcome (effect : Effect E S A) (state : S) : Except E A × S := effect.run state

/-- The postcondition holds behind the computation, whether it returns or raises. -/
def Ends (effect : Effect E S A) (post : Except E A → S → Prop) (state : S) : Prop :=
  post (effect.outcome state).1 (effect.outcome state).2

/-- A returned value goes on, and an exception meets the postcondition. -/
def OnReturn (post : Except E B → S → Prop) (next : A → S → Prop) : Except E A → S → Prop
  | .ok value, state => next value state
  | .error error, state => post (.error error) state

/-- A returned value meets the postcondition, and an exception goes to its handler. -/
def OnRaise (post : Except E A → S → Prop) (handler : E → S → Prop) : Except E A → S → Prop
  | .ok value, state => post (.ok value) state
  | .error error, state => handler error state

/-- The result stands unless the cleanup raises an exception. -/
def OnCleanup (post : Except E A → S → Prop) (result : Except E A) : Except E B → S → Prop
  | .ok _, state => post result state
  | .error error, state => post (.error error) state

/-- The computation runs if the condition holds. -/
def onlyIf (condition : Bool) (effect : Effect E S Unit) : Effect E S Unit :=
  if condition then effect else pure ()

section Rules
variable {post : Except E A → S → Prop} {state : S}

/-- A stronger postcondition is enough. -/
theorem Ends.mono {effect : Effect E S A} {stronger : Except E A → S → Prop}
    (ends : Ends effect stronger state)
    (implies : ∀ result state, stronger result state → post result state) :
    Ends effect post state := implies _ _ ends

@[simp] theorem ends_pure (value : A) :
    Ends (pure value : Effect E S A) post state ↔ post (.ok value) state := Iff.rfl

@[simp] theorem ends_throw (error : E) :
    Ends (throw error : Effect E S A) post state ↔ post (.error error) state := Iff.rfl

@[simp] theorem ends_modify {change : S → S} {post : Except E Unit → S → Prop} :
    Ends (modify change : Effect E S Unit) post state ↔ post (.ok ()) (change state) := Iff.rfl

/-- A sequence ends as its second part behind a return of the first. -/
theorem ends_bind {effect : Effect E S B} {next : B → Effect E S A} :
    Ends (effect >>= next) post state ↔
      Ends effect (OnReturn post fun value state => Ends (next value) post state) state := by
  unfold Ends outcome
  rw [ExceptT.run_bind]
  change post (StateT.bind effect.run _ state).1 (StateT.bind effect.run _ state).2 ↔ _
  unfold StateT.bind
  dsimp only [bind]
  rcases effect.run state with ⟨_ | _, middle⟩ <;> rfl

/-- The second part of a sequence starts where the first part returned. -/
theorem Ends.bind {effect : Effect E S B} {next : B → Effect E S A} {middle : Except E B → S → Prop}
    (first : Ends effect middle state)
    (returns : ∀ value state, middle (.ok value) state → Ends (next value) post state)
    (raises : ∀ error state, middle (.error error) state → post (.error error) state) :
    Ends (effect >>= next) post state := by
  rw [ends_bind]
  apply first.mono
  intro result state met
  cases result with
  | ok value => exact returns value state met
  | error error => exact raises error state met

/-- The state is changed. -/
theorem ends_modify_bind {change : S → S} {next : Unit → Effect E S A} :
    Ends (modify change >>= next) post state ↔ Ends (next ()) post (change state) := Iff.rfl

/-- The state is read. -/
theorem ends_get_bind {next : S → Effect E S A} :
    Ends (get >>= next) post state ↔ Ends (next state) post state := Iff.rfl

/-- The handler runs behind an exception of the body. -/
theorem ends_tryCatch {body : Effect E S A} {handler : E → Effect E S A} :
    Ends (tryCatch body handler) post state ↔
      Ends body (OnRaise post fun error state => Ends (handler error) post state) state := by
  change Ends (ExceptT.tryCatch body handler) post state ↔ _
  unfold Ends outcome ExceptT.tryCatch
  dsimp only [ExceptT.run, ExceptT.mk, bind, StateT.bind, pure, StateT.pure]
  rcases body state with ⟨_ | _, middle⟩ <;> rfl

/-- The cleanup runs behind the body in any case. -/
theorem ends_tryFinally {body : Effect E S A} {cleanup : Effect E S B} :
    Ends (tryFinally body cleanup) post state ↔
      Ends body (fun result state => Ends cleanup (OnCleanup post result) state) state := by
  unfold Ends outcome tryFinally tryFinally' ExceptT.finally StateT.tryFinally Id.finally
  dsimp only [ExceptT.run, ExceptT.mk, bind, StateT.bind, Functor.map, ExceptT.map, StateT.map,
    tryFinally', pure, StateT.pure]
  rcases body state with ⟨_ | _, middle⟩ <;> dsimp only <;>
    rcases cleanup middle with ⟨_ | _, last⟩ <;> rfl

@[simp] theorem onReturn_error {next : B → S → Prop} {error : E} :
    OnReturn post next (.error error) state ↔ post (.error error) state := Iff.rfl

@[simp] theorem onRaise_error {handler : E → S → Prop} {error : E} :
    OnRaise post handler (.error error) state ↔ handler error state := Iff.rfl

/-- Without the condition the state is kept. -/
theorem ends_onlyIf {condition : Bool} {effect : Effect E S Unit} {post : Except E Unit → S → Prop} :
    Ends (onlyIf condition effect) post state ↔
      (condition = true → Ends effect post state) ∧ (condition = false → post (.ok ()) state) := by
  cases condition <;> simp [onlyIf]

end Rules

end Effect

end FaultInject.Python
