import SandboxPolicy.Bytecode.Builder

/-!
Steps that carry a state and may fail, one after the other: how each of them ends is read off how
its parts end.
-/

namespace SandboxPolicy.Steps

variable {ε ε' σ α β : Type} {state after : σ} {value : α} {result : β} {error : ε}

@[simp] theorem pure_apply : (pure value : EStateM ε σ α) state = .ok value state := rfl

@[simp] theorem throw_apply : (throw error : EStateM ε σ α) state = .error error state := rfl

@[simp] theorem get_apply : (get : EStateM ε σ σ) state = .ok state state := rfl

@[simp] theorem liftExcept_ok :
    (liftExcept (.ok value : Except ε α) : EStateM ε σ α) state = .ok value state := rfl

@[simp] theorem liftExcept_error :
    (liftExcept (.error error : Except ε α) : EStateM ε σ α) state = .error error state := rfl

theorem bind_apply (first : EStateM ε σ α) (next : α → EStateM ε σ β) :
    (first >>= next) state =
      match first state with
      | .ok value middle => next value middle
      | .error error middle => .error error middle := rfl

theorem bind_of_ok {first : EStateM ε σ α} {next : α → EStateM ε σ β} {middle : σ}
    (done : first state = .ok value middle) : (first >>= next) state = next value middle := by
  rw [bind_apply, done]

theorem bind_eq_ok {first : EStateM ε σ α} {next : α → EStateM ε σ β} :
    (first >>= next) state = .ok result after ↔
      ∃ value middle, first state = .ok value middle ∧ next value middle = .ok result after := by
  rw [bind_apply]
  cases first state <;> simp [and_assoc]

theorem bind_eq_error {first : EStateM ε σ α} {next : α → EStateM ε σ β} :
    (first >>= next) state = .error error after ↔ first state = .error error after ∨
      ∃ value middle, first state = .ok value middle ∧ next value middle = .error error after := by
  rw [bind_apply]
  cases first state <;> simp [and_assoc]

theorem map_apply (change : α → β) (step : EStateM ε σ α) :
    (change <$> step) state =
      match step state with
      | .ok value after => .ok (change value) after
      | .error error after => .error error after := rfl

theorem map_eq_ok {change : α → β} {step : EStateM ε σ α} :
    (change <$> step) state = .ok result after ↔
      ∃ value, step state = .ok value after ∧ result = change value := by
  rw [map_apply]
  cases step state with
  | error => simp
  | ok found middle =>
      simp only [EStateM.Result.ok.injEq]
      constructor
      · rintro ⟨rfl, rfl⟩
        exact ⟨found, ⟨rfl, rfl⟩, rfl⟩
      · rintro ⟨_, ⟨rfl, rfl⟩, rfl⟩
        exact ⟨rfl, rfl⟩

theorem map_eq_error {change : α → β} {step : EStateM ε σ α} :
    (change <$> step) state = .error error after ↔ step state = .error error after := by
  rw [map_apply]
  cases step state <;> simp

theorem liftExcept_eq_ok {outcome : Except ε α} :
    (liftExcept outcome : EStateM ε σ α) state = .ok value after ↔
      outcome = .ok value ∧ after = state := by
  cases outcome <;> simp [eq_comm (a := after)]

theorem adaptExcept_eq_ok {change : ε → ε'} {step : EStateM ε σ α} :
    EStateM.adaptExcept change step state = .ok value after ↔ step state = .ok value after := by
  simp only [EStateM.adaptExcept]
  cases step state <;> simp

theorem adaptExcept_eq_error {change : ε → ε'} {step : EStateM ε σ α} {fault : ε'} :
    EStateM.adaptExcept change step state = .error fault after ↔
      ∃ error, step state = .error error after ∧ change error = fault := by
  simp only [EStateM.adaptExcept]
  cases step state with
  | ok => simp
  | error found middle =>
      constructor
      · intro failed
        cases failed
        exact ⟨found, rfl, rfl⟩
      · rintro ⟨_, failed, rfl⟩
        cases failed
        rfl

def FailsOnly (allowed : ε → Prop) (step : EStateM ε σ α) : Prop :=
  ∀ state error after, step state = .error error after → allowed error

variable {allowed : ε → Prop}

theorem FailsOnly.pure (value : α) : FailsOnly allowed (pure value : EStateM ε σ α) :=
  fun _ _ _ failed => by cases failed

theorem FailsOnly.bind {first : EStateM ε σ α} {next : α → EStateM ε σ β}
    (begins : FailsOnly allowed first) (continues : ∀ value, FailsOnly allowed (next value)) :
    FailsOnly allowed (first >>= next) := by
  intro state error after failed
  rcases bind_eq_error.mp failed with failed | ⟨value, middle, _, failed⟩
  · exact begins state error after failed
  · exact continues value middle error after failed

end SandboxPolicy.Steps
