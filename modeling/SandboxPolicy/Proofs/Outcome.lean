import Mathlib.Data.List.Forall2

/-!
Computations that may fail, one after the other: how each of them ends is read off how its parts
end.
-/

namespace SandboxPolicy.Outcome

variable {ε ε' α β γ : Type} {outcome : Except ε α} {value : α} {result : β} {error : ε}

theorem exists_of_isOk (succeeds : outcome.isOk = true) : ∃ value, outcome = .ok value := by
  cases outcome with
  | error error => cases succeeds
  | ok value => exact ⟨value, rfl⟩

theorem bind_eq_ok {next : α → Except ε β} :
    (outcome >>= next) = .ok result ↔ ∃ value, outcome = .ok value ∧ next value = .ok result := by
  cases outcome <;> simp [bind, Except.bind]

theorem bind_eq_error {next : α → Except ε β} :
    (outcome >>= next) = .error error ↔
      outcome = .error error ∨ ∃ value, outcome = .ok value ∧ next value = .error error := by
  cases outcome <;> simp [bind, Except.bind]

theorem map_eq_ok {change : α → β} :
    outcome.map change = .ok result ↔ ∃ value, outcome = .ok value ∧ change value = result := by
  cases outcome <;> simp [Except.map]

theorem mapError_eq_ok {change : ε → ε'} :
    outcome.mapError change = .ok value ↔ outcome = .ok value := by
  cases outcome <;> simp [Except.mapError]

theorem mapError_eq_error {change : ε → ε'} {fault : ε'} :
    outcome.mapError change = .error fault ↔
      ∃ error, outcome = .error error ∧ change error = fault := by
  cases outcome <;> simp [Except.mapError]

theorem mapM_eq_ok {step : α → Except ε β} {inputs : List α} {results : List β} :
    inputs.mapM step = .ok results ↔
      List.Forall₂ (fun input result => step input = .ok result) inputs results := by
  induction inputs generalizing results with
  | nil =>
      rw [List.mapM_nil, List.forall₂_nil_left_iff]
      exact ⟨fun done => (Except.ok.inj done).symm, fun none => none ▸ rfl⟩
  | cons first rest ih =>
      simp only [List.mapM_cons, bind_eq_ok, ih, List.forall₂_cons_left_iff]
      constructor
      · rintro ⟨head, started, tail, all, done⟩
        exact ⟨head, tail, started, all, (Except.ok.inj done).symm⟩
      · rintro ⟨head, tail, started, all, rfl⟩
        exact ⟨head, started, tail, all, rfl⟩

theorem exists_mapM {step : α → Except ε β} {inputs : List α}
    (each : ∀ input ∈ inputs, ∃ result, step input = .ok result) :
    ∃ results, inputs.mapM step = .ok results := by
  induction inputs with
  | nil => exact ⟨[], rfl⟩
  | cons first rest ih =>
      obtain ⟨head, started⟩ := each first List.mem_cons_self
      obtain ⟨tail, all⟩ := ih fun input member => each input (List.mem_cons_of_mem _ member)
      rw [mapM_eq_ok] at all
      exact ⟨head :: tail, mapM_eq_ok.mpr (.cons started all)⟩

theorem forall_of_mapM {step : α → Except ε β} {inputs : List α} {results : List β}
    (done : inputs.mapM step = .ok results) :
    ∀ input ∈ inputs, ∃ result, step input = .ok result := by
  rw [mapM_eq_ok] at done
  induction done with
  | nil => simp
  | cons first _ ih =>
      intro input member
      rcases List.mem_cons.mp member with rfl | later
      · exact ⟨_, first⟩
      · exact ih input later

theorem exists_of_mapM_error {step : α → Except ε β} {inputs : List α}
    (failed : inputs.mapM step = .error error) :
    ∃ before input after, inputs = before ++ input :: after ∧
      (∀ earlier ∈ before, ∃ result, step earlier = .ok result) ∧ step input = .error error := by
  induction inputs with
  | nil => cases failed
  | cons first rest ih =>
      rw [List.mapM_cons, bind_eq_error] at failed
      rcases failed with failed | ⟨head, started, failed⟩
      · exact ⟨[], first, rest, rfl, by simp, failed⟩
      · rcases bind_eq_error.mp failed with failed | ⟨_, _, done⟩
        · obtain ⟨before, input, after, rfl, fine, failed⟩ := ih failed
          refine ⟨first :: before, input, after, rfl, ?_, failed⟩
          intro earlier member
          rcases List.mem_cons.mp member with rfl | later
          · exact ⟨head, started⟩
          · exact fine earlier later
        · cases done

/-- Where the inputs are shown with their faults, the error is the first fault that is shown. -/
theorem mapM_eq_error_iff {step : α → Except ε β} {fault? : γ → Option ε} {inputs : List α}
    {shown : List γ}
    (faults : List.Forall₂ (fun input item => ∀ error,
      step input = .error error ↔ fault? item = some error) inputs shown) :
    inputs.mapM step = .error error ↔ shown.findSome? fault? = some error := by
  induction faults with
  | nil => simp [pure, Except.pure]
  | @cons input item inputs shown first _ ih =>
      rw [List.mapM_cons, bind_eq_error, List.findSome?_cons]
      cases stepped : step input with
      | error fault =>
          rw [(first fault).mp stepped]
          simp
      | ok result =>
          have silent : fault? item = none := by
            refine Option.eq_none_iff_forall_ne_some.mpr fun fault listed => ?_
            have failed := (first fault).mpr listed
            rw [stepped] at failed
            cases failed
          simp [silent, ← ih, bind_eq_error, pure, Except.pure]

theorem foldlM_keeps {step : β → α → Except ε β} {Kept : β → Prop} {inputs : List α}
    {state last : β}
    (keeps : ∀ input ∈ inputs, ∀ state next, Kept state → step state input = .ok next → Kept next)
    (kept : Kept state) (done : inputs.foldlM step state = .ok last) : Kept last := by
  induction inputs generalizing state with
  | nil => exact Except.ok.inj done ▸ kept
  | cons first rest ih =>
      rw [List.foldlM_cons, bind_eq_ok] at done
      obtain ⟨next, stepped, later⟩ := done
      have kept' := keeps first List.mem_cons_self state next kept stepped
      exact ih (fun input member => keeps input (List.mem_cons_of_mem _ member)) kept' later

end SandboxPolicy.Outcome
