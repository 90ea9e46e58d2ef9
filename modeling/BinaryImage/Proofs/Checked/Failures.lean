import BinaryImage.Checked.Basic

/-!
# Where computations fail

A computation fails in the ways in which its parts fail, and a loop in one of its rounds. What is
recovered from a computation that is not at fault does not fail at all.
-/

namespace BinaryImage.Checked

variable {α β σ : Type} {allowed : Failure → Prop} {computation : Checked α}

/-- How the computation fails, if it does. -/
def failure? (computation : Checked α) : Option Failure :=
  match computation.result with
  | .ok _ => none
  | .error failure => some failure

theorem failure?_map (view : α → β) (computation : Checked α) :
    (view <$> computation).failure? = computation.failure? := by
  rw [failure?, failure?, map_result]
  cases computation.result with
  | ok value => rfl
  | error failure => rfl

/-- Where the computation fails, it does so in an allowed way. -/
def FailsWithin (allowed : Failure → Prop) (computation : Checked α) : Prop :=
  ∀ failure, computation.result = .error failure → allowed failure

theorem FailsWithin.pure (value : α) : FailsWithin allowed (pure value) :=
  fun _ failed => nomatch failed

theorem FailsWithin.reject
    {rejection : Rejection} (inside : allowed rejection.failure) :
    FailsWithin allowed (reject rejection : Checked α) := by
  intro failure failed
  have same : rejection.failure = failure := Except.error.inj failed
  exact same ▸ inside

theorem FailsWithin.bind
    {next : α → Checked β} (first : FailsWithin allowed computation)
    (rest : ∀ value, FailsWithin allowed (next value)) :
    FailsWithin allowed (computation >>= next) := by
  intro failure failed
  rcases bind_result_eq_error_iff.mp failed with early | ⟨value, _, late⟩
  · exact first failure early
  · exact rest value failure late

theorem FailsWithin.map (view : α → β) (within : FailsWithin allowed computation) :
    FailsWithin allowed (view <$> computation) := by
  rw [← bind_pure_comp]
  exact within.bind fun value => .pure (view value)

theorem FailsWithin.iterate
    {step : σ → Checked σ} (each : ∀ state, FailsWithin allowed (step state))
    (count : Nat) (state : σ) :
    FailsWithin allowed (Checked.iterate step count state) := by
  induction count generalizing state with
  | zero => exact .pure state
  | succ count inductionHypothesis => exact (each state).bind inductionHypothesis

/-- Rounds that fail do so in one of them, behind rounds that succeed. -/
theorem exists_round_of_iterate_result
    {step : σ → Checked σ} {count : Nat} {state : σ} {failure : Failure}
    (failed : (Checked.iterate step count state).result = .error failure) :
    ∃ done < count, ∃ middle, (Checked.iterate step done state).result = .ok middle ∧
      (step middle).result = .error failure := by
  induction count generalizing state with
  | zero => cases failed
  | succ count inductionHypothesis =>
      rcases bind_result_eq_error_iff.mp failed with first | ⟨next, succeeded, later⟩
      · exact ⟨0, Nat.succ_pos count, state, rfl, first⟩
      · obtain ⟨done, within, middle, reached, last⟩ := inductionHypothesis later
        refine ⟨done + 1, Nat.succ_lt_succ within, middle, ?_, last⟩
        exact bind_result_eq_ok_iff.mpr ⟨next, succeeded, reached⟩

theorem FailsWithin.attempt
    (recoverable : FailsWithin (fun failure => failure.code ≠ .internalError) computation) :
    FailsWithin allowed (attempt computation) := by
  -- An attempt passes on faults only, and recovers from the rest.
  intro failure failed
  unfold Checked.attempt at failed
  split at failed
  · cases failed
  · rename_i earlier failedBefore
    rw [if_neg (recoverable earlier failedBefore)] at failed
    cases failed

end BinaryImage.Checked
