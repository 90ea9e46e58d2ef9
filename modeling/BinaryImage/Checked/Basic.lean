import BinaryImage.Trace.Rejection

/-!
# Checked computations

A checked computation yields a value or a failure, and leaves the rejections met on the way, in
order. Arithmetic and slicing that the code takes to be safe are checked too: where they are not,
the computation is at fault and fails as an internal error, which nothing recovers from. So a
computation that never fails that way has proved its arithmetic safe.
-/

namespace BinaryImage

/-- A value or a failure, and the rejections met on the way. -/
structure Checked (α : Type) where
  result : Except Failure α
  trace : List Rejection

namespace Checked

variable {α β σ : Type}

instance : Monad Checked where
  pure value := ⟨.ok value, []⟩
  bind computation next :=
    match computation.result with
    | .ok value => ⟨(next value).result, computation.trace ++ (next value).trace⟩
    | .error failure => ⟨.error failure, computation.trace⟩

/-- Refuses the operands, and leaves a record of it. -/
def reject (rejection : Rejection) : Checked α := ⟨.error rejection.failure, [rejection]⟩

/-- Fails without a record. -/
def fail (failure : Failure) : Checked α := ⟨.error failure, []⟩

/-- An invariant that the code relies on does not hold. -/
def fault : Checked α := fail (.plain .internalError)

def records (computation : Checked α) : List Record := computation.trace.map Rejection.record

/-- Turns a failure into the absence of a value, and keeps the records; a fault stays one. -/
def attempt (computation : Checked α) : Checked (Option α) :=
  match computation.result with
  | .ok value => ⟨.ok (some value), computation.trace⟩
  | .error failure =>
    if failure.code = .internalError then ⟨.error failure, computation.trace⟩
    else ⟨.ok none, computation.trace⟩

/-- Repeats a step a number of times, each time from the state that the last one reached. -/
def iterate (step : σ → Checked σ) : Nat → σ → Checked σ
  | 0, state => pure state
  | count + 1, state => step state >>= iterate step count

/-! ## What the combinators do -/

@[ext] theorem ext {left right : Checked α} (sameResult : left.result = right.result)
    (sameTrace : left.trace = right.trace) : left = right := by
  cases left
  cases right
  simp_all

@[simp] theorem pure_result (value : α) : (pure value : Checked α).result = .ok value := rfl

@[simp] theorem pure_trace (value : α) : (pure value : Checked α).trace = [] := rfl

@[simp] theorem reject_result (rejection : Rejection) :
    (reject rejection : Checked α).result = .error rejection.failure := rfl

@[simp] theorem fault_trace : (fault : Checked α).trace = [] := rfl

@[simp] theorem fault_bind (next : α → Checked β) : (fault : Checked α) >>= next = fault := rfl

@[simp] theorem reject_bind (rejection : Rejection) (next : α → Checked β) :
    reject rejection >>= next = reject rejection := rfl

@[simp] theorem map_reject (view : α → β) (rejection : Rejection) :
    view <$> (reject rejection : Checked α) = reject rejection := rfl

theorem bind_of_ok {computation : Checked α} {value : α} (next : α → Checked β)
    (succeeded : computation.result = .ok value) :
    computation >>= next = ⟨(next value).result, computation.trace ++ (next value).trace⟩ := by
  simp only [bind, succeeded]

theorem bind_of_error {computation : Checked α} {failure : Failure} (next : α → Checked β)
    (failed : computation.result = .error failure) :
    computation >>= next = ⟨.error failure, computation.trace⟩ := by
  simp only [bind, failed]

theorem bind_result (computation : Checked α) (next : α → Checked β) :
    (computation >>= next).result =
      computation.result >>= fun value => (next value).result := by
  cases succeeds : computation.result with
  | ok value =>
      rw [bind_of_ok next succeeds]
      rfl
  | error failure =>
      rw [bind_of_error next succeeds]
      rfl

theorem bind_result_eq_ok_iff
    {computation : Checked α} {next : α → Checked β} {last : β} :
    (computation >>= next).result = .ok last ↔
      ∃ value, computation.result = .ok value ∧ (next value).result = .ok last := by
  rw [bind_result]
  cases computation.result with
  | ok value => simp [bind, Except.bind]
  | error failure => simp [bind, Except.bind]

theorem bind_result_eq_error_iff
    {computation : Checked α} {next : α → Checked β} {failure : Failure} :
    (computation >>= next).result = .error failure ↔
      computation.result = .error failure ∨
        ∃ value, computation.result = .ok value ∧ (next value).result = .error failure := by
  rw [bind_result]
  cases computation.result with
  | ok value => simp [bind, Except.bind]
  | error earlier => simp [bind, Except.bind]

theorem bind_result_of_ok
    {computation : Checked α} {value : α} (next : α → Checked β)
    (succeeded : computation.result = .ok value) :
    (computation >>= next).result = (next value).result := by
  rw [bind_of_ok next succeeded]

theorem bind_result_of_error
    {computation : Checked α} {failure : Failure} (next : α → Checked β)
    (failed : computation.result = .error failure) :
    (computation >>= next).result = .error failure := by
  rw [bind_of_error next failed]

/-- What follows matters only for the value that was computed. -/
theorem bind_congr_of_ok
    {computation : Checked α} {next other : α → Checked β}
    (agree : ∀ value, computation.result = .ok value → next value = other value) :
    computation >>= next = computation >>= other := by
  cases succeeds : computation.result with
  | ok value =>
      rw [bind_of_ok next succeeds, bind_of_ok other succeeds,
        agree value succeeds]
  | error failure =>
      rw [bind_of_error next succeeds, bind_of_error other succeeds]

theorem attempt_pure (value : α) :
    attempt (pure value : Checked α) = pure (some value) :=
  rfl

/-- No rejection is a fault, so every rejection is recovered from. -/
theorem attempt_reject (rejection : Rejection) :
    attempt (reject rejection : Checked α) = ⟨.ok none, [rejection]⟩ := by
  cases rejection <;> rfl

protected theorem id_map (computation : Checked α) : id <$> computation = computation := by
  obtain ⟨result, trace⟩ := computation
  cases result <;> simp [Functor.map]

protected theorem bind_assoc (computation : Checked α) (next : α → Checked β) (last : β → Checked σ) :
    computation >>= next >>= last = computation >>= fun value => next value >>= last := by
  obtain ⟨result, trace⟩ := computation
  cases result with
  | error failure => rfl
  | ok value =>
      simp only [bind]
      cases (next value).result with
      | error failure => rfl
      | ok middle => simp

instance : LawfulMonad Checked :=
  LawfulMonad.mk' Checked Checked.id_map (fun value next => by simp [bind, pure]) Checked.bind_assoc

theorem map_result (view : α → β) (computation : Checked α) :
    (view <$> computation).result = computation.result.map view := by
  rw [← bind_pure_comp, bind_result]
  cases computation.result with
  | ok value => rfl
  | error failure => rfl

theorem map_trace (view : α → β) (computation : Checked α) :
    (view <$> computation).trace = computation.trace := by
  rw [← bind_pure_comp]
  cases succeeds : computation.result with
  | ok value => rw [bind_of_ok _ succeeds, pure_trace, List.append_nil]
  | error failure => rw [bind_of_error _ succeeds]

theorem map_result_eq_ok_iff
    {computation : Checked α} {view : α → β} {last : β} :
    (view <$> computation).result = .ok last ↔
      ∃ value, computation.result = .ok value ∧ view value = last := by
  rw [map_result]
  cases computation.result with
  | ok value => simp [Except.map]
  | error failure => simp [Except.map]

theorem map_result_eq_error_iff
    {computation : Checked α} {view : α → β} {failure : Failure} :
    (view <$> computation).result = .error failure ↔ computation.result = .error failure := by
  rw [map_result]
  cases computation.result with
  | ok value => simp [Except.map]
  | error earlier => simp [Except.map]

/-- A view that loses nothing of a value loses nothing of a computation. -/
theorem map_injective
    (view : α → β) (injective : ∀ left right, view left = view right → left = right)
    {left right : Checked α} (equality : view <$> left = view <$> right) :
    left = right := by
  have sameResult := congrArg Checked.result equality
  have sameTrace := congrArg Checked.trace equality
  rw [map_result, map_result] at sameResult
  rw [map_trace, map_trace] at sameTrace
  refine ext ?_ sameTrace
  cases leftResult : left.result with
  | ok leftValue =>
      cases rightResult : right.result with
      | ok rightValue =>
          rw [leftResult, rightResult] at sameResult
          exact congrArg Except.ok (injective _ _ (Except.ok.inj sameResult))
      | error failure =>
          rw [leftResult, rightResult] at sameResult
          cases sameResult
  | error failure =>
      cases rightResult : right.result with
      | ok rightValue =>
          rw [leftResult, rightResult] at sameResult
          cases sameResult
      | error other =>
          rw [leftResult, rightResult] at sameResult
          exact congrArg Except.error (Except.error.inj sameResult)

end Checked

end BinaryImage
