import BinaryImage.Proofs.Address.ExactResults

/-!
# Runs of an accumulator

Steps that succeed change the accumulator by their arguments, and steps that fail leave it alone.
Main statement: after any part of a run, the accumulator is the integer that the successful steps
sum up to from the start, and the next step fails exactly if what it asks for is no word.
-/

namespace BinaryImage.Address

open Checked

namespace Step

variable {accumulator : UInt64} {step : Step}

/-- What the step asks for is no word. -/
def Exceeds (accumulator : UInt64) (step : Step) : Prop :=
  step.operation.Exceeds accumulator step.argument

instance (accumulator : UInt64) (step : Step) : Decidable (step.Exceeds accumulator) :=
  inferInstanceAs (Decidable (step.operation.Exceeds accumulator step.argument))

/-- The change of an accumulator by a step that succeeds. -/
def change (step : Step) : Int :=
  match step.operation with
  | .applyOffset | .add => step.argument.toNat
  | .subtract => -step.argument.toNat
  | .checkLength => 0

theorem outcome_eq (accumulator : UInt64) (step : Step) :
    step.outcome accumulator =
      if step.Exceeds accumulator then reject (step.operation.refusal accumulator step.argument)
      else pure (step.operation.yield accumulator step.argument) :=
  step.operation.run_eq accumulator step.argument

theorem failure?_outcome (accumulator : UInt64) (step : Step) :
    (step.outcome accumulator).failure? =
      if step.Exceeds accumulator then some step.operation.breach else none :=
  step.operation.failure?_run accumulator step.argument

theorem next_of_exceeds (exceeds : step.Exceeds accumulator) :
    step.next accumulator = accumulator := by
  rw [next, outcome_eq, if_pos exceeds]
  rfl

theorem next_of_not_exceeds (allowed : ¬step.Exceeds accumulator) :
    step.next accumulator =
      (step.operation.yield accumulator step.argument).getD accumulator := by
  rw [next, outcome_eq, if_neg allowed, pure_result]
  cases step.operation.yield accumulator step.argument with
  | none => rfl
  | some value => rfl

theorem toNat_next_of_not_exceeds (allowed : ¬step.Exceeds accumulator) :
    ((step.next accumulator).toNat : Int) = accumulator.toNat + step.change := by
  -- Where nothing is exceeded, the sums and differences of words are those of numbers.
  rw [next_of_not_exceeds allowed]
  obtain ⟨operation, argument⟩ := step
  cases operation with
  | applyOffset | add =>
      have sum : (accumulator + argument).toNat = accumulator.toNat + argument.toNat :=
        toNat_add_of_lt (Nat.lt_of_not_le allowed)
      simp [Operation.yield, change, sum]
  | subtract =>
      have order : argument.toNat ≤ accumulator.toNat := Nat.le_of_not_lt allowed
      have difference : (accumulator - argument).toNat = accumulator.toNat - argument.toNat :=
        toNat_sub_of_le order
      simp only [Operation.yield, change, Option.getD_some, difference]
      omega
  | checkLength => simp [Operation.yield, change]

end Step

/-- The change of an accumulator by steps that all succeed. -/
def totalChange (steps : List Step) : Int :=
  steps.foldr (fun step others => step.change + others) 0

/-- The steps of a run that succeed. -/
def succeeding (start : UInt64) : List Step → List Step
  | [] => []
  | step :: rest =>
    if (step.outcome start).failure?.isSome then succeeding (step.next start) rest
    else step :: succeeding (step.next start) rest

theorem totalChange_cons (step : Step) (rest : List Step) :
    totalChange (step :: rest) = step.change + totalChange rest :=
  rfl

theorem finalValue_cons (start : UInt64) (step : Step) (rest : List Step) :
    finalValue start (step :: rest) = finalValue (step.next start) rest :=
  rfl

theorem succeeding_cons_of_exceeds
    {start : UInt64} {step : Step} (exceeds : step.Exceeds start) (rest : List Step) :
    succeeding start (step :: rest) = succeeding start rest := by
  rw [succeeding, step.failure?_outcome, if_pos exceeds, step.next_of_exceeds exceeds]
  rfl

theorem succeeding_cons_of_not_exceeds
    {start : UInt64} {step : Step} (allowed : ¬step.Exceeds start) (rest : List Step) :
    succeeding start (step :: rest) = step :: succeeding (step.next start) rest := by
  rw [succeeding, step.failure?_outcome, if_neg allowed]
  rfl

/-- Nothing wraps around on the way: the equation is one of integers. -/
theorem toNat_finalValue (start : UInt64) (steps : List Step) :
    ((finalValue start steps).toNat : Int) =
      start.toNat + totalChange (succeeding start steps) := by
  induction steps generalizing start with
  | nil => simp [finalValue, succeeding, totalChange]
  | cons step rest inductionHypothesis =>
      rw [finalValue_cons, inductionHypothesis]
      by_cases exceeds : step.Exceeds start
      · rw [step.next_of_exceeds exceeds, succeeding_cons_of_exceeds exceeds]
      · rw [step.toNat_next_of_not_exceeds exceeds, succeeding_cons_of_not_exceeds exceeds,
          totalChange_cons, Int.add_assoc]

theorem getElem?_trajectory (start : UInt64) (before : List Step) (step : Step)
    (after : List Step) :
    (trajectory start (before ++ step :: after))[before.length]? =
      some (step.outcome (finalValue start before), finalValue start (before ++ [step])) := by
  induction before generalizing start with
  | nil => rfl
  | cons first rest inductionHypothesis =>
      rw [List.cons_append, trajectory, List.length_cons, List.getElem?_cons_succ,
        inductionHypothesis, List.cons_append, finalValue_cons, finalValue_cons]

/-- After any part of a run, the accumulator is the start and the changes by the steps that have
succeeded so far, as integers. The next step fails exactly if it asks for no word, always in the way
of its operation, and no sum or difference that it forms on its way is out of range. Whichever way
the bound of an addition is checked, the answer is the same. -/
theorem trajectory_exact (start : UInt64) (steps : List Step) :
    (∀ before after, steps = before ++ after →
      ((finalValue start before).toNat : Int) =
        start.toNat + totalChange (succeeding start before)) ∧
    (∀ before step after, steps = before ++ step :: after →
      (trajectory start steps)[before.length]? =
          some (step.outcome (finalValue start before), finalValue start (before ++ [step])) ∧
        (step.outcome (finalValue start before)).failure? =
          (if step.Exceeds (finalValue start before) then some step.operation.breach else none) ∧
        (step.outcome (finalValue start before)).result ≠
          (fault : Checked (Option UInt64)).result) ∧
    ∀ left right : UInt64,
      (applyOffset left right).result = (add left right).result ∧
        (checkLength left right).result = (add left right).result.map fun _ => () := by
  refine ⟨?_, ?_, ?_⟩
  · intro before after _
    exact toNat_finalValue start before
  · intro before step after split
    refine ⟨?_, step.failure?_outcome _, step.operation.run_faultless _ _⟩
    rw [split]
    exact getElem?_trajectory start before step after
  · intro left right
    exact ⟨applyOffset_result_eq_add left right, checkLength_result_eq_add left right⟩

/-- Steps across both ends of the address space, if taken from the highest address but one. -/
def outermostRun : List Step :=
  [⟨.add, 2⟩, ⟨.applyOffset, 1⟩, ⟨.checkLength, 1⟩, ⟨.subtract, addressMax⟩, ⟨.subtract, 1⟩,
    ⟨.add, 5⟩]

/-- Three steps fail, at the highest address and at zero, and the other three account for the
accumulator at the end. -/
theorem trajectory_exact_outermostRun :
    ((finalValue 0xfffffffffffffffe outermostRun).toNat : Int) =
        (0xfffffffffffffffe : UInt64).toNat +
          totalChange [⟨.applyOffset, 1⟩, ⟨.subtract, addressMax⟩, ⟨.add, 5⟩] ∧
      ((⟨.checkLength, 1⟩ : Step).outcome
          (finalValue 0xfffffffffffffffe (outermostRun.take 2))).failure? =
        some (.plain .overflow) ∧
      ((⟨.subtract, 1⟩ : Step).outcome
          (finalValue 0xfffffffffffffffe (outermostRun.take 4))).failure? =
        some (.plain .underflow) := by
  obtain ⟨accumulated, rounds, _⟩ := trajectory_exact 0xfffffffffffffffe outermostRun
  obtain ⟨_, checked, _⟩ := rounds (outermostRun.take 2) ⟨.checkLength, 1⟩ _ rfl
  obtain ⟨_, subtracted, _⟩ := rounds (outermostRun.take 4) ⟨.subtract, 1⟩ _ rfl
  refine ⟨accumulated outermostRun [] rfl, ?_, ?_⟩
  · rw [checked]
    rfl
  · rw [subtracted]
    rfl

end BinaryImage.Address
