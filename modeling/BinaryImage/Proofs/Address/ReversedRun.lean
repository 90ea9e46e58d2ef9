import BinaryImage.Proofs.Address.AccumulatorRun
import Mathlib.Data.List.Forall2

/-!
# Reversed runs

An addition that succeeds is undone by a subtraction of the same argument, and a subtraction by an
addition of either kind, although each of them checks its own bound in its own way. Main statement:
a run of additions and subtractions that all succeed can be walked back step by step, through the
same accumulators, whichever additions are taken.
-/

namespace BinaryImage.Address

open Checked

namespace Step

variable {accumulator : UInt64} {step inverse : Step}

/-- The steps that take back what another one changed. A check changes nothing, and is not undone by
any step. -/
inductive Undoes : Step → Step → Prop
  | add (argument : UInt64) : Undoes ⟨.add, argument⟩ ⟨.subtract, argument⟩
  | applyOffset (argument : UInt64) : Undoes ⟨.applyOffset, argument⟩ ⟨.subtract, argument⟩
  | subtractAdded (argument : UInt64) : Undoes ⟨.subtract, argument⟩ ⟨.add, argument⟩
  | subtractOffset (argument : UInt64) : Undoes ⟨.subtract, argument⟩ ⟨.applyOffset, argument⟩

theorem exists_undoes (step : Step) (changing : step.operation ≠ .checkLength) :
    ∃ inverse : Step, inverse.Undoes step := by
  obtain ⟨operation, argument⟩ := step
  cases operation with
  | applyOffset => exact ⟨_, .subtractOffset argument⟩
  | add => exact ⟨_, .subtractAdded argument⟩
  | subtract => exact ⟨_, .add argument⟩
  | checkLength => exact absurd rfl changing

theorem Undoes.change_eq (undoes : inverse.Undoes step) : inverse.change = -step.change := by
  cases undoes with
  | add argument | applyOffset argument => exact (Int.neg_neg _).symm
  | subtractAdded argument | subtractOffset argument => rfl

/-- Behind a step that succeeds, there is room for the one that undoes it. -/
theorem Undoes.not_exceeds
    (undoes : inverse.Undoes step) (allowed : ¬step.Exceeds accumulator) :
    ¬inverse.Exceeds (step.next accumulator) := by
  have moved := toNat_next_of_not_exceeds allowed
  have bound := accumulator.toNat_lt
  cases undoes with
  | add argument | applyOffset argument =>
      -- The sum of the difference and the argument is the accumulator, which is a word.
      change ¬UInt64.size ≤ (next accumulator _).toNat + argument.toNat
      simp only [change, UInt64.size] at *
      omega
  | subtractAdded argument | subtractOffset argument =>
      change ¬(next accumulator _).toNat < argument.toNat
      simp only [change] at moved
      omega

theorem Undoes.next_next
    (undoes : inverse.Undoes step) (allowed : ¬step.Exceeds accumulator) :
    inverse.next (step.next accumulator) = accumulator := by
  have moved := toNat_next_of_not_exceeds allowed
  have back := toNat_next_of_not_exceeds (undoes.not_exceeds allowed)
  rw [undoes.change_eq] at back
  apply UInt64.toNat_inj.mp
  omega

end Step

/-! ## Runs -/

/-- The accumulators of a run, the first and the last one included. -/
def visited (start : UInt64) (steps : List Step) : List UInt64 :=
  start :: (trajectory start steps).map Prod.snd

/-- No step of a run fails. -/
def AllSucceed (start : UInt64) (steps : List Step) : Prop :=
  ∀ round ∈ trajectory start steps, round.1.failure? = none

instance (start : UInt64) (steps : List Step) : Decidable (AllSucceed start steps) :=
  inferInstanceAs (Decidable (∀ _ ∈ _, _))

theorem trajectory_append (start : UInt64) (before after : List Step) :
    trajectory start (before ++ after) =
      trajectory start before ++ trajectory (finalValue start before) after := by
  induction before generalizing start with
  | nil => rfl
  | cons step rest inductionHypothesis =>
      rw [List.cons_append, trajectory, inductionHypothesis, trajectory, finalValue_cons,
        List.cons_append]

theorem finalValue_concat (start : UInt64) (steps : List Step) (last : Step) :
    finalValue start (steps ++ [last]) = last.next (finalValue start steps) :=
  List.foldl_append

theorem visited_cons (start : UInt64) (step : Step) (rest : List Step) :
    visited start (step :: rest) = start :: visited (step.next start) rest :=
  rfl

theorem visited_concat (start : UInt64) (steps : List Step) (last : Step) :
    visited start (steps ++ [last]) =
      visited start steps ++ [last.next (finalValue start steps)] := by
  rw [visited, trajectory_append, List.map_append]
  rfl

theorem allSucceed_cons_iff {start : UInt64} {step : Step} {rest : List Step} :
    AllSucceed start (step :: rest) ↔
      ¬step.Exceeds start ∧ AllSucceed (step.next start) rest := by
  rw [AllSucceed, trajectory, List.forall_mem_cons, step.failure?_outcome]
  simp [AllSucceed]

theorem allSucceed_concat_iff {start : UInt64} {steps : List Step} {last : Step} :
    AllSucceed start (steps ++ [last]) ↔
      AllSucceed start steps ∧ ¬last.Exceeds (finalValue start steps) := by
  rw [AllSucceed, trajectory_append, List.forall_mem_append]
  have one : AllSucceed (finalValue start steps) [last] ↔ ¬last.Exceeds (finalValue start steps) := by
    rw [allSucceed_cons_iff]
    exact and_iff_left fun _ none => nomatch none
  exact and_congr_right fun _ => one

/-- The way back from the end of a run that succeeds. -/
theorem retraced
    {start : UInt64} {steps undoing : List Step}
    (paired : List.Forall₂ Step.Undoes undoing steps) (succeed : AllSucceed start steps) :
    AllSucceed (finalValue start steps) undoing.reverse ∧
      visited (finalValue start steps) undoing.reverse = (visited start steps).reverse ∧
      finalValue (finalValue start steps) undoing.reverse = start := by
  induction paired generalizing start with
  | nil => exact ⟨succeed, rfl, rfl⟩
  | @cons inverse step others rest undoes _ inductionHypothesis =>
      -- The way back ends with the step that undoes the first one.
      obtain ⟨allowed, restSucceed⟩ := allSucceed_cons_iff.mp succeed
      obtain ⟨backSucceed, backVisited, backFinal⟩ := inductionHypothesis restSucceed
      rw [List.reverse_cons, finalValue_cons, allSucceed_concat_iff, visited_concat,
        finalValue_concat, backFinal, undoes.next_next allowed]
      refine ⟨⟨backSucceed, undoes.not_exceeds allowed⟩, ?_, rfl⟩
      rw [backVisited, visited_cons, List.reverse_cons]

theorem exists_undoing
    {steps : List Step} (changing : ∀ step ∈ steps, step.operation ≠ .checkLength) :
    ∃ undoing, List.Forall₂ Step.Undoes undoing steps := by
  induction steps with
  | nil => exact ⟨[], .nil⟩
  | cons step rest inductionHypothesis =>
      obtain ⟨stepChanging, restChanging⟩ := List.forall_mem_cons.mp changing
      obtain ⟨inverse, undoes⟩ := step.exists_undoes stepChanging
      obtain ⟨others, paired⟩ := inductionHypothesis restChanging
      exact ⟨inverse :: others, .cons undoes paired⟩

/-- A run of additions and subtractions that all succeed has a way back, and every way back succeeds
at each of its steps, goes through the accumulators of the run in reverse, and ends where the run
started. -/
theorem run_reversible
    (start : UInt64) (steps : List Step)
    (changing : ∀ step ∈ steps, step.operation ≠ .checkLength)
    (succeed : AllSucceed start steps) :
    (∃ undoing, List.Forall₂ Step.Undoes undoing steps) ∧
      ∀ undoing, List.Forall₂ Step.Undoes undoing steps →
        AllSucceed (finalValue start steps) undoing.reverse ∧
          visited (finalValue start steps) undoing.reverse = (visited start steps).reverse ∧
          finalValue (finalValue start steps) undoing.reverse = start :=
  ⟨exists_undoing changing, fun _ paired => retraced paired succeed⟩

/-- Steps from five down to zero, up to the highest address and once more up to it. -/
def edgeToEdge : List Step :=
  [⟨.subtract, 5⟩, ⟨.applyOffset, addressMax⟩, ⟨.subtract, 1⟩, ⟨.add, 1⟩]

def edgeToEdgeUndoing : List Step :=
  [⟨.applyOffset, 5⟩, ⟨.subtract, addressMax⟩, ⟨.add, 1⟩, ⟨.subtract, 1⟩]

theorem edgeToEdge_undoing : List.Forall₂ Step.Undoes edgeToEdgeUndoing edgeToEdge :=
  .cons (.applyOffset 5) <| .cons (.subtractOffset addressMax) <| .cons (.add 1) <|
    .cons (.subtractAdded 1) .nil

theorem run_reversible_edgeToEdge :
    finalValue 5 edgeToEdge = addressMax ∧
      visited addressMax edgeToEdgeUndoing.reverse =
        [addressMax, 0xfffffffffffffffe, addressMax, 0, 5] ∧
      AllSucceed addressMax edgeToEdgeUndoing.reverse ∧
      finalValue addressMax edgeToEdgeUndoing.reverse = 5 := by
  have ending : finalValue 5 edgeToEdge = addressMax := by decide
  obtain ⟨_, back⟩ := run_reversible 5 edgeToEdge (by decide) (by decide)
  obtain ⟨succeed, visitedBack, finished⟩ := back edgeToEdgeUndoing edgeToEdge_undoing
  rw [ending] at succeed visitedBack finished
  refine ⟨ending, ?_, succeed, finished⟩
  rw [visitedBack]
  decide

end BinaryImage.Address
