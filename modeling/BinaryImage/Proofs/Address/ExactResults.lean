import BinaryImage.Address.Accumulator
import BinaryImage.Proofs.Checked.Failures

/-!
# Exact results of address arithmetic

What an operation asks for is a natural number or an integer, and need not be a word. Main
statement: an operation refuses its operands exactly where it is none, and yields it otherwise.
-/

namespace BinaryImage.Address

open Checked

/-! ## Sums of words -/

/-- The sum of words among the natural numbers. -/
def exactSum (words : List UInt64) : Nat :=
  words.foldr (fun word others => word.toNat + others) 0

@[simp]
theorem exactSum_nil : exactSum [] = 0 :=
  rfl

@[simp]
theorem exactSum_cons (word : UInt64) (rest : List UInt64) :
    exactSum (word :: rest) = word.toNat + exactSum rest :=
  rfl

theorem exactSum_append (left right : List UInt64) :
    exactSum (left ++ right) = exactSum left + exactSum right := by
  induction left with
  | nil => simp
  | cons word rest inductionHypothesis =>
      rw [List.cons_append, exactSum_cons, exactSum_cons, inductionHypothesis, Nat.add_assoc]

theorem exactSum_perm {left right : List UInt64} (permutation : left.Perm right) :
    exactSum left = exactSum right := by
  induction permutation with
  | nil => rfl
  | cons word _ inductionHypothesis => rw [exactSum_cons, exactSum_cons, inductionHypothesis]
  | swap first second rest =>
      simp only [exactSum_cons]
      omega
  | trans _ _ first second => exact first.trans second

/-! ## Operations -/

namespace Operation

variable {operation : Operation} {left right : UInt64}

/-- What the operation asks for is no word: a sum above the highest one, or a difference below
zero. -/
def Exceeds (left right : UInt64) : Operation → Prop
  | applyOffset | add | checkLength => UInt64.size ≤ left.toNat + right.toNat
  | subtract => left.toNat < right.toNat

instance (left right : UInt64) : (operation : Operation) → Decidable (operation.Exceeds left right)
  | applyOffset | add | checkLength => inferInstanceAs (Decidable (_ ≤ _))
  | subtract => inferInstanceAs (Decidable (_ < _))

/-- The failure by which the operation refuses operands. -/
def breach : Operation → Failure
  | applyOffset | add | checkLength => .plain .overflow
  | subtract => .plain .underflow

def refusal (left right : UInt64) : Operation → Rejection
  | applyOffset => .offsetOverflows right left
  | add => .sumOverflows left right
  | subtract => .differenceUnderflows left right
  | checkLength => .lengthOverflows right left

/-- What the operation yields for operands that it does not refuse. -/
def yield (left right : UInt64) : Operation → Option UInt64
  | applyOffset | add => some (left + right)
  | subtract => some (left - right)
  | checkLength => none

theorem failure_refusal (operation : Operation) (left right : UInt64) :
    (operation.refusal left right).failure = operation.breach := by
  cases operation <;> rfl

theorem run_eq (operation : Operation) (left right : UInt64) :
    operation.run left right =
      if operation.Exceeds left right then reject (operation.refusal left right)
      else pure (operation.yield left right) := by
  by_cases exceeds : operation.Exceeds left right
  · rw [if_pos exceeds]
    cases operation with
    | applyOffset => simp [run, applyOffset_eq, refusal, Nat.not_lt.mpr exceeds]
    | add => simp [run, Address.add, refusal, Nat.not_lt.mpr exceeds]
    | subtract => simp [run, subtract_eq, refusal, Nat.not_le.mpr exceeds]
    | checkLength => simp [run, checkLength_eq, refusal, Nat.not_lt.mpr exceeds]
  · rw [if_neg exceeds]
    cases operation with
    | applyOffset => simp [run, applyOffset_eq, yield, Nat.lt_of_not_le exceeds]
    | add => simp [run, Address.add, yield, Nat.lt_of_not_le exceeds]
    | subtract => simp [run, subtract_eq, yield, Nat.le_of_not_lt exceeds]
    | checkLength => simp [run, checkLength_eq, yield, Nat.lt_of_not_le exceeds]

theorem failure?_run (operation : Operation) (left right : UInt64) :
    (operation.run left right).failure? =
      if operation.Exceeds left right then some operation.breach else none := by
  rw [run_eq]
  by_cases exceeds : operation.Exceeds left right
  · rw [if_pos exceeds, if_pos exceeds, failure?, reject_result, failure_refusal]
  · rw [if_neg exceeds, if_neg exceeds]
    rfl

/-- Every sum and every difference that the operation forms on its way is a word. -/
theorem run_faultless (operation : Operation) (left right : UInt64) :
    (operation.run left right).result ≠ (fault : Checked (Option UInt64)).result := by
  rw [run_eq]
  by_cases exceeds : operation.Exceeds left right
  · rw [if_pos exceeds, reject_result, failure_refusal]
    cases operation <;> exact fun faulty => nomatch faulty
  · rw [if_neg exceeds]
    exact fun faulty => nomatch faulty

end Operation

/-! ## Three checks of one bound -/

theorem applyOffset_result_eq_add (left right : UInt64) :
    (applyOffset left right).result = (add left right).result := by
  rw [applyOffset_eq, add]
  by_cases inRange : left.toNat + right.toNat < UInt64.size
  · rw [if_pos inRange, if_pos inRange]
  · rw [if_neg inRange, if_neg inRange]
    rfl

theorem checkLength_result_eq_add (left right : UInt64) :
    (checkLength left right).result = (add left right).result.map fun _ => () := by
  rw [checkLength_eq, add]
  by_cases inRange : left.toNat + right.toNat < UInt64.size
  · rw [if_pos inRange, if_pos inRange]
    rfl
  · rw [if_neg inRange, if_neg inRange]
    rfl

end BinaryImage.Address
