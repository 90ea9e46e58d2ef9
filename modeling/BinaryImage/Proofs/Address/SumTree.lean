import BinaryImage.Proofs.Address.ExactResults

/-!
# Bracketed sums

A sum of words is evaluated by checked additions in the order of its brackets, and stops at the
first addition that fails. Main statement: neither the brackets, nor the order of the words, nor the
kinds of addition matter for the result, which is the exact sum if that is a word.
-/

namespace BinaryImage.Address

open Checked

inductive Addition where
  | add
  | applyOffset
  deriving DecidableEq, Repr

namespace Addition

def run : Addition → UInt64 → UInt64 → Checked UInt64
  | add => Address.add
  | applyOffset => Address.applyOffset

def operation : Addition → Operation
  | add => .add
  | applyOffset => .applyOffset

theorem run_eq (addition : Addition) (left right : UInt64) :
    addition.run left right =
      if left.toNat + right.toNat < UInt64.size then pure (left + right)
      else reject (addition.operation.refusal left right) := by
  cases addition with
  | add => rfl
  | applyOffset => exact applyOffset_eq left right

theorem breach_operation (addition : Addition) :
    addition.operation.breach = .plain .overflow := by
  cases addition <;> rfl

end Addition

/-- A sum of words, with brackets. -/
inductive SumTree where
  | leaf (word : UInt64)
  | node (addition : Addition) (left right : SumTree)
  deriving DecidableEq, Repr

namespace SumTree

def leaves : SumTree → List UInt64
  | leaf word => [word]
  | node _ left right => left.leaves ++ right.leaves

/-- Evaluates the left side, then the right side, and adds them up. -/
def evaluate : SumTree → Checked UInt64
  | leaf word => pure word
  | node addition left right => do
    let first ← left.evaluate
    let second ← right.evaluate
    addition.run first second

theorem exactSum_leaves_node (addition : Addition) (left right : SumTree) :
    exactSum (node addition left right).leaves = exactSum left.leaves + exactSum right.leaves :=
  exactSum_append left.leaves right.leaves

theorem evaluate_eq_pure {tree : SumTree} (fits : exactSum tree.leaves < UInt64.size) :
    tree.evaluate = pure (UInt64.ofNat (exactSum tree.leaves)) := by
  induction tree with
  | leaf word =>
      rw [evaluate, leaves, exactSum_cons, exactSum_nil, Nat.add_zero, UInt64.ofNat_toNat]
  | node addition left right leftHypothesis rightHypothesis =>
      rw [exactSum_leaves_node] at fits ⊢
      have leftFits : exactSum left.leaves < UInt64.size :=
        Nat.lt_of_le_of_lt (Nat.le_add_right _ _) fits
      have rightFits : exactSum right.leaves < UInt64.size :=
        Nat.lt_of_le_of_lt (Nat.le_add_left _ _) fits
      rw [evaluate, leftHypothesis leftFits, pure_bind, rightHypothesis rightFits, pure_bind,
        addition.run_eq, UInt64.toNat_ofNat_of_lt' leftFits, UInt64.toNat_ofNat_of_lt' rightFits,
        if_pos fits, UInt64.ofNat_add]

/-- Some addition fails if the sum of all words is no word: a partial sum on one side, or else the
addition of both sides. -/
theorem exists_evaluate_eq_reject
    {tree : SumTree} (exceeds : UInt64.size ≤ exactSum tree.leaves) :
    ∃ rejection : Rejection,
      rejection.failure = .plain .overflow ∧ tree.evaluate = reject rejection := by
  induction tree with
  | leaf word => exact absurd word.toNat_lt (Nat.not_lt.mpr exceeds)
  | node addition left right leftHypothesis rightHypothesis =>
      rw [exactSum_leaves_node] at exceeds
      -- The sides are evaluated from the left, and the first one that exceeds ends the evaluation.
      by_cases leftFits : exactSum left.leaves < UInt64.size
      · by_cases rightFits : exactSum right.leaves < UInt64.size
        · refine ⟨addition.operation.refusal (UInt64.ofNat (exactSum left.leaves))
            (UInt64.ofNat (exactSum right.leaves)), ?_, ?_⟩
          · rw [Operation.failure_refusal, addition.breach_operation]
          · rw [evaluate, evaluate_eq_pure leftFits, pure_bind, evaluate_eq_pure rightFits,
              pure_bind, addition.run_eq, UInt64.toNat_ofNat_of_lt' leftFits,
              UInt64.toNat_ofNat_of_lt' rightFits, if_neg (Nat.not_lt.mpr exceeds)]
        · obtain ⟨rejection, overflow, rejected⟩ := rightHypothesis (Nat.le_of_not_lt rightFits)
          refine ⟨rejection, overflow, ?_⟩
          rw [evaluate, evaluate_eq_pure leftFits, pure_bind, rejected, reject_bind]
      · obtain ⟨rejection, overflow, rejected⟩ := leftHypothesis (Nat.le_of_not_lt leftFits)
        refine ⟨rejection, overflow, ?_⟩
        rw [evaluate, rejected, reject_bind]

theorem evaluate_result (tree : SumTree) :
    tree.evaluate.result =
      if exactSum tree.leaves < UInt64.size then .ok (UInt64.ofNat (exactSum tree.leaves))
      else .error (.plain .overflow) := by
  by_cases fits : exactSum tree.leaves < UInt64.size
  · rw [if_pos fits, evaluate_eq_pure fits, pure_result]
  · obtain ⟨rejection, overflow, rejected⟩ := exists_evaluate_eq_reject (Nat.le_of_not_lt fits)
    rw [if_neg fits, rejected, reject_result, overflow]

theorem length_records_evaluate (tree : SumTree) :
    tree.evaluate.records.length = if exactSum tree.leaves < UInt64.size then 0 else 1 := by
  by_cases fits : exactSum tree.leaves < UInt64.size
  · rw [if_pos fits, evaluate_eq_pure fits]
    rfl
  · obtain ⟨rejection, _, rejected⟩ := exists_evaluate_eq_reject (Nat.le_of_not_lt fits)
    rw [if_neg fits, rejected]
    rfl

/-- However it is bracketed, a sum evaluates to the exact sum of its words if that is a word, and
leaves no record then; otherwise it overflows, and leaves one record. So two sums of the same words
have one result, whatever the order of the words. -/
theorem evaluate_exact (tree : SumTree) :
    tree.evaluate.result =
        (if exactSum tree.leaves < UInt64.size then .ok (UInt64.ofNat (exactSum tree.leaves))
        else .error (.plain .overflow)) ∧
      tree.evaluate.records.length = (if exactSum tree.leaves < UInt64.size then 0 else 1) ∧
      ∀ other : SumTree, tree.leaves.Perm other.leaves →
        tree.evaluate.result = other.evaluate.result := by
  refine ⟨tree.evaluate_result, tree.length_records_evaluate, ?_⟩
  intro other permutation
  rw [evaluate_result, evaluate_result, exactSum_perm permutation]

/-- The inner addition of this sum is that of the last two words, and the outer one overflows. -/
def outerOverflow : SumTree :=
  .node .add (.leaf 3) (.node .applyOffset (.leaf 0xfffffffffffffffd) (.leaf 2))

/-- The same words in another order, of which the first two overflow. -/
def innerOverflow : SumTree :=
  .node .applyOffset (.node .add (.leaf 0xfffffffffffffffd) (.leaf 3)) (.leaf 2)

theorem evaluate_exact_outerOverflow :
    outerOverflow.leaves.Perm innerOverflow.leaves ∧
      outerOverflow.evaluate.result = innerOverflow.evaluate.result ∧
      outerOverflow.evaluate.records ≠ innerOverflow.evaluate.records ∧
      outerOverflow.evaluate.records.length = 1 := by
  obtain ⟨_, recorded, sameResult⟩ := evaluate_exact outerOverflow
  have permutation : outerOverflow.leaves.Perm innerOverflow.leaves := by decide
  exact ⟨permutation, sameResult _ permutation, by decide +kernel, recorded⟩

end SumTree

end BinaryImage.Address
