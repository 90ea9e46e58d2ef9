import BinaryImage.Checked.Exact

/-!
# Address arithmetic

Addresses and sizes that come from an image are combined by these operations only. None of them
wraps around: where the exact result is not a word, the operands are rejected. Main statements:
each operation answers with the exact sum or difference of natural numbers if it is a word, and
rejects its operands otherwise.
-/

namespace BinaryImage.Address

open Checked

def applyOffset (address offset : UInt64) : Checked UInt64 := do
  let highest ← exactSub addressMax offset
  if highest < address then
    reject (.offsetOverflows offset address)
  else
    exactAdd address offset

def add (left right : UInt64) : Checked UInt64 :=
  if left.toNat + right.toNat < UInt64.size then
    pure (left + right)
  else
    reject (.sumOverflows left right)

def subtract (left right : UInt64) : Checked UInt64 :=
  if right > left then
    reject (.differenceUnderflows left right)
  else
    exactSub left right

/-- Accepts an address and a length whose sum is a word, without computing the sum. -/
def checkLength (address length : UInt64) : Checked Unit := do
  let highest ← exactSub addressMax length
  if highest < address then
    reject (.lengthOverflows length address)

/-! ## Exact results -/

theorem le_addressMax (value : UInt64) : value.toNat ≤ addressMax.toNat := by
  have bound := value.toNat_lt
  simp only [addressMax_toNat, UInt64.size]
  omega

/-- The room above a word is too small for another word exactly when their sum is no word. -/
theorem addressMax_sub_lt_iff (value other : UInt64) :
    addressMax - value < other ↔ UInt64.size ≤ other.toNat + value.toNat := by
  have bound := le_addressMax value
  rw [UInt64.lt_iff_toNat_lt, toNat_sub_of_le bound]
  simp only [addressMax_toNat, UInt64.size] at *
  omega

theorem applyOffset_eq (address offset : UInt64) :
    applyOffset address offset =
      if address.toNat + offset.toNat < UInt64.size then pure (address + offset)
      else reject (.offsetOverflows offset address) := by
  rw [applyOffset, exactSub_eq_pure (le_addressMax offset), pure_bind]
  by_cases inRange : address.toNat + offset.toNat < UInt64.size
  · rw [if_neg (by rw [addressMax_sub_lt_iff]; omega), exactAdd_eq_pure inRange, if_pos inRange]
  · rw [if_pos (by rw [addressMax_sub_lt_iff]; omega), if_neg inRange]

theorem subtract_eq (left right : UInt64) :
    subtract left right =
      if right.toNat ≤ left.toNat then pure (left - right)
      else reject (.differenceUnderflows left right) := by
  rw [subtract]
  by_cases inRange : right.toNat ≤ left.toNat
  · rw [if_neg (by rw [gt_iff_lt, UInt64.lt_iff_toNat_lt]; omega), exactSub_eq_pure inRange,
      if_pos inRange]
  · rw [if_pos (by rw [gt_iff_lt, UInt64.lt_iff_toNat_lt]; omega), if_neg inRange]

theorem checkLength_eq (address length : UInt64) :
    checkLength address length =
      if address.toNat + length.toNat < UInt64.size then pure ()
      else reject (.lengthOverflows length address) := by
  rw [checkLength, exactSub_eq_pure (le_addressMax length), pure_bind]
  by_cases inRange : address.toNat + length.toNat < UInt64.size
  · rw [if_neg (by rw [addressMax_sub_lt_iff]; omega), if_pos inRange]
  · rw [if_pos (by rw [addressMax_sub_lt_iff]; omega), if_neg inRange]

end BinaryImage.Address
