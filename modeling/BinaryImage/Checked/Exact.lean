import BinaryImage.Checked.Basic

/-!
# Exact machine operations

Sums and differences of machine words, counts that are words, slices of byte strings and new
buffers, as the code uses them where it takes them to be in range. Out of range they are at fault.
-/

namespace BinaryImage.Checked

/-- The sum of two words, which has to be a word. -/
def exactAdd (left right : UInt64) : Checked UInt64 :=
  if left.toNat + right.toNat < UInt64.size then pure (left + right) else fault

/-- The difference of two words, which has to be a word. -/
def exactSub (left right : UInt64) : Checked UInt64 :=
  if right.toNat ≤ left.toNat then pure (left - right) else fault

/-- The bytes from `start` up to, and without, `stop`, which have to be there. -/
def slice (data : List UInt8) (start stop : Nat) : Checked (List UInt8) :=
  if start ≤ stop ∧ stop ≤ data.length then pure ((data.drop start).take (stop - start))
  else fault

/-- A count, which has to be a word. -/
def exactWord (count : Nat) : Checked UInt64 :=
  if count < UInt64.size then pure (UInt64.ofNat count) else fault

/-- The most bytes that one buffer may have: half the addresses, less one. -/
def allocationLimit : Nat := 0x7fffffffffffffff

/-- A new buffer of zeros, of no more bytes than a buffer may have. -/
def allocate (count : UInt64) : Checked (List UInt8) :=
  if count.toNat ≤ allocationLimit then pure (List.replicate count.toNat 0) else fault

theorem exactAdd_eq_pure {left right : UInt64} (inRange : left.toNat + right.toNat < UInt64.size) :
    exactAdd left right = pure (left + right) :=
  if_pos inRange

theorem exactAdd_eq_fault {left right : UInt64} (beyond : UInt64.size ≤ left.toNat + right.toNat) :
    exactAdd left right = fault :=
  if_neg (Nat.not_lt.mpr beyond)

theorem exactSub_eq_pure {left right : UInt64} (inRange : right.toNat ≤ left.toNat) :
    exactSub left right = pure (left - right) :=
  if_pos inRange

theorem slice_eq_pure {data : List UInt8} {start stop : Nat} (ordered : start ≤ stop)
    (inside : stop ≤ data.length) :
    slice data start stop = pure ((data.drop start).take (stop - start)) :=
  if_pos ⟨ordered, inside⟩

theorem exactWord_eq_pure {count : Nat} (inRange : count < UInt64.size) :
    exactWord count = pure (UInt64.ofNat count) :=
  if_pos inRange

theorem exactWord_eq_fault {count : Nat} (beyond : UInt64.size ≤ count) :
    exactWord count = fault :=
  if_neg (Nat.not_lt.mpr beyond)

theorem allocate_eq_pure {count : UInt64} (inRange : count.toNat ≤ allocationLimit) :
    allocate count = pure (List.replicate count.toNat 0) :=
  if_pos inRange

theorem allocate_eq_fault {count : UInt64} (beyond : allocationLimit < count.toNat) :
    allocate count = fault :=
  if_neg (Nat.not_le.mpr beyond)

theorem toNat_add_of_lt {left right : UInt64} (inRange : left.toNat + right.toNat < UInt64.size) :
    (left + right).toNat = left.toNat + right.toNat := by
  rw [UInt64.toNat_add, Nat.mod_eq_of_lt inRange]

theorem toNat_sub_of_le {left right : UInt64} (inRange : right.toNat ≤ left.toNat) :
    (left - right).toNat = left.toNat - right.toNat :=
  UInt64.toNat_sub_of_le _ _ <| UInt64.le_iff_toNat_le.mpr inRange

end BinaryImage.Checked
