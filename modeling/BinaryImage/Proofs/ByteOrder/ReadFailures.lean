import BinaryImage.Proofs.ByteOrder.DecoderRun

/-!
# Failures of reads

A read fails because its end is no address, or because its end lies behind the buffer, and only the
second failure is marked as one of memory. Main statement: whatever a read fails with is a memory
failure by its category, and it is marked as one exactly if the end of the field is an address.
-/

namespace BinaryImage

open Checked

namespace ByteOrder

variable {order : ByteOrder} {data : List UInt8} {cursor : UInt64} {width : Width}

/-- The only failure that a read at a position can end with. -/
def breachAt (position : Nat) (width : Width) : Failure :=
  if UInt64.size ≤ position + width.byteCount then .plain .overflow else .memory .outOfRange

theorem isMemoryCategory_breachAt (position : Nat) (width : Width) :
    (breachAt position width).code.isMemoryCategory = true := by
  unfold breachAt
  split
  · rfl
  · rfl

theorem inMemory_breachAt_iff {position : Nat} :
    (breachAt position width).inMemory = true ↔ position + width.byteCount < UInt64.size := by
  rcases Nat.lt_or_ge (position + width.byteCount) UInt64.size with within | beyond
  · rw [breachAt, if_neg (Nat.not_le.mpr within)]
    exact iff_of_true rfl within
  · rw [breachAt, if_pos beyond]
    exact iff_of_false Bool.false_ne_true (Nat.not_lt.mpr beyond)

theorem readField_result_eq_error_iff {failure : Failure} :
    (order.readField data cursor width).result = .error failure ↔
      ¬Inside data.length (cursor.toNat + width.byteCount) ∧
        failure = breachAt cursor.toNat width := by
  have reading := Decoder.read_eq_demand ⟨data, order, cursor⟩ width
  change order.readField data cursor width = _ at reading
  rw [reading, map_result_eq_error_iff]
  constructor
  · intro failed
    have missing : ¬Inside data.length (cursor.toNat + width.byteCount) := by
      intro there
      rw [demand_eq_pure there] at failed
      cases failed
    rw [demand_result_of_not_inside missing] at failed
    exact ⟨missing, (Except.error.inj failed).symm⟩
  · rintro ⟨missing, rfl⟩
    exact demand_result_of_not_inside missing

/-- Every failure of a read is of the memory category. All of them carry the mark of memory failures
exactly where the end of the field is an address: where it is none, the read fails without the
mark. -/
theorem readField_failures (order : ByteOrder) (data : List UInt8) (cursor : UInt64)
    (width : Width) :
    (∀ failure, (order.readField data cursor width).result = .error failure →
      failure.code.isMemoryCategory = true) ∧
    ((∀ failure, (order.readField data cursor width).result = .error failure →
        failure.inMemory = true) ↔
      cursor.toNat + width.byteCount < UInt64.size) := by
  refine ⟨?_, ?_, ?_⟩
  · intro failure failed
    rw [(readField_result_eq_error_iff.mp failed).2]
    exact isMemoryCategory_breachAt _ _
  · intro marked
    rcases Nat.lt_or_ge (cursor.toNat + width.byteCount) UInt64.size with within | beyond
    · exact within
    · have missing : ¬Inside data.length (cursor.toNat + width.byteCount) := fun there =>
        Nat.not_lt.mpr beyond there.2
      exact inMemory_breachAt_iff.mp <|
        marked _ (readField_result_eq_error_iff.mpr ⟨missing, rfl⟩)
  · intro within failure failed
    rw [(readField_result_eq_error_iff.mp failed).2]
    exact inMemory_breachAt_iff.mpr within

/-- A read of four bytes where two are left fails with the mark. -/
theorem readField_failures_sixBytes :
    (direct.readField [0, 0, 0, 0, 0, 0] 4 .four).result = .error (.memory .outOfRange) ∧
      (Failure.memory .outOfRange).code.isMemoryCategory = true ∧
      (Failure.memory .outOfRange).inMemory = true := by
  have failed :
      (direct.readField [0, 0, 0, 0, 0, 0] 4 .four).result = .error (.memory .outOfRange) := rfl
  obtain ⟨category, marked⟩ := readField_failures direct [0, 0, 0, 0, 0, 0] 4 .four
  exact ⟨failed, category _ failed, marked.mpr (by decide) _ failed⟩

/-- A read at the highest cursor fails, and its failure is of the memory category and not marked. -/
theorem readField_unmarked_highestCursor :
    (swapped.readField [0, 0, 0, 0, 0, 0] addressMax .two).result = .error (.plain .overflow) ∧
      (Failure.plain .overflow).code.isMemoryCategory = true ∧
      (Failure.plain .overflow).inMemory = false :=
  ⟨rfl, rfl, rfl⟩

end ByteOrder

end BinaryImage
