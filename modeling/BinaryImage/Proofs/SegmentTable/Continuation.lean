import BinaryImage.Proofs.SegmentTable.Truncation

/-!
# Reading on

What becomes of a reading when more bytes are put behind its buffer. Main statement: unless the
reading ran out of bytes, it comes to the same again and leaves the same records, so that running
out of bytes is the only answer that more of them can change.
-/

namespace BinaryImage

open Checked

namespace Checked

variable {α β σ : Type} {shorter longer : Checked α}

/-- The computation came to the end of a buffer where it needed more bytes. -/
def RanOut (computation : Checked α) : Prop :=
  computation.result = .error (.memory .outOfRange)

/-- What one computation comes to, another comes to as well, unless the first ran out of bytes. -/
def Persists (shorter longer : Checked α) : Prop :=
  ¬shorter.RanOut → longer = shorter

theorem Persists.refl (computation : Checked α) : Persists computation computation :=
  fun _ => rfl

theorem Persists.bind
    {next other : α → Checked β} (first : Persists shorter longer)
    (rest : ∀ value, Persists (next value) (other value)) :
    Persists (shorter >>= next) (longer >>= other) := by
  intro settled
  have firstSettled : ¬shorter.RanOut := by
    intro ranOut
    exact settled (bind_result_of_error next ranOut)
  rw [first firstSettled]
  apply bind_congr_of_ok
  intro value succeeded
  apply rest value
  intro ranOut
  apply settled
  rw [RanOut, bind_result_of_ok next succeeded]
  exact ranOut

theorem Persists.map (view : α → β) (persists : Persists shorter longer) :
    Persists (view <$> shorter) (view <$> longer) := by
  rw [← bind_pure_comp, ← bind_pure_comp]
  exact persists.bind fun value => .refl (pure (view value))

theorem Persists.iterate
    {step other : σ → Checked σ} (each : ∀ state, Persists (step state) (other state))
    (count : Nat) (state : σ) :
    Persists (Checked.iterate step count state) (Checked.iterate other count state) := by
  induction count generalizing state with
  | zero => exact .refl (pure state)
  | succ count inductionHypothesis => exact (each state).bind inductionHypothesis

end Checked

/-! ## Reads from a longer buffer -/

/-- Bytes that are there stay where they are, and a cursor past the address space stays past it. -/
theorem readBytes_append
    {width : Nat} (narrow : width < UInt64.size) (data tail : List UInt8) (cursor : UInt64) :
    Persists (readBytes width data cursor) (readBytes width (data ++ tail) cursor) := by
  intro settled
  rw [readBytes_eq data cursor narrow] at settled ⊢
  rw [readBytes_eq (data ++ tail) cursor narrow, List.length_append]
  by_cases beyond : cursor.toNat + width ≥ UInt64.size
  · rw [if_pos beyond, if_pos beyond]
  · rw [if_neg beyond] at settled ⊢
    rw [if_neg beyond]
    by_cases past : cursor.toNat + width > data.length
    · rw [if_pos past] at settled
      exact absurd rfl settled
    · have whole : width ≤ (data.drop cursor.toNat).length := by
        rw [List.length_drop]
        omega
      rw [if_neg past, if_neg (by omega), List.drop_append_of_le_length (by omega),
        List.take_append_of_le_length whole]

theorem read32_append (order : ByteOrder) (data tail : List UInt8) (cursor : UInt64) :
    Persists (order.read32 data cursor) (order.read32 (data ++ tail) cursor) :=
  (readBytes_append (by decide) data tail cursor).map _

theorem read64_append (order : ByteOrder) (data tail : List UInt8) (cursor : UInt64) :
    Persists (order.read64 data cursor) (order.read64 (data ++ tail) cursor) :=
  (readBytes_append (by decide) data tail cursor).map _

namespace SegmentTable

variable (order : ByteOrder) (data tail : List UInt8)

/-! ## Loops over a longer buffer -/

theorem readSection_append (segment : AddressRange) (loop : SectionLoop) :
    Persists (readSection order data segment loop)
      (readSection order (data ++ tail) segment loop) := by
  apply (read32_append order data tail loop.cursor).bind
  intro offset
  apply (read32_append order data tail offset.next).bind
  intro size
  -- Where a section lies is not a question about the buffer.
  exact .refl _

theorem readSegment_append (loop : SegmentLoop) :
    Persists (readSegment order data loop) (readSegment order (data ++ tail) loop) := by
  apply (read64_append order data tail loop.cursor).bind
  intro address
  apply (read64_append order data tail address.next).bind
  intro size
  apply (Persists.refl _).bind
  intro _
  apply (read32_append order data tail size.next).bind
  intro count
  apply (Persists.iterate (readSection_append order data tail _) _ _).bind
  intro sections
  exact .refl _

theorem readSegments_append (cursor : UInt64) :
    Persists (readSegments order data cursor) (readSegments order (data ++ tail) cursor) := by
  apply (read32_append order data tail cursor).bind
  intro count
  exact .iterate (readSegment_append order data tail) _ _

theorem parse_append : Persists (parse data) (parse (data ++ tail)) := by
  apply (read32_append .direct data tail 0).bind
  intro stored
  cases orderOfMagic? stored.value with
  | none => exact .refl _
  | some order => exact (readSegments_append order data tail stored.next).map _

/-- Whatever is put behind a buffer, the reading of it comes to the same segments or the same
failure, with the same records, unless it ran out of bytes. So running out of bytes is the only
answer that more of them can change. -/
theorem parse_append_settled (data tail : List UInt8) :
    (∀ segments, (parse data).result = .ok segments →
      (parse (data ++ tail)).result = .ok segments ∧
        (parse (data ++ tail)).records = (parse data).records) ∧
    (∀ failure, (parse data).result = .error failure → failure ≠ .memory .outOfRange →
      (parse (data ++ tail)).result = .error failure ∧
        (parse (data ++ tail)).records = (parse data).records) ∧
    (((parse (data ++ tail)).result ≠ (parse data).result ∨
        (parse (data ++ tail)).records ≠ (parse data).records) →
      (parse data).result = .error (.memory .outOfRange)) := by
  have persists := parse_append data tail
  refine ⟨?_, ?_, ?_⟩
  · intro segments succeeded
    have settled : ¬(parse data).RanOut := by
      rw [RanOut, succeeded]
      exact nofun
    rw [persists settled]
    exact ⟨succeeded, rfl⟩
  · intro failure failed otherFailure
    have settled : ¬(parse data).RanOut := by
      rw [RanOut, failed]
      exact mt Except.error.inj otherFailure
    rw [persists settled]
    exact ⟨failed, rfl⟩
  · intro changed
    by_cases ranOut : (parse data).RanOut
    · exact ranOut
    · rw [persists ranOut] at changed
      rcases changed with result | records
      · exact absurd rfl result
      · exact absurd rfl records

/-- Behind the size of the second segment nothing more is decided; one byte before, all is open. -/
theorem parse_append_settled_overrunningTable :
    (parse ((overrunningTable.encode .big).take 52)).result = .error (.plain .overflow) ∧
      ((parse ((overrunningTable.encode .big).take 52 ++ [7])).result =
          .error (.plain .overflow) ∧
        (parse ((overrunningTable.encode .big).take 52 ++ [7])).records =
          (parse ((overrunningTable.encode .big).take 52)).records) ∧
      (parse ((overrunningTable.encode .big).take 51 ++ [0])).result ≠
        (parse ((overrunningTable.encode .big).take 51)).result ∧
      (parse ((overrunningTable.encode .big).take 51)).result =
        .error (.memory .outOfRange) := by
  have behind := parse_append_settled ((overrunningTable.encode .big).take 52) [7]
  have before := parse_append_settled ((overrunningTable.encode .big).take 51) [0]
  have completed : (parse ((overrunningTable.encode .big).take 51 ++ [0])).result =
      .error (.plain .overflow) := rfl
  have changed : (parse ((overrunningTable.encode .big).take 51 ++ [0])).result ≠
      (parse ((overrunningTable.encode .big).take 51)).result := by
    rw [completed]
    exact nofun
  exact ⟨rfl, behind.2.1 _ rfl (by decide), changed, before.2.2 (Or.inl changed)⟩

end SegmentTable

end BinaryImage
