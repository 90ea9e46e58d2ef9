import BinaryImage.ByteOrder.Reading

/-!
# What a buffer carries

A buffer need not hold all of the bytes that are expected in it: it may be cut off anywhere.
Main statements: reading a stored field from a buffer that carries it yields the field exactly
when the buffer is long enough, and every buffer carries some field wherever one is read.
-/

namespace BinaryImage

open Checked

/-- From a position on, a buffer carries given bytes, as far as the buffer goes. -/
def Carries (data : List UInt8) (position : Nat) (bytes : List UInt8) : Prop :=
  ∃ after, data.drop position <+: bytes ++ after

namespace Carries

variable {data initial final : List UInt8} {position : Nat}

theorem nil : Carries data position [] :=
  ⟨_, List.prefix_rfl⟩

theorem of_append (initial final : List UInt8) :
    Carries (initial ++ final) 0 initial :=
  ⟨final, List.prefix_rfl⟩

/-- Whatever stands before bytes and behind them, they are carried where they stand. -/
theorem of_between (before bytes after : List UInt8) :
    Carries (before ++ bytes ++ after) before.length bytes := by
  have found : (before ++ bytes ++ after).drop before.length = bytes ++ after := by
    rw [List.append_assoc, List.drop_left]
  exact ⟨after, found ▸ List.prefix_rfl⟩

theorem of_prefix (leading : data.drop position <+: initial) :
    Carries data position initial := by
  refine ⟨[], ?_⟩
  rwa [List.append_nil]

theorem of_take (bytes : List UInt8) (cut : Nat) :
    Carries (bytes.take cut) 0 bytes :=
  of_prefix (List.take_prefix cut bytes)

theorem left (carried : Carries data position (initial ++ final)) :
    Carries data position initial := by
  obtain ⟨after, leading⟩ := carried
  exact ⟨final ++ after, by rwa [← List.append_assoc]⟩

/-- Behind bytes that are there in full, the buffer carries what follows them. -/
theorem advance
    (carried : Carries data position (initial ++ final))
    (inside : position + initial.length ≤ data.length) :
    Carries data (position + initial.length) final := by
  obtain ⟨after, missing, equality⟩ := carried
  have whole : initial.length ≤ (data.drop position).length := by
    rw [List.length_drop]
    omega
  have dropped := congrArg (List.drop initial.length) equality
  rw [List.drop_append_of_le_length whole, List.append_assoc,
    List.drop_left, List.drop_drop] at dropped
  exact ⟨after, missing, dropped⟩

/-- What is carried at one place and right behind it is carried in one piece. -/
theorem append
    (carried : Carries data position initial)
    (further : Carries data (position + initial.length) final) :
    Carries data position (initial ++ final) := by
  rcases Nat.le_total (data.drop position).length initial.length with short | whole
  -- The buffer ends within the first piece, so nothing is asked of it behind that piece.
  · obtain ⟨after, leading⟩ := carried
    have within : data.drop position <+: initial :=
      List.prefix_of_prefix_length_le leading (List.prefix_append initial after) short
    exact of_prefix (within.trans (List.prefix_append initial final))
  · obtain ⟨_, leading⟩ := carried
    obtain ⟨after, following⟩ := further
    have split := List.prefix_of_prefix_length_le (List.prefix_append initial _) leading whole
    obtain ⟨rest, equality⟩ := split
    have sameRest : data.drop (position + initial.length) = rest := by
      rw [← List.drop_drop, ← equality, List.drop_left]
    refine ⟨after, ?_⟩
    rw [← equality, List.append_assoc]
    rw [sameRest] at following
    exact (List.prefix_append_right_inj initial).mpr following

/-- Bytes that are there in full are found where they are carried. -/
theorem take_drop
    (carried : Carries data position initial)
    (inside : position + initial.length ≤ data.length) :
    (data.drop position).take initial.length = initial := by
  obtain ⟨after, missing, equality⟩ := carried
  have whole : initial.length ≤ (data.drop position).length := by
    rw [List.length_drop]
    omega
  have taken := congrArg (List.take initial.length) equality
  rwa [List.take_append_of_le_length whole, List.take_left] at taken

end Carries

/-! ## Positions and sizes -/

/-- A position that a read from a buffer of a given size can end at. -/
def Inside (size position : Nat) : Prop :=
  position ≤ size ∧ position < UInt64.size

theorem Inside.mono
    {size position earlier : Nat}
    (inside : Inside size position) (order : earlier ≤ position) :
    Inside size earlier :=
  ⟨Nat.le_trans order inside.1, Nat.lt_of_le_of_lt order inside.2⟩

/-- A buffer that memory can hold: it takes up less than half of the address space. -/
def Addressable (data : List UInt8) : Prop :=
  data.length < UInt64.size / 2

instance (data : List UInt8) : Decidable (Addressable data) :=
  inferInstanceAs (Decidable (_ < _))

theorem Addressable.inside
    {data : List UInt8} (addressable : Addressable data)
    {position : Nat} (order : position ≤ data.length) :
    Inside data.length position := by
  refine ⟨order, ?_⟩
  simp only [Addressable, UInt64.size] at *
  omega

/-- Asks for so many bytes at a position of a buffer, and fails as a read does where they are
not all there. -/
def demand (width position size : Nat) : Checked Unit :=
  if UInt64.size ≤ position + width then
    reject (.sumOverflows (UInt64.ofNat position) (UInt64.ofNat width))
  else if size < position + width then
    reject (.pastBuffer width (UInt64.ofNat position) size)
  else
    pure ()

theorem demand_eq_pure
    {width position size : Nat} (inside : Inside size (position + width)) :
    demand width position size = pure () := by
  obtain ⟨order, bound⟩ := inside
  rw [demand, if_neg (by omega), if_neg (by omega)]

theorem demand_result_eq_ok_iff {width position size : Nat} :
    (demand width position size).result = .ok () ↔ Inside size (position + width) := by
  constructor
  · intro succeeded
    unfold demand at succeeded
    split at succeeded
    · cases succeeded
    · split at succeeded
      · cases succeeded
      · constructor <;> omega
  · intro inside
    rw [demand_eq_pure inside]
    rfl

/-- Bytes that are not there are not in the address space, or else not in the buffer. -/
theorem demand_result_of_not_inside
    {width position size : Nat} (missing : ¬Inside size (position + width)) :
    (demand width position size).result =
      .error (if UInt64.size ≤ position + width then .plain .overflow
        else .memory .outOfRange) := by
  rw [demand]
  by_cases beyond : UInt64.size ≤ position + width
  · rw [if_pos beyond, if_pos beyond]
    rfl
  · have past : size < position + width :=
      Nat.lt_of_not_le fun within => missing ⟨within, Nat.lt_of_not_le beyond⟩
    rw [if_neg beyond, if_neg beyond, if_pos past]
    rfl

/-- In a buffer that memory can hold, bytes that are not there lie past its end. -/
theorem demand_eq_reject
    {data : List UInt8} (addressable : Addressable data)
    {width position : Nat} (narrow : width ≤ 8) (start : position ≤ data.length)
    (past : data.length < position + width) :
    demand width position data.length =
      reject (.pastBuffer width (UInt64.ofNat position) data.length) := by
  have bound : position + width < UInt64.size := by
    simp only [Addressable, UInt64.size] at *
    omega
  rw [demand, if_neg (by omega), if_pos past]

/-- What asks for bytes first goes on where they are there, and runs out of them otherwise. -/
theorem demand_bind_result
    {α : Type} {data : List UInt8} (addressable : Addressable data)
    {width position : Nat} (narrow : width ≤ 8) (start : position ≤ data.length)
    (next : Unit → Checked α) :
    (demand width position data.length >>= next).result =
      if position + width ≤ data.length then (next ()).result
      else .error (.memory .outOfRange) := by
  by_cases there : position + width ≤ data.length
  · rw [demand_eq_pure (addressable.inside there), pure_bind, if_pos there]
  · rw [demand_eq_reject addressable narrow start (Nat.lt_of_not_le there), if_neg there]
    rfl

/-! ## Reading stored fields -/

theorem readBytes_ofNat
    {width position : Nat} (narrow : width ≤ 8) (bound : position < UInt64.size)
    (data : List UInt8) :
    readBytes width data (UInt64.ofNat position) =
      demand width position data.length >>= fun _ =>
        pure ⟨(data.drop position).take width, UInt64.ofNat (position + width)⟩ := by
  have positionValue : (UInt64.ofNat position).toNat = position :=
    UInt64.toNat_ofNat_of_lt' bound
  rw [readBytes_eq data _ (by simp only [UInt64.size]; omega), positionValue, demand]
  split
  · rfl
  · split
    · rfl
    · rw [pure_bind, UInt64.ofNat_add]

/-- A field that the buffer carries is read exactly when all of its bytes are there. -/
theorem readField_of_carries
    {endianness : Endianness} {field : Field} {data : List UInt8} {position : Nat}
    (carried : Carries data position (field.encode endianness))
    (bound : position < UInt64.size) :
    (ByteOrder.select endianness).readField data (UInt64.ofNat position) field.width =
      demand field.width.byteCount position data.length >>= fun _ =>
        pure ⟨field, UInt64.ofNat (position + field.width.byteCount)⟩ := by
  rw [readField_eq, readBytes_ofNat field.width.byteCount_le bound, map_bind]
  apply bind_congr_of_ok
  intro _ succeeded
  have inside := demand_result_eq_ok_iff.mp succeeded
  have found := carried.take_drop (by simpa using inside.1)
  rw [Field.length_encode] at found
  rw [map_pure, found, Read.map, Field.swap_ofNat_decode_encode]

theorem read32_of_carries
    {endianness : Endianness} {value : UInt32} {data : List UInt8} {position : Nat}
    (carried : Carries data position ((Field.bits32 value).encode endianness))
    (bound : position < UInt64.size) :
    (ByteOrder.select endianness).read32 data (UInt64.ofNat position) =
      demand 4 position data.length >>= fun _ =>
        pure ⟨value, UInt64.ofNat (position + 4)⟩ := by
  apply map_injective (Read.map Field.bits32)
  · rintro ⟨leftValue, leftNext⟩ ⟨rightValue, rightNext⟩ equality
    simpa [Read.map] using equality
  · rw [map_bind]
    exact readField_of_carries carried bound

theorem read64_of_carries
    {endianness : Endianness} {value : UInt64} {data : List UInt8} {position : Nat}
    (carried : Carries data position ((Field.bits64 value).encode endianness))
    (bound : position < UInt64.size) :
    (ByteOrder.select endianness).read64 data (UInt64.ofNat position) =
      demand 8 position data.length >>= fun _ =>
        pure ⟨value, UInt64.ofNat (position + 8)⟩ := by
  apply map_injective (Read.map Field.bits64)
  · rintro ⟨leftValue, leftNext⟩ ⟨rightValue, rightNext⟩ equality
    simpa [Read.map] using equality
  · rw [map_bind]
    exact readField_of_carries carried bound

/-! ## Fields in arbitrary bytes -/

namespace Field

theorem width_ofNat (value : Nat) (width : Width) : (ofNat value width).width = width := by
  cases width <;> rfl

theorem toNat_ofNat
    {value : Nat} {width : Width} (bound : value < byteSpan width.byteCount) :
    (ofNat value width).toNat = value := by
  cases width with
  | two => exact UInt16.toNat_ofNat_of_lt' bound
  | four => exact UInt32.toNat_ofNat_of_lt' bound
  | eight => exact UInt64.toNat_ofNat_of_lt' bound

/-- Bytes that are as many as a field has are the stored form of a field. -/
theorem exists_encode_eq
    (endianness : Endianness) (width : Width) {bytes : List UInt8}
    (fullLength : bytes.length = width.byteCount) :
    ∃ field : Field, field.width = width ∧ field.encode endianness = bytes := by
  cases endianness with
  | little =>
      have bound := LittleEndian.decode_lt bytes
      rw [fullLength] at bound
      refine ⟨ofNat (LittleEndian.decode bytes) width, width_ofNat _ _, ?_⟩
      rw [encode, width_ofNat, toNat_ofNat bound, ← fullLength,
        LittleEndian.encode_decode]
  | big =>
      have bound := LittleEndian.decode_lt bytes.reverse
      rw [List.length_reverse, fullLength] at bound
      refine ⟨ofNat (LittleEndian.decode bytes.reverse) width, width_ofNat _ _, ?_⟩
      rw [encode, width_ofNat, toNat_ofNat bound, BigEndian.encode_eq_reverse,
        ← fullLength, ← List.length_reverse, LittleEndian.encode_decode,
        List.reverse_reverse]

/-- Wherever a field is looked for, the buffer carries one. -/
theorem exists_carries
    (endianness : Endianness) (width : Width) (data : List UInt8) (position : Nat) :
    ∃ field : Field, field.width = width ∧
      Carries data position (field.encode endianness) := by
  -- Bytes that the buffer lacks may be anything; they are taken to be zero.
  let found : List UInt8 := (data.drop position).take width.byteCount
  let missing : List UInt8 := List.replicate (width.byteCount - found.length) 0
  have fullLength : (found ++ missing).length = width.byteCount := by
    have bound : found.length ≤ width.byteCount := List.length_take_le _ _
    rw [List.length_append, List.length_replicate]
    omega
  obtain ⟨field, sameWidth, encoded⟩ := exists_encode_eq endianness width fullLength
  refine ⟨field, sameWidth, ?_⟩
  rw [encoded]
  rcases Nat.le_total width.byteCount (data.drop position).length with enough | few
  · have nothingMissing : missing = [] := by
      have bound : found.length = width.byteCount := List.length_take_of_le enough
      simp only [missing, bound, Nat.sub_self, List.replicate_zero]
    refine ⟨(data.drop position).drop width.byteCount, [], ?_⟩
    rw [List.append_nil, nothingMissing, List.append_nil, List.take_append_drop]
  · have everything : found = data.drop position := List.take_of_length_le few
    rw [everything]
    exact Carries.of_prefix (List.prefix_append _ _)

theorem exists_carries_bits32
    (endianness : Endianness) (data : List UInt8) (position : Nat) :
    ∃ value, Carries data position ((bits32 value).encode endianness) := by
  obtain ⟨field, sameWidth, carried⟩ := exists_carries endianness .four data position
  cases field with
  | bits16 value => cases sameWidth
  | bits32 value => exact ⟨value, carried⟩
  | bits64 value => cases sameWidth

theorem exists_carries_bits64
    (endianness : Endianness) (data : List UInt8) (position : Nat) :
    ∃ value, Carries data position ((bits64 value).encode endianness) := by
  obtain ⟨field, sameWidth, carried⟩ := exists_carries endianness .eight data position
  cases field with
  | bits16 value => cases sameWidth
  | bits32 value => cases sameWidth
  | bits64 value => exact ⟨value, carried⟩

end Field

end BinaryImage
