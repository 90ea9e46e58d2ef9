import BinaryImage.Address.Arithmetic
import BinaryImage.ByteOrder.Field

/-!
# Reading fields

A field is read at a cursor, which then stands behind it. A read that does not fit the address
space or the buffer fails, and yields no new cursor.
-/

namespace BinaryImage

open Checked

/-- A value that was read, and where the next read starts. -/
structure Read (α : Type) where
  value : α
  next : UInt64
  deriving Repr

/-- A read of another view of the same bytes. -/
def Read.map {α β : Type} (view : α → β) (read : Read α) : Read β := ⟨view read.value, read.next⟩

/-- Takes `width` bytes at a cursor. -/
def readBytes (width : Nat) (data : List UInt8) (cursor : UInt64) : Checked (Read (List UInt8)) := do
  let stop ← Address.add cursor (UInt64.ofNat width)
  if stop.toNat > data.length then
    reject (.pastBuffer width cursor data.length)
  else
    let bytes ← slice data cursor.toNat stop.toNat
    return ⟨bytes, stop⟩

namespace ByteOrder

def read16 (order : ByteOrder) (data : List UInt8) (cursor : UInt64) : Checked (Read UInt16) :=
  Read.map (fun bytes => order.swap16 (UInt16.ofNat (LittleEndian.decode bytes))) <$>
    readBytes 2 data cursor

def read32 (order : ByteOrder) (data : List UInt8) (cursor : UInt64) : Checked (Read UInt32) :=
  Read.map (fun bytes => order.swap32 (UInt32.ofNat (LittleEndian.decode bytes))) <$>
    readBytes 4 data cursor

def read64 (order : ByteOrder) (data : List UInt8) (cursor : UInt64) : Checked (Read UInt64) :=
  Read.map (fun bytes => order.swap64 (UInt64.ofNat (LittleEndian.decode bytes))) <$>
    readBytes 8 data cursor

def readField (order : ByteOrder) (data : List UInt8) (cursor : UInt64) :
    Width → Checked (Read Field)
  | .two => Read.map .bits16 <$> order.read16 data cursor
  | .four => Read.map .bits32 <$> order.read32 data cursor
  | .eight => Read.map .bits64 <$> order.read64 data cursor

/-- Reads fields of given widths, one behind the other. -/
def readFields (order : ByteOrder) (data : List UInt8) :
    UInt64 → List Width → Checked (Read (List Field))
  | cursor, [] => pure ⟨[], cursor⟩
  | cursor, width :: rest => do
    let first ← order.readField data cursor width
    let others ← order.readFields data first.next rest
    return ⟨first.value :: others.value, others.next⟩

end ByteOrder

/-! ## Exact answers -/

/-- Reading succeeds exactly when the bytes are there, and fails in one of two ways otherwise. -/
theorem readBytes_eq {width : Nat} (data : List UInt8) (cursor : UInt64)
    (narrow : width < UInt64.size) :
    readBytes width data cursor =
      if cursor.toNat + width ≥ UInt64.size then
        reject (.sumOverflows cursor (UInt64.ofNat width))
      else if cursor.toNat + width > data.length then
        reject (.pastBuffer width cursor data.length)
      else
        pure ⟨(data.drop cursor.toNat).take width, cursor + UInt64.ofNat width⟩ := by
  have widthValue : (UInt64.ofNat width).toNat = width := UInt64.toNat_ofNat_of_lt' narrow
  rw [readBytes, Address.add, widthValue]
  by_cases inRange : cursor.toNat + width < UInt64.size
  · have stopValue : (cursor + UInt64.ofNat width).toNat = cursor.toNat + width := by
      rw [toNat_add_of_lt (by rw [widthValue]; exact inRange), widthValue]
    rw [if_pos inRange, pure_bind, stopValue, if_neg (Nat.not_le.mpr inRange)]
    by_cases past : cursor.toNat + width > data.length
    · rw [if_pos past, if_pos past]
    · rw [if_neg past, if_neg past, slice_eq_pure (by omega) (by omega), pure_bind,
        Nat.add_sub_cancel_left]
  · rw [if_neg inRange, if_pos (by omega)]
    rfl

/-- A read that succeeds ends right behind its bytes, inside the buffer. -/
theorem next_of_readBytes
    {width : Nat} {data : List UInt8} {cursor : UInt64} {read : Read (List UInt8)}
    (narrow : width < UInt64.size)
    (succeeded : (readBytes width data cursor).result = .ok read) :
    read.next.toNat = cursor.toNat + width ∧ read.next.toNat ≤ data.length := by
  rw [readBytes_eq data cursor narrow] at succeeded
  split at succeeded
  · cases succeeded
  · split at succeeded
    · cases succeeded
    · cases succeeded
      have widthValue : (UInt64.ofNat width).toNat = width :=
        UInt64.toNat_ofNat_of_lt' narrow
      have nextValue : (cursor + UInt64.ofNat width).toNat = cursor.toNat + width := by
        rw [toNat_add_of_lt (by rw [widthValue]; omega), widthValue]
      constructor
      · exact nextValue
      · simp only [nextValue]
        omega

theorem next_of_read32
    {order : ByteOrder} {data : List UInt8} {cursor : UInt64} {read : Read UInt32}
    (succeeded : (order.read32 data cursor).result = .ok read) :
    read.next.toNat = cursor.toNat + 4 ∧ read.next.toNat ≤ data.length := by
  obtain ⟨bytes, found, rfl⟩ := map_result_eq_ok_iff.mp succeeded
  exact next_of_readBytes (by decide) found

theorem next_of_read64
    {order : ByteOrder} {data : List UInt8} {cursor : UInt64} {read : Read UInt64}
    (succeeded : (order.read64 data cursor).result = .ok read) :
    read.next.toNat = cursor.toNat + 8 ∧ read.next.toNat ≤ data.length := by
  obtain ⟨bytes, found, rfl⟩ := map_result_eq_ok_iff.mp succeeded
  exact next_of_readBytes (by decide) found

theorem readField_eq (order : ByteOrder) (data : List UInt8) (cursor : UInt64) (width : Width) :
    order.readField data cursor width =
      Read.map (fun bytes => (Field.ofNat (LittleEndian.decode bytes) width).swap order) <$>
        readBytes width.byteCount data cursor := by
  cases width with
  | two => exact (comp_map _ _ _).symm
  | four => exact (comp_map _ _ _).symm
  | eight => exact (comp_map _ _ _).symm

end BinaryImage
