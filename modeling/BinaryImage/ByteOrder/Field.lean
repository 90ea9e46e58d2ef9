import BinaryImage.Bytes.BigEndian
import BinaryImage.ByteOrder.Basic

/-!
# Fields

A field is a number of two, four or eight bytes, as it is stored in an image.
-/

namespace BinaryImage

inductive Width where
  | two
  | four
  | eight
  deriving DecidableEq, Repr

inductive Field where
  | bits16 (value : UInt16)
  | bits32 (value : UInt32)
  | bits64 (value : UInt64)
  deriving DecidableEq, Repr

def Width.byteCount : Width → Nat
  | two => 2
  | four => 4
  | eight => 8

theorem Width.byteCount_le (width : Width) : width.byteCount ≤ 8 := by
  cases width <;> decide

theorem Width.byteCount_lt_size (width : Width) : width.byteCount < UInt64.size :=
  Nat.lt_of_le_of_lt width.byteCount_le (by decide)

namespace Field

def width : Field → Width
  | bits16 _ => .two
  | bits32 _ => .four
  | bits64 _ => .eight

def toNat : Field → Nat
  | bits16 value => value.toNat
  | bits32 value => value.toNat
  | bits64 value => value.toNat

/-- The field of a given width that holds a number, reduced to that width. -/
def ofNat (value : Nat) : Width → Field
  | .two => bits16 (UInt16.ofNat value)
  | .four => bits32 (UInt32.ofNat value)
  | .eight => bits64 (UInt64.ofNat value)

def encode (field : Field) : Endianness → List UInt8
  | .little => LittleEndian.encode field.width.byteCount field.toNat
  | .big => BigEndian.encode field.width.byteCount field.toNat

/-- Converts a field between stored and host bytes. -/
def swap (order : ByteOrder) : Field → Field
  | bits16 value => bits16 (order.swap16 value)
  | bits32 value => bits32 (order.swap32 value)
  | bits64 value => bits64 (order.swap64 value)

@[simp] theorem length_encode (field : Field) (endianness : Endianness) :
    (field.encode endianness).length = field.width.byteCount := by
  cases endianness <;> simp [encode]

theorem toNat_lt (field : Field) : field.toNat < byteSpan field.width.byteCount := by
  cases field with
  | bits16 value => exact value.toNat_lt
  | bits32 value => exact value.toNat_lt
  | bits64 value => exact value.toNat_lt

theorem ofNat_toNat (field : Field) : ofNat field.toNat field.width = field := by
  cases field <;> simp [ofNat, toNat, width]

/-- The number that the stored bytes denote on the host, once converted, is the stored field. -/
theorem swap_ofNat_decode_encode (field : Field) (endianness : Endianness) :
    (ofNat (LittleEndian.decode (field.encode endianness)) field.width).swap
      (ByteOrder.select endianness) = field := by
  have bound := field.toNat_lt
  cases endianness with
  | little =>
      rw [encode, LittleEndian.decode_encode bound, ofNat_toNat]
      cases field <;> rfl
  | big =>
      rw [encode, BigEndian.encode_eq_reverse, decode_reverse_encode]
      have reversed := reversedBytes_lt field.width.byteCount field.toNat
      have twice := reversedBytes_reversedBytes bound
      cases field with
      | bits16 value =>
          change bits16 (UInt16.ofNat (reversedBytes 2 (UInt16.ofNat _).toNat)) = _
          rw [UInt16.toNat_ofNat_of_lt' reversed]
          exact congrArg bits16 <| (congrArg UInt16.ofNat twice).trans UInt16.ofNat_toNat
      | bits32 value =>
          change bits32 (UInt32.ofNat (reversedBytes 4 (UInt32.ofNat _).toNat)) = _
          rw [UInt32.toNat_ofNat_of_lt' reversed]
          exact congrArg bits32 <| (congrArg UInt32.ofNat twice).trans UInt32.ofNat_toNat
      | bits64 value =>
          change bits64 (UInt64.ofNat (reversedBytes 8 (UInt64.ofNat _).toNat)) = _
          rw [UInt64.toNat_ofNat_of_lt' reversed]
          exact congrArg bits64 <| (congrArg UInt64.ofNat twice).trans UInt64.ofNat_toNat

end Field

end BinaryImage
