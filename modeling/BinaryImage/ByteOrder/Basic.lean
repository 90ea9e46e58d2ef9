import BinaryImage.Bytes.LittleEndian

/-!
# Byte orders

An image stores numbers in one of two byte orders. The host keeps the least significant byte
first, so the bytes of an image are either taken as they are or reversed.
-/

namespace BinaryImage

inductive Endianness where
  | little
  | big
  deriving DecidableEq, Repr

/-- How stored bytes become host bytes. -/
inductive ByteOrder where
  | direct
  | swapped
  deriving DecidableEq, Repr

/-- The byte order of the host. -/
def Endianness.native : Endianness := .little

/-- The number whose lowest `width` bytes are those of another in reverse. -/
def reversedBytes : Nat → Nat → Nat
  | 0, _ => 0
  | width + 1, value => value % 256 * byteSpan width + reversedBytes width (value / 256)

namespace ByteOrder

/-- How to read an image that is stored in a given byte order. -/
def select (stored : Endianness) : ByteOrder :=
  if stored = Endianness.native then direct else swapped

def name : ByteOrder → String
  | direct => "Direct"
  | swapped => "Swapped"

def swap16 (value : UInt16) : ByteOrder → UInt16
  | direct => value
  | swapped => UInt16.ofNat (reversedBytes 2 value.toNat)

def swap32 (value : UInt32) : ByteOrder → UInt32
  | direct => value
  | swapped => UInt32.ofNat (reversedBytes 4 value.toNat)

def swap64 (value : UInt64) : ByteOrder → UInt64
  | direct => value
  | swapped => UInt64.ofNat (reversedBytes 8 value.toNat)

def swapBuffer (bytes : List UInt8) : ByteOrder → List UInt8
  | direct => bytes
  | swapped => bytes.reverse

/-- Converts, in place, the field that lies between two positions of a buffer. -/
def swapWithin (data : List UInt8) (start stop : Nat) (order : ByteOrder) : List UInt8 :=
  data.take start ++ order.swapBuffer ((data.drop start).take (stop - start)) ++ data.drop stop

theorem swapBuffer_length (order : ByteOrder) (bytes : List UInt8) :
    (order.swapBuffer bytes).length = bytes.length := by
  cases order <;> simp [swapBuffer]

theorem swapWithin_length (order : ByteOrder) {data : List UInt8} {start stop : Nat}
    (ordered : start ≤ stop) (inside : stop ≤ data.length) :
    (order.swapWithin data start stop).length = data.length := by
  simp only [swapWithin, List.length_append, swapBuffer_length, List.length_take, List.length_drop]
  omega

end ByteOrder

theorem reversedBytes_lt (width value : Nat) : reversedBytes width value < byteSpan width := by
  induction width generalizing value with
  | zero => exact Nat.one_pos
  | succ width inductionHypothesis =>
      have rest := inductionHypothesis (value / 256)
      have top : value % 256 * byteSpan width ≤ 255 * byteSpan width :=
        Nat.mul_le_mul_right _ (by omega)
      rw [reversedBytes, byteSpan]
      omega

theorem decode_reverse_encode (width value : Nat) :
    LittleEndian.decode (LittleEndian.encode width value).reverse = reversedBytes width value := by
  induction width generalizing value with
  | zero => rfl
  | succ width inductionHypothesis =>
      rw [LittleEndian.encode, List.reverse_cons, LittleEndian.decode_concat, inductionHypothesis,
        reversedBytes, List.length_reverse, LittleEndian.length_encode, UInt8.toNat_ofNat',
        Nat.add_comm]

theorem encode_reversedBytes (width value : Nat) :
    LittleEndian.encode width (reversedBytes width value) =
      (LittleEndian.encode width value).reverse := by
  have restored := LittleEndian.encode_decode (LittleEndian.encode width value).reverse
  rwa [List.length_reverse, LittleEndian.length_encode, decode_reverse_encode] at restored

theorem reversedBytes_reversedBytes {width value : Nat} (bound : value < byteSpan width) :
    reversedBytes width (reversedBytes width value) = value := by
  rw [← decode_reverse_encode, encode_reversedBytes, List.reverse_reverse,
    LittleEndian.decode_encode bound]

end BinaryImage
