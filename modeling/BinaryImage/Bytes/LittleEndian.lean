/-!
# Least significant byte first

Numbers as a fixed count of bytes, the least significant first. Main statement: writing and
reading are inverse to each other for the numbers that fit.
-/

namespace BinaryImage

/-- How many numbers can be written with a given count of bytes. -/
def byteSpan : Nat → Nat
  | 0 => 1
  | width + 1 => 256 * byteSpan width

namespace LittleEndian

/-- The lowest `width` bytes of a number, the least significant first. -/
def encode : Nat → Nat → List UInt8
  | 0, _ => []
  | width + 1, value => UInt8.ofNat value :: encode width (value / 256)

/-- The number that bytes denote, the least significant first. -/
def decode : List UInt8 → Nat
  | [] => 0
  | byte :: rest => byte.toNat + 256 * decode rest

@[simp] theorem length_encode (width value : Nat) : (encode width value).length = width := by
  induction width generalizing value with
  | zero => rfl
  | succ width inductionHypothesis => simp [encode, inductionHypothesis]

theorem decode_lt (bytes : List UInt8) : decode bytes < byteSpan bytes.length := by
  induction bytes with
  | nil => exact Nat.one_pos
  | cons byte rest inductionHypothesis =>
      have bound := byte.toNat_lt
      rw [decode, List.length_cons, byteSpan]
      omega

theorem decode_concat (bytes : List UInt8) (last : UInt8) :
    decode (bytes ++ [last]) = decode bytes + last.toNat * byteSpan bytes.length := by
  induction bytes with
  | nil => simp [decode, byteSpan]
  | cons byte rest inductionHypothesis =>
      rw [List.cons_append, decode, inductionHypothesis, decode, List.length_cons, byteSpan,
        Nat.mul_add, Nat.mul_left_comm, Nat.add_assoc]

theorem decode_encode {width value : Nat} (bound : value < byteSpan width) :
    decode (encode width value) = value := by
  induction width generalizing value with
  | zero =>
      simp only [byteSpan] at bound
      simp only [encode, decode]
      omega
  | succ width inductionHypothesis =>
      rw [byteSpan] at bound
      rw [encode, decode, inductionHypothesis (by omega), UInt8.toNat_ofNat']
      omega

theorem encode_decode (bytes : List UInt8) : encode bytes.length (decode bytes) = bytes := by
  induction bytes with
  | nil => rfl
  | cons byte rest inductionHypothesis =>
      have bound := byte.toNat_lt
      have head : UInt8.ofNat (byte.toNat + 256 * decode rest) = byte := by
        apply UInt8.toNat_inj.mp
        rw [UInt8.toNat_ofNat']
        omega
      rw [decode, List.length_cons, encode, head,
        show (byte.toNat + 256 * decode rest) / 256 = decode rest by omega, inductionHypothesis]

theorem encode_succ (width value : Nat) :
    encode (width + 1) value = encode width value ++ [UInt8.ofNat (value / byteSpan width)] := by
  induction width generalizing value with
  | zero => simp [encode, byteSpan]
  | succ width inductionHypothesis =>
      rw [encode, inductionHypothesis, encode, List.cons_append, Nat.div_div_eq_div_mul, byteSpan]

end LittleEndian

end BinaryImage
