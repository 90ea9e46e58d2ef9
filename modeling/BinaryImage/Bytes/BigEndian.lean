import BinaryImage.Bytes.LittleEndian

/-!
# Most significant byte first

Numbers as a fixed count of bytes, the most significant first. Main statement: these bytes are
the reverse of those with the least significant first.
-/

namespace BinaryImage.BigEndian

/-- The lowest `width` bytes of a number, the most significant first. -/
def encode : Nat → Nat → List UInt8
  | 0, _ => []
  | width + 1, value => UInt8.ofNat (value / byteSpan width) :: encode width value

@[simp] theorem length_encode (width value : Nat) : (encode width value).length = width := by
  induction width with
  | zero => rfl
  | succ width inductionHypothesis => simp [encode, inductionHypothesis]

theorem encode_eq_reverse (width value : Nat) :
    encode width value = (LittleEndian.encode width value).reverse := by
  induction width with
  | zero => rfl
  | succ width inductionHypothesis =>
      rw [encode, LittleEndian.encode_succ, List.reverse_append, inductionHypothesis]
      rfl

end BinaryImage.BigEndian
