import BinaryImage.Text.Utf8

/-!
# Reading what was written

A character is written as one to four bytes, by the size of its scalar value. Each of the four
forms is read as the character it was written for. Main statement: reading the bytes of a text
gives the text back.
-/

namespace BinaryImage.Text.Utf8

/-! ## Bytes of the four forms -/

/-- A byte that carries six bits of a character. -/
def continuation (value : Nat) : UInt8 := UInt8.ofNat (value % 64 + 128)

theorem continuation_toNat (value : Nat) : (continuation value).toNat = value % 64 + 128 :=
  UInt8.toNat_ofNat_of_lt' (by rw [UInt8.size]; omega)

theorem start_of_ascii {value : Nat} (bound : value < 0x80) :
    start (UInt8.ofNat value) = .complete (Char.ofNat value) := by
  have narrow : value < 256 := by omega
  simp only [start, UInt8.toNat_ofNat_of_lt' narrow]
  rw [if_pos bound]

theorem start_of_two {value : Nat} (low : 0x80 ≤ value) (high : value < 0x800) :
    start (UInt8.ofNat (value / 64 % 32 + 192)) = .partway ⟨value / 64, 0, 0x80, 0xbf⟩ := by
  have narrow : value / 64 % 32 + 192 < 256 := by omega
  have part : (value / 64 % 32 + 192) % 32 = value / 64 := by omega
  simp only [start, UInt8.toNat_ofNat_of_lt' narrow]
  rw [if_neg (by omega), if_neg (by omega), if_pos (by omega), part]

theorem start_of_three {value : Nat} (low : 0x800 ≤ value) (high : value < 0x10000) :
    start (UInt8.ofNat (value / 4096 % 16 + 224)) =
      .partway ⟨value / 4096, 1, if value / 4096 = 0 then 0xa0 else 0x80,
        if value / 4096 = 13 then 0x9f else 0xbf⟩ := by
  have narrow : value / 4096 % 16 + 224 < 256 := by omega
  have part : (value / 4096 % 16 + 224) % 16 = value / 4096 := by omega
  simp only [start, UInt8.toNat_ofNat_of_lt' narrow]
  have small : value / 4096 % 16 = value / 4096 := by omega
  have first : (value / 4096 % 16 + 224 = 224) = (value / 4096 = 0) := propext (by omega)
  have surrogate : (value / 4096 % 16 + 224 = 237) = (value / 4096 = 13) := propext (by omega)
  rw [if_neg (by omega), if_neg (by omega), if_neg (by omega), if_pos (by omega), part]
  simp only [first, surrogate]

theorem start_of_four {value : Nat} (low : 0x10000 ≤ value) (high : value < 0x110000) :
    start (UInt8.ofNat (value / 262144 % 8 + 240)) =
      .partway ⟨value / 262144, 2, if value / 262144 = 0 then 0x90 else 0x80,
        if value / 262144 = 4 then 0x8f else 0xbf⟩ := by
  have narrow : value / 262144 % 8 + 240 < 256 := by omega
  have part : (value / 262144 % 8 + 240) % 8 = value / 262144 := by omega
  simp only [start, UInt8.toNat_ofNat_of_lt' narrow]
  have small : value / 262144 % 8 = value / 262144 := by omega
  have first : (value / 262144 % 8 + 240 = 240) = (value / 262144 = 0) := propext (by omega)
  have final : (value / 262144 % 8 + 240 = 244) = (value / 262144 = 4) := propext (by omega)
  rw [if_neg (by omega), if_neg (by omega), if_neg (by omega), if_neg (by omega),
    if_pos (by omega), part]
  simp only [first, final]

/-! ## Continuing a character -/

theorem accepts_continuation (value part owed : Nat) :
    Pending.accepts ⟨part, owed, 0x80, 0xbf⟩ (continuation value) = true := by
  simp only [Pending.accepts, continuation_toNat, Bool.and_eq_true, decide_eq_true_eq]
  omega

theorem continued_continuation (value : Nat) :
    value / 64 * 64 + (value % 64 + 128) % 64 = value := by
  omega

theorem decodeFrom_last {value low high : Nat} {rest : List UInt8}
    (accepted : Pending.accepts ⟨value / 64, 0, low, high⟩ (continuation value) = true) :
    decodeFrom (some ⟨value / 64, 0, low, high⟩) (continuation value :: rest) =
      Char.ofNat value :: decodeFrom none rest := by
  apply decodeFrom_of_complete accepted
  simp only [Pending.continued, continuation_toNat]
  rw [continued_continuation]

theorem decodeFrom_next {value owed low high : Nat} {rest : List UInt8}
    (accepted : Pending.accepts ⟨value / 64, owed + 1, low, high⟩ (continuation value) = true) :
    decodeFrom (some ⟨value / 64, owed + 1, low, high⟩) (continuation value :: rest) =
      decodeFrom (some ⟨value, owed, 0x80, 0xbf⟩) rest := by
  apply decodeFrom_of_partway accepted
  simp only [Pending.continued, continuation_toNat]
  rw [continued_continuation]

/-! ## Characters and texts -/

/-- The bytes of a character with a given scalar value. -/
def scalarBytes (value : Nat) : List UInt8 :=
  if value ≤ 127 then [UInt8.ofNat value]
  else if value ≤ 2047 then [UInt8.ofNat (value / 64 % 32 + 192), continuation value]
  else if value ≤ 65535 then
    [UInt8.ofNat (value / 4096 % 16 + 224), continuation (value / 64), continuation value]
  else
    [UInt8.ofNat (value / 262144 % 8 + 240), continuation (value / 4096),
      continuation (value / 64), continuation value]

theorem utf8EncodeChar_eq (character : Char) :
    String.utf8EncodeChar character = scalarBytes character.toNat := rfl

/-- The bytes of a scalar value are read as its character. -/
theorem decodeFrom_scalarBytes {value : Nat} (rest : List UInt8)
    (valid : value < 0xd800 ∨ 0xdfff < value ∧ value < 0x110000) :
    decodeFrom none (scalarBytes value ++ rest) = Char.ofNat value :: decodeFrom none rest := by
  rw [scalarBytes]
  by_cases one : value ≤ 127
  · rw [if_pos one, List.cons_append, List.nil_append]
    exact decodeFrom_of_start_complete (start_of_ascii (by omega))
  by_cases two : value ≤ 2047
  · rw [if_neg one, if_pos two]
    simp only [List.cons_append, List.nil_append]
    rw [decodeFrom_of_start_partway (start_of_two (by omega) (by omega)),
      decodeFrom_last (accepts_continuation _ _ _)]
  by_cases three : value ≤ 65535
  · rw [if_neg one, if_neg two, if_pos three]
    simp only [List.cons_append, List.nil_append]
    have twice : value / 4096 = value / 64 / 64 := by omega
    rw [decodeFrom_of_start_partway (start_of_three (by omega) (by omega)), twice,
      decodeFrom_next,
      decodeFrom_last (accepts_continuation _ _ _)]
    simp only [Pending.accepts, continuation_toNat, Bool.and_eq_true, decide_eq_true_eq]
    constructor <;> split <;> omega
  · rw [if_neg one, if_neg two, if_neg three]
    simp only [List.cons_append, List.nil_append]
    have thrice : value / 262144 = value / 4096 / 64 := by omega
    have twice : value / 4096 = value / 64 / 64 := by omega
    rw [decodeFrom_of_start_partway (start_of_four (by omega) (by omega)), thrice,
      decodeFrom_next, twice,
      decodeFrom_next (accepts_continuation _ _ _), decodeFrom_last (accepts_continuation _ _ _)]
    simp only [Pending.accepts, continuation_toNat, Bool.and_eq_true, decide_eq_true_eq]
    constructor <;> split <;> omega

theorem decodeFrom_utf8EncodeChar (character : Char) (rest : List UInt8) :
    decodeFrom none (String.utf8EncodeChar character ++ rest) =
      character :: decodeFrom none rest := by
  have valid : character.toNat < 0xd800 ∨ 0xdfff < character.toNat ∧ character.toNat < 0x110000 :=
    character.valid
  rw [utf8EncodeChar_eq, decodeFrom_scalarBytes rest valid, Char.ofNat_toNat]

theorem decode_encode_append (characters : List Char) (rest : List UInt8) :
    decode (encode characters ++ rest) = characters ++ decode rest := by
  induction characters with
  | nil => rfl
  | cons character others inductionHypothesis =>
      rw [encode, List.flatMap_cons, List.append_assoc, decode, decodeFrom_utf8EncodeChar]
      exact congrArg (character :: ·) inductionHypothesis

theorem decode_encode (characters : List Char) : decode (encode characters) = characters := by
  have appended := decode_encode_append characters []
  have nothing : decode [] = [] := rfl
  rwa [List.append_nil, nothing, List.append_nil] at appended

theorem text_bytes (content : String) : text (bytes content) = content := by
  rw [text, bytes, decode_encode, String.ofList_toList]

end BinaryImage.Text.Utf8
