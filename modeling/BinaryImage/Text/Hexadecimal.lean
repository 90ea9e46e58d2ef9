/-!
# Hexadecimal text

Numbers are written in base sixteen with lower-case digits, no leading zeros and the mark `0x`.
Main statement: the digits of a number have the value of the number.
-/

namespace BinaryImage.Text

/-- The digits of a number in base sixteen, the most significant first; zero has one digit. -/
def hexadecimalDigits (value : Nat) : List Char := Nat.toDigits 16 value

def hexadecimal (value : Nat) : String := "0x" ++ String.ofList (hexadecimalDigits value)

/-- The value of one digit in base sixteen; any other character counts as zero. -/
def hexadecimalDigitValue (digit : Char) : Nat :=
  if '0' ≤ digit ∧ digit ≤ '9' then digit.toNat - '0'.toNat
  else if 'a' ≤ digit ∧ digit ≤ 'f' then digit.toNat - 'a'.toNat + 10
  else 0

/-- The value that a run of digits in base sixteen denotes. -/
def hexadecimalValue (digits : List Char) : Nat :=
  digits.foldl (fun value digit => 16 * value + hexadecimalDigitValue digit) 0

theorem hexadecimalDigitValue_digitChar {value : Nat} (bound : value < 16) :
    hexadecimalDigitValue value.digitChar = value := by
  have every : ∀ index : Fin 16, hexadecimalDigitValue index.val.digitChar = index.val := by
    decide
  exact every ⟨value, bound⟩

theorem hexadecimalDigits_of_lt {value : Nat} (bound : value < 16) :
    hexadecimalDigits value = [value.digitChar] :=
  Nat.toDigits_of_lt_base bound

/-- A number of at least sixteen is written as its sixteenth part followed by one digit. -/
theorem hexadecimalDigits_of_le {value : Nat} (bound : 16 ≤ value) :
    hexadecimalDigits value = hexadecimalDigits (value / 16) ++ [(value % 16).digitChar] := by
  have digit : value % 16 < 16 := Nat.mod_lt _ (by decide)
  have joined := Nat.toDigits_append_toDigits (b := 16) (n := value / 16) (d := value % 16)
    (by decide) (by omega) digit
  rw [show 16 * (value / 16) + value % 16 = value by omega, Nat.toDigits_of_lt_base digit] at joined
  exact joined.symm

theorem hexadecimalValue_hexadecimalDigits (value : Nat) :
    hexadecimalValue (hexadecimalDigits value) = value := by
  induction value using Nat.strongRecOn with
  | ind value inductionHypothesis =>
    by_cases small : value < 16
    · simp [hexadecimalDigits_of_lt small, hexadecimalValue, hexadecimalDigitValue_digitChar small]
    · have quotient := inductionHypothesis (value / 16) (by omega)
      have digit : value % 16 < 16 := Nat.mod_lt _ (by decide)
      rw [hexadecimalDigits_of_le (by omega), hexadecimalValue, List.foldl_append]
      rw [hexadecimalValue] at quotient
      rw [quotient]
      simp only [List.foldl_cons, List.foldl_nil, hexadecimalDigitValue_digitChar digit]
      omega

end BinaryImage.Text
