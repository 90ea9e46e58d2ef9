import BinaryImage.AddressRange.Basic

/-!
# Reading intervals

An interval is written as two numbers between a bracket and a parenthesis. Main statement: the
intervals in a text that starts with a written interval are that one, with its numbers, and those
of the rest; and what is written without a bracket names none.
-/

namespace BinaryImage.Text

/-! ## Numbers -/

/-- The characters that stand for the digits in base sixteen. -/
def isHexadecimalDigit (character : Char) : Bool :=
  ('0' ≤ character && character ≤ '9') || ('a' ≤ character && character ≤ 'f')

/-- Reads the number that a text starts with, as far as its digits go. -/
def readHexadecimal : List Char → Option (Nat × List Char)
  | '0' :: 'x' :: digits =>
      some (hexadecimalValue (digits.takeWhile isHexadecimalDigit),
        digits.dropWhile isHexadecimalDigit)
  | _ => none

theorem isHexadecimalDigit_digitChar {value : Nat} (bound : value < 16) :
    isHexadecimalDigit value.digitChar = true := by
  have every : ∀ index : Fin 16, isHexadecimalDigit index.val.digitChar = true := by decide
  exact every ⟨value, bound⟩

theorem isHexadecimalDigit_of_mem
    {value : Nat} {digit : Char} (member : digit ∈ hexadecimalDigits value) :
    isHexadecimalDigit digit = true := by
  induction value using Nat.strongRecOn with
  | ind value inductionHypothesis =>
    rcases Nat.lt_or_ge value 16 with small | large
    · rw [hexadecimalDigits_of_lt small, List.mem_singleton] at member
      rw [member]
      exact isHexadecimalDigit_digitChar small
    · rw [hexadecimalDigits_of_le large, List.mem_append, List.mem_singleton] at member
      rcases member with higher | lowest
      · exact inductionHypothesis (value / 16) (by omega) higher
      · rw [lowest]
        exact isHexadecimalDigit_digitChar (Nat.mod_lt _ (by decide))

theorem toList_hexadecimal (value : Nat) :
    (hexadecimal value).toList = '0' :: 'x' :: hexadecimalDigits value := by
  simp [hexadecimal, String.toList_append]

/-- A number is read back in front of a character that is no digit. -/
theorem readHexadecimal_append
    (value : Nat) {next : Char} (ends : isHexadecimalDigit next = false) (rest : List Char) :
    readHexadecimal ((hexadecimal value).toList ++ next :: rest) = some (value, next :: rest) := by
  have digits : ∀ digit ∈ hexadecimalDigits value, isHexadecimalDigit digit = true :=
    fun _ => isHexadecimalDigit_of_mem
  rw [toList_hexadecimal, List.cons_append, List.cons_append, readHexadecimal,
    List.takeWhile_append_of_pos digits, List.dropWhile_append_of_pos digits]
  simp [ends, hexadecimalValue_hexadecimalDigits]

/-! ## Intervals -/

/-- Reads the two numbers of an interval from behind its bracket. -/
def readBounds (text : List Char) : Option (Nat × Nat) :=
  match readHexadecimal text with
  | some (start, ',' :: ' ' :: behindStart) =>
      match readHexadecimal behindStart with
      | some (stop, ')' :: _) => some (start, stop)
      | _ => none
  | _ => none

/-- The intervals that are written in a text, in their order. -/
def intervals : List Char → List (Nat × Nat)
  | [] => []
  | first :: rest =>
      if first = '[' then (readBounds rest).toList ++ intervals rest else intervals rest

/-- No interval starts in the text. -/
def Bracketless (text : String) : Prop := '[' ∉ text.toList

instance (text : String) : Decidable (Bracketless text) := inferInstanceAs (Decidable (¬_))

theorem Bracketless.append
    {left right : String} (first : Bracketless left) (second : Bracketless right) :
    Bracketless (left ++ right) := by
  rw [Bracketless, String.toList_append, List.mem_append]
  exact not_or.mpr ⟨first, second⟩

theorem bracketless_hexadecimal (value : Nat) : Bracketless (hexadecimal value) := by
  rw [Bracketless, toList_hexadecimal]
  intro member
  rcases List.mem_cons.mp member with equality | member
  · cases equality
  · rcases List.mem_cons.mp member with equality | digit
    · cases equality
    · have shown := isHexadecimalDigit_of_mem digit
      revert shown
      decide

theorem bracketless_repr (value : Nat) : Bracketless value.repr := by
  rw [Bracketless, Nat.toList_repr]
  intro member
  have shown := Nat.isDigit_of_mem_toDigits (by decide) (by decide) member
  revert shown
  decide

theorem intervals_append_of_not_mem
    {before : List Char} (bracketless : '[' ∉ before) (rest : List Char) :
    intervals (before ++ rest) = intervals rest := by
  induction before with
  | nil => rfl
  | cons first others inductionHypothesis =>
      obtain ⟨different, othersDifferent⟩ := not_or.mp (mt List.mem_cons.mpr bracketless)
      rw [List.cons_append, intervals, if_neg (Ne.symm different)]
      exact inductionHypothesis othersDifferent

theorem intervals_of_bracketless {text : String} (bracketless : Bracketless text) :
    intervals text.toList = [] := by
  have alone := intervals_append_of_not_mem bracketless []
  rwa [List.append_nil] at alone

theorem intervals_intervalText_append (start stop : Nat) (rest : List Char) :
    intervals ((AddressRange.intervalText start stop).toList ++ rest) =
      (start, stop) :: intervals rest := by
  have written : (AddressRange.intervalText start stop).toList ++ rest =
      '[' :: ((hexadecimal start).toList ++ ',' :: ' ' ::
        ((hexadecimal stop).toList ++ ')' :: rest)) := by
    simp [AddressRange.intervalText, String.toList_append]
  have bounds : readBounds ((hexadecimal start).toList ++ ',' :: ' ' ::
      ((hexadecimal stop).toList ++ ')' :: rest)) = some (start, stop) := by
    rw [readBounds, readHexadecimal_append start (by decide)]
    simp only [readHexadecimal_append stop (show isHexadecimalDigit ')' = false by decide)]
  have behindStart : intervals (',' :: ' ' :: ((hexadecimal stop).toList ++ ')' :: rest)) =
      intervals ((hexadecimal stop).toList ++ ')' :: rest) :=
    rfl
  have behindStop : intervals (')' :: rest) = intervals rest := rfl
  rw [written, intervals, if_pos rfl, bounds,
    intervals_append_of_not_mem (bracketless_hexadecimal start), behindStart,
    intervals_append_of_not_mem (bracketless_hexadecimal stop), behindStop]
  rfl

end BinaryImage.Text
