import BinaryImage.Text.Utf8.RoundTrip

/-!
# Texts that are cut off

The bytes of a text may be cut off anywhere, inside a character too. Main statement: what is left is
read as the characters that it holds in full, with one replacement character behind them if the cut
falls inside a character, wherever in its bytes it falls. What is read may be longer than the bytes
it is read from.
-/

namespace BinaryImage.Text.Utf8

/-! ## Characters that are cut short -/

theorem settled_ne_nil_or_pending? (reading : Reading) :
    reading.settled ≠ [] ∨ reading.pending?.isSome = true := by
  cases reading with
  | complete character => exact .inl (List.cons_ne_nil _ _)
  | partway pending => exact .inr rfl
  | invalid => exact .inl (List.cons_ne_nil _ _)

/-- A byte settles a character, or it leaves one unfinished. -/
theorem isSome_step_of_nothing_settled
    {pending? : Option Pending} {byte : UInt8} (nothing : (step pending? byte).1 = []) :
    (step pending? byte).2.isSome = true := by
  cases pending? with
  | none =>
      rcases settled_ne_nil_or_pending? (start byte) with settled | unfinished
      · exact absurd nothing settled
      · exact unfinished
  | some pending =>
      simp only [step] at nothing ⊢
      by_cases accepted : pending.accepts byte = true
      · rw [if_pos accepted] at nothing ⊢
        rcases settled_ne_nil_or_pending? (pending.continued byte) with settled | unfinished
        · exact absurd nothing settled
        · exact unfinished
      · rw [if_neg accepted] at nothing
        cases nothing

theorem decodeFrom_cons (pending? : Option Pending) (byte : UInt8) (rest : List UInt8) :
    decodeFrom pending? (byte :: rest) =
      (step pending? byte).1 ++ decodeFrom (step pending? byte).2 rest :=
  rfl

theorem decodeFrom_of_isSome_nil
    {pending? : Option Pending} (unfinished : pending?.isSome = true) :
    decodeFrom pending? [] = [replacement] :=
  if_pos unfinished

/-- Bytes are never read as nothing. -/
theorem decodeFrom_ne_nil
    {pending? : Option Pending} {bytes : List UInt8}
    (something : pending?.isSome = true ∨ bytes ≠ []) :
    decodeFrom pending? bytes ≠ [] := by
  induction bytes generalizing pending? with
  | nil =>
      rcases something with unfinished | nonempty
      · rw [decodeFrom_of_isSome_nil unfinished]
        exact List.cons_ne_nil _ _
      · exact absurd rfl nonempty
  | cons byte rest inductionHypothesis =>
      rw [decodeFrom_cons]
      by_cases nothing : (step pending? byte).1 = []
      · have further := inductionHypothesis (.inl (isSome_step_of_nothing_settled nothing))
        simp [nothing, further]
      · simp [nothing]

/-- Bytes that are read as one character and are cut short are read as one replacement: none of
them has settled a character yet, since those behind the cut would settle another. -/
theorem decodeFrom_of_append_eq_singleton
    {pending? : Option Pending} {front back : List UInt8} {character : Char}
    (something : pending?.isSome = true ∨ front ≠ []) (cut : back ≠ [])
    (whole : decodeFrom pending? (front ++ back) = [character]) :
    decodeFrom pending? front = [replacement] := by
  induction front generalizing pending? with
  | nil =>
      rcases something with unfinished | nonempty
      · exact decodeFrom_of_isSome_nil unfinished
      · exact absurd rfl nonempty
  | cons byte rest inductionHypothesis =>
      have remaining : rest ++ back ≠ [] := by simp [cut]
      rw [List.cons_append, decodeFrom_cons, List.append_eq_singleton_iff] at whole
      rcases whole with ⟨nothing, further⟩ | ⟨_, exhausted⟩
      · have unfinished := isSome_step_of_nothing_settled nothing
        rw [decodeFrom_cons, nothing, List.nil_append]
        exact inductionHypothesis (.inl unfinished) further
      · exact absurd exhausted (decodeFrom_ne_nil (.inr remaining))

theorem decode_take_utf8EncodeChar
    {character : Char} {cut : Nat} (positive : 0 < cut)
    (short : cut < (String.utf8EncodeChar character).length) :
    decode ((String.utf8EncodeChar character).take cut) = [replacement] := by
  have front : (String.utf8EncodeChar character).take cut ≠ [] := by
    apply List.ne_nil_of_length_pos
    rw [List.length_take]
    omega
  have back : (String.utf8EncodeChar character).drop cut ≠ [] := by
    apply List.ne_nil_of_length_pos
    rw [List.length_drop]
    omega
  have whole := decodeFrom_utf8EncodeChar character []
  rw [List.append_nil, ← List.take_append_drop cut (String.utf8EncodeChar character)] at whole
  exact decodeFrom_of_append_eq_singleton (.inr front) back whole

/-! ## Where a cut falls -/

theorem encode_append (initial final : List Char) :
    encode (initial ++ final) = encode initial ++ encode final :=
  List.flatMap_append

theorem encode_cons (character : Char) (rest : List Char) :
    encode (character :: rest) = String.utf8EncodeChar character ++ encode rest :=
  List.flatMap_cons

/-- A cut behind so many bytes of a text separates bytes of one character. -/
def FallsInside (cut : Nat) (characters : List Char) : Prop :=
  ∃ before character after, characters = before ++ character :: after ∧
    (encode before).length < cut ∧
    cut < (encode before).length + (String.utf8EncodeChar character).length

/-- The longest run of characters at the start of a text that takes up no more than so many bytes. -/
structure LongestWithin (cut : Nat) (characters whole : List Char) : Prop where
  leading : whole <+: characters
  fits : (encode whole).length ≤ cut
  longest : ∀ other, other <+: characters → (encode other).length ≤ cut → other <+: whole

/-- A run of characters that fits is the longest if it does not fit with the next one too. -/
theorem LongestWithin.of_next
    {cut : Nat} {whole rest : List Char} (fits : (encode whole).length ≤ cut)
    (next : ∀ character after, rest = character :: after →
      cut < (encode whole).length + (String.utf8EncodeChar character).length) :
    LongestWithin cut (whole ++ rest) whole := by
  refine ⟨List.prefix_append whole rest, fits, ?_⟩
  intro other leading otherFits
  rcases List.prefix_or_prefix_of_prefix leading (List.prefix_append whole rest) with
    shorter | ⟨extra, rfl⟩
  · exact shorter
  · cases extra with
    | nil => simp
    | cons character others =>
        rcases leading with ⟨after, equality⟩
        rw [List.append_assoc, List.append_cancel_left_eq, List.cons_append] at equality
        have beyond := next character _ equality.symm
        rw [encode_append, encode_cons, List.length_append, List.length_append] at otherFits
        omega

/-- A cut that does not fall inside a character falls between two, or at an end. -/
theorem exists_whole_or_fallsInside
    {cut : Nat} {characters : List Char} (within : cut ≤ (encode characters).length) :
    (∃ whole rest, characters = whole ++ rest ∧ (encode whole).length = cut) ∨
      FallsInside cut characters := by
  induction characters generalizing cut with
  | nil => exact .inl ⟨[], [], rfl, (Nat.le_zero.mp within).symm⟩
  | cons character rest inductionHypothesis =>
      rw [encode_cons, List.length_append] at within
      by_cases whole : (String.utf8EncodeChar character).length ≤ cut
      · have further : cut - (String.utf8EncodeChar character).length ≤ (encode rest).length := by
          omega
        rcases inductionHypothesis further with
          ⟨front, back, split, exact⟩ | ⟨before, other, after, split, above, below⟩
        · left
          refine ⟨character :: front, back, by rw [split, List.cons_append], ?_⟩
          rw [encode_cons, List.length_append]
          omega
        · right
          refine ⟨character :: before, other, after, by rw [split, List.cons_append], ?_, ?_⟩
          · rw [encode_cons, List.length_append]
            omega
          · rw [encode_cons, List.length_append]
            omega
      · by_cases nothing : cut = 0
        · exact .inl ⟨[], character :: rest, rfl, nothing.symm⟩
        · refine .inr ⟨[], character, rest, rfl, ?_, ?_⟩
          · exact Nat.pos_of_ne_zero nothing
          · rw [encode, List.flatMap_nil, List.length_nil]
            omega

theorem decode_take_of_inside
    {cut : Nat} {before after : List Char} {character : Char}
    (above : (encode before).length < cut)
    (below : cut < (encode before).length + (String.utf8EncodeChar character).length) :
    decode ((encode (before ++ character :: after)).take cut) = before ++ [replacement] := by
  have part : cut = (encode before).length + (cut - (encode before).length) := by omega
  have positive : 0 < cut - (encode before).length := by omega
  have short : cut - (encode before).length < (String.utf8EncodeChar character).length := by omega
  rw [encode_append, encode_cons, part, List.take_length_add_append,
    List.take_append_of_le_length (Nat.le_of_lt short), decode_encode_append,
    decode_take_utf8EncodeChar positive short]

theorem longestWithin_of_inside
    {cut : Nat} {before after : List Char} {character : Char}
    (above : (encode before).length < cut)
    (below : cut < (encode before).length + (String.utf8EncodeChar character).length) :
    LongestWithin cut (before ++ character :: after) before := by
  apply LongestWithin.of_next (Nat.le_of_lt above)
  intro next others equality
  rw [List.cons.injEq] at equality
  rw [← equality.1]
  exact below

theorem longestWithin_of_exact
    {cut : Nat} {whole rest : List Char} (exact : (encode whole).length = cut) :
    LongestWithin cut (whole ++ rest) whole := by
  apply LongestWithin.of_next (Nat.le_of_eq exact)
  intro next others _
  have nonempty : 0 < (String.utf8EncodeChar next).length :=
    List.length_pos_iff.mpr String.utf8EncodeChar_ne_nil
  omega

/-- A text that is cut off is read as the characters that are left whole; what is left of one more
is read as one replacement. -/
theorem decode_take_encode
    {cut : Nat} {characters : List Char} (within : cut ≤ (encode characters).length) :
    ∃ whole, LongestWithin cut characters whole ∧
      (FallsInside cut characters →
        decode ((encode characters).take cut) = whole ++ [replacement]) ∧
      (¬FallsInside cut characters → decode ((encode characters).take cut) = whole) := by
  by_cases inside : FallsInside cut characters
  · have cutInside := inside
    rcases inside with ⟨before, character, after, rfl, above, below⟩
    exact ⟨before, longestWithin_of_inside above below,
      fun _ => decode_take_of_inside above below, fun outside => absurd cutInside outside⟩
  · rcases (exists_whole_or_fallsInside within).resolve_right inside with ⟨whole, rest, rfl, exact⟩
    refine ⟨whole, longestWithin_of_exact exact, fun cutInside => absurd cutInside inside, ?_⟩
    intro _
    rw [encode_append, ← exact, List.take_left, decode_encode]

/-! ## Bytes that begin no character -/

theorem decode_replicate_of_invalid
    {byte : UInt8} (invalid : start byte = .invalid) (count : Nat) :
    decode (List.replicate count byte) = List.replicate count replacement := by
  induction count with
  | zero => rfl
  | succ count inductionHypothesis =>
      rw [List.replicate_succ, decode, decodeFrom_of_start_invalid invalid, List.replicate_succ]
      exact congrArg (replacement :: ·) inductionHypothesis

/-- The text that is read from bytes of which none begins a character is three times as long. -/
theorem length_bytes_text_of_invalid
    {byte : UInt8} (invalid : start byte = .invalid) (count : Nat) :
    (bytes (text (List.replicate count byte))).length = count * 3 := by
  have three : (String.utf8EncodeChar replacement).length = 3 := by decide
  rw [bytes, text, String.toList_ofList, decode_replicate_of_invalid invalid, encode,
    List.length_flatMap, List.map_replicate, List.sum_replicate_nat, three]

end BinaryImage.Text.Utf8
