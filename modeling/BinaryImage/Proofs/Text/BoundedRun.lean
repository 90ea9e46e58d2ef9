import BinaryImage.Text.Bounded

/-!
# Runs of bounded output

Texts are formatted, one after the other, into the same buffer. Main statement: a text is answered
with its length, however it comes in pieces, as long as this is a word, and otherwise its sum is at
fault; and every byte of the buffer is what the last text that reached it left there, where a text
reaches as far as it fits and its terminator one byte further. No access is out of bounds.
-/

namespace BinaryImage.Text

open Checked

/-! ## Pieces -/

namespace Piece

theorem bytes_append_texts (contents : List String) (rest : List Piece) :
    bytes (contents.map text ++ rest) = contents.flatMap Utf8.bytes ++ bytes rest := by
  induction contents with
  | nil => rfl
  | cons first others inductionHypothesis =>
      rw [List.map_cons, List.cons_append, bytes, inductionHypothesis, List.flatMap_cons,
        List.append_assoc]

theorem bytes_map_text (contents : List String) :
    bytes (contents.map text) = contents.flatMap Utf8.bytes := by
  have whole := bytes_append_texts contents []
  rwa [List.append_nil, bytes, List.append_nil] at whole

/-- A failure ends the text before it, whatever would follow. -/
theorem bytes_append_failure (contents : List String) (rest : List Piece) :
    bytes (contents.map text ++ failure :: rest) = contents.flatMap Utf8.bytes := by
  rw [bytes_append_texts, bytes, List.append_nil]

end Piece

/-! ## What a text leaves in a buffer -/

/-- How much of a text fits a buffer of a given capacity, before the terminator. -/
def reach (capacity : Nat) (content : List UInt8) : Nat := min content.length (capacity - 1)

/-- The buffer with as much of a text at its start as fits, and the terminator behind it. -/
def imprint (buffer content : List UInt8) : List UInt8 :=
  if buffer.isEmpty then buffer
  else content.take (reach buffer.length content) ++
    0 :: buffer.drop (reach buffer.length content + 1)

theorem reach_le (capacity : Nat) (content : List UInt8) :
    reach capacity content ≤ content.length :=
  Nat.min_le_left _ _

theorem reach_lt {buffer : List UInt8} (nonempty : buffer ≠ []) (content : List UInt8) :
    reach buffer.length content < buffer.length := by
  have positive := List.length_pos_iff.mpr nonempty
  rw [reach]
  omega

theorem length_take_reach (capacity : Nat) (content : List UInt8) :
    (content.take (reach capacity content)).length = reach capacity content := by
  rw [List.length_take, Nat.min_eq_left (reach_le capacity content)]

theorem imprint_nil (content : List UInt8) : imprint [] content = [] := rfl

theorem imprint_of_ne_nil {buffer : List UInt8} (nonempty : buffer ≠ []) (content : List UInt8) :
    imprint buffer content =
      content.take (reach buffer.length content) ++
        0 :: buffer.drop (reach buffer.length content + 1) :=
  if_neg (mt List.isEmpty_iff.mp nonempty)

theorem length_imprint (buffer content : List UInt8) :
    (imprint buffer content).length = buffer.length := by
  by_cases empty : buffer = []
  · rw [empty, imprint_nil]
  · have inside := reach_lt empty content
    rw [imprint_of_ne_nil empty, List.length_append, length_take_reach, List.length_cons,
      List.length_drop]
    omega

theorem imprint_of_fits {buffer content : List UInt8} (fits : content.length < buffer.length) :
    imprint buffer content = content ++ 0 :: buffer.drop (content.length + 1) := by
  have nonempty : buffer ≠ [] := List.ne_nil_of_length_pos (Nat.zero_lt_of_lt fits)
  have whole : reach buffer.length content = content.length := by
    rw [reach]
    omega
  rw [imprint_of_ne_nil nonempty, whole, List.take_length]

theorem imprint_of_overflows
    {buffer content : List UInt8} (nonempty : buffer ≠ [])
    (overflows : buffer.length ≤ content.length) :
    imprint buffer content = content.take (buffer.length - 1) ++ [0] := by
  have positive := List.length_pos_iff.mpr nonempty
  have cut : reach buffer.length content = buffer.length - 1 := by
    rw [reach]
    omega
  rw [imprint_of_ne_nil nonempty, cut, Nat.sub_add_cancel positive, List.drop_length]

/-- A text leaves its bytes as far as it reaches, then the terminator, and nothing behind it. -/
theorem getElem?_imprint
    {buffer : List UInt8} {position : Nat} (inside : position < buffer.length)
    (content : List UInt8) :
    (imprint buffer content)[position]? =
      if position < reach buffer.length content then content[position]?
      else if position = reach buffer.length content then some 0
      else buffer[position]? := by
  have nonempty : buffer ≠ [] := List.ne_nil_of_length_pos (Nat.zero_lt_of_lt inside)
  have taken := length_take_reach buffer.length content
  rw [imprint_of_ne_nil nonempty]
  by_cases within : position < reach buffer.length content
  · rw [if_pos within, List.getElem?_append_left (by omega), List.getElem?_take_of_lt within]
  · rw [if_neg within, List.getElem?_append_right (by omega), taken]
    by_cases final : position = reach buffer.length content
    · rw [if_pos final, final, Nat.sub_self]
      rfl
    · obtain ⟨beyond, rfl⟩ : ∃ beyond, position = reach buffer.length content + 1 + beyond :=
        ⟨position - (reach buffer.length content + 1), by omega⟩
      rw [if_neg final, Nat.add_assoc, Nat.add_sub_cancel_left, Nat.add_comm 1 beyond,
        List.getElem?_cons_succ, List.getElem?_drop, Nat.add_assoc, Nat.add_comm 1 beyond]

/-! ## The writer behind a text -/

namespace BoundedWriter

/-- The writer that was given a text, and has taken as much of it as fits into a buffer; behind
that, the buffer is as it was. -/
def after (buffer content : List UInt8) : BoundedWriter where
  buffer :=
    content.take (reach buffer.length content) ++ buffer.drop (reach buffer.length content)
  written := reach buffer.length content
  total := UInt64.ofNat content.length

variable {buffer content bytes : List UInt8}

theorem after_nil (buffer : List UInt8) : after buffer [] = atStart buffer := by
  have nothing : reach buffer.length [] = 0 := Nat.zero_min _
  rw [after, nothing]
  rfl

theorem length_buffer_after (buffer content : List UInt8) :
    (after buffer content).buffer.length = buffer.length := by
  have within : reach buffer.length content ≤ buffer.length :=
    Nat.le_trans (Nat.min_le_right _ _) (Nat.sub_le _ _)
  rw [after, List.length_append, length_take_reach, List.length_drop]
  exact Nat.add_sub_of_le within

theorem room_after (buffer content : List UInt8) :
    (after buffer content).room = buffer.length - 1 - reach buffer.length content := by
  rw [room, length_buffer_after]
  rfl

theorem reach_append (capacity : Nat) (content bytes : List UInt8) :
    reach capacity (content ++ bytes) =
      reach capacity content + min (capacity - 1 - reach capacity content) bytes.length := by
  simp only [reach, List.length_append]
  omega

/-- What was taken so far stays, and more is taken exactly where there is room. -/
theorem buffer_after_append (buffer content bytes : List UInt8) :
    (after buffer (content ++ bytes)).buffer =
      (after buffer content).buffer.take (reach buffer.length content) ++
        bytes.take (min (buffer.length - 1 - reach buffer.length content) bytes.length) ++
        (after buffer content).buffer.drop (reach buffer.length (content ++ bytes)) := by
  have taken := length_take_reach buffer.length content
  have initial : (after buffer content).buffer.take (reach buffer.length content) =
      content.take (reach buffer.length content) := by
    rw [after, List.take_left' taken]
  have final : (after buffer content).buffer.drop (reach buffer.length (content ++ bytes)) =
      buffer.drop (reach buffer.length (content ++ bytes)) := by
    rw [after, reach_append, ← List.drop_drop, List.drop_left' taken, List.drop_drop]
  rw [initial, final, after, reach_append, List.take_append]
  -- Either the text so far was taken in full, or there is no room for more of it.
  rcases Nat.lt_or_ge content.length buffer.length with fits | overflows
  · have everything : reach buffer.length content = content.length := by
      rw [reach]
      omega
    rw [everything, List.take_length, List.take_of_length_le (Nat.le_add_right _ _),
      Nat.add_sub_cancel_left]
  · have full : buffer.length - 1 - reach buffer.length content = 0 := by
      rw [reach]
      omega
    have nothing : reach buffer.length content - content.length = 0 :=
      Nat.sub_eq_zero_of_le (reach_le buffer.length content)
    rw [full, Nat.zero_min, Nat.add_zero, nothing]

/-- No access is out of bounds, so that the sum alone decides. -/
theorem write_after_eq_count (buffer content bytes : List UInt8) :
    (after buffer content).write bytes = (do
      let count ← exactWord bytes.length
      let total ← exactAdd (UInt64.ofNat content.length) count
      return { after buffer (content ++ bytes) with total := total }) := by
  have room := room_after buffer content
  have written : (after buffer content).written = reach buffer.length content := rfl
  have length := length_buffer_after buffer content
  have total : (after buffer content).total = UInt64.ofNat content.length := rfl
  have inside : reach buffer.length content +
      min (buffer.length - 1 - reach buffer.length content) bytes.length ≤
        (after buffer content).buffer.length := by
    rw [length, reach]
    omega
  rw [write, room, written, total, slice_eq_pure (Nat.le_add_right _ _) inside, pure_bind,
    slice_eq_pure (Nat.zero_le _) (Nat.min_le_right _ _), pure_bind, if_pos, ← reach_append,
    List.drop_zero, Nat.sub_zero, ← buffer_after_append]
  · rfl
  · simp only [List.length_take, List.length_drop]
    omega

theorem write_after
    (counted : content.length < UInt64.size) (bytes : List UInt8) :
    (after buffer content).write bytes =
      if (content ++ bytes).length < UInt64.size then pure (after buffer (content ++ bytes))
      else fault := by
  have earlier : (UInt64.ofNat content.length).toNat = content.length :=
    UInt64.toNat_ofNat_of_lt' counted
  rw [write_after_eq_count]
  by_cases short : bytes.length < UInt64.size
  · have further : (UInt64.ofNat bytes.length).toNat = bytes.length :=
      UInt64.toNat_ofNat_of_lt' short
    rw [exactWord_eq_pure short, pure_bind, exactAdd, earlier, further, List.length_append]
    split
    · rw [pure_bind, ← UInt64.ofNat_add, ← List.length_append]
      rfl
    · rfl
  · have long : ¬(content ++ bytes).length < UInt64.size := by
      rw [List.length_append]
      omega
    rw [exactWord_eq_fault (Nat.le_of_not_lt short), fault_bind, if_neg long]

/-- Of the pieces, only the text that they are matters. -/
theorem writePieces_after
    (counted : content.length < UInt64.size) (pieces : List Piece) :
    (after buffer content).writePieces pieces =
      if (content ++ Piece.bytes pieces).length < UInt64.size then
        pure (after buffer (content ++ Piece.bytes pieces))
      else fault := by
  fun_induction Piece.bytes pieces generalizing content with
  | case1 =>
      rw [writePieces, List.append_nil, if_pos counted]
  | case2 rest =>
      rw [writePieces, List.append_nil, if_pos counted]
  | case3 text rest inductionHypothesis =>
      rw [writePieces, write_after counted, ← List.append_assoc]
      by_cases short : (content ++ Utf8.bytes text).length < UInt64.size
      · rw [if_pos short, pure_bind]
        exact inductionHypothesis short
      · have long :
            ¬(content ++ Utf8.bytes text ++ Piece.bytes rest).length < UInt64.size := by
          rw [List.length_append]
          omega
        rw [if_neg short, fault_bind, if_neg long]

theorem terminated_after (buffer content : List UInt8) :
    (after buffer content).terminated = pure (imprint buffer content) := by
  have length := length_buffer_after buffer content
  have written : (after buffer content).written = reach buffer.length content := rfl
  by_cases empty : buffer = []
  · have nothing : (after buffer content).buffer = [] := by
      rw [← List.length_eq_zero_iff, length, empty]
      rfl
    rw [terminated, nothing, empty, imprint_nil]
    rfl
  · have inside := reach_lt empty content
    have taken := length_take_reach buffer.length content
    have occupied : ¬(after buffer content).buffer.isEmpty = true := by
      rw [List.isEmpty_iff, ← List.length_eq_zero_iff, length]
      omega
    rw [terminated, if_neg occupied, written, length, if_pos inside,
      List.set_eq_take_append_cons_drop, length, if_pos inside, after, List.take_left' taken,
      ← List.drop_drop, List.drop_left' taken, List.drop_drop, imprint_of_ne_nil empty]

end BoundedWriter

open BoundedWriter Piece

/-! ## One text -/

/-- The length of a text, and a buffer with the text at its start. -/
def Written.ofText (buffer content : List UInt8) : Written :=
  ⟨UInt64.ofNat content.length, imprint buffer content⟩

theorem Written.toNat_length_ofText
    {content : List UInt8} (counted : content.length < UInt64.size) (buffer : List UInt8) :
    (ofText buffer content).length.toNat = content.length :=
  UInt64.toNat_ofNat_of_lt' counted

theorem formatBounded_eq (buffer : List UInt8) (pieces : List Piece) :
    formatBounded buffer pieces =
      if (bytes pieces).length < UInt64.size then pure (.ofText buffer (bytes pieces))
      else fault := by
  have nothingCounted : ([] : List UInt8).length < UInt64.size := by decide
  rw [formatBounded, ← after_nil, writePieces_after nothingCounted, List.nil_append]
  split
  · rw [pure_bind, terminated_after, pure_bind]
    rfl
  · rfl

theorem formatBounded_of_counted
    {pieces : List Piece} (counted : (bytes pieces).length < UInt64.size) (buffer : List UInt8) :
    formatBounded buffer pieces = pure (.ofText buffer (bytes pieces)) := by
  rw [formatBounded_eq, if_pos counted]

theorem formatBounded_of_uncounted
    {pieces : List Piece} (uncounted : UInt64.size ≤ (bytes pieces).length)
    (buffer : List UInt8) : formatBounded buffer pieces = fault := by
  rw [formatBounded_eq, if_neg (Nat.not_lt.mpr uncounted)]

/-- How a text comes in pieces does not matter. -/
theorem formatBounded_congr
    {pieces other : List Piece} (sameText : bytes other = bytes pieces) (buffer : List UInt8) :
    formatBounded buffer other = formatBounded buffer pieces := by
  rw [formatBounded_eq, formatBounded_eq, sameText]

/-! ## Runs -/

/-- The buffer behind a run that left it so and so each time. -/
def finalBuffer (buffer : List UInt8) (run : List Written) : List UInt8 :=
  (run.map Written.buffer).getLastD buffer

theorem formatRun_cons_of_counted
    {pieces : List Piece} (counted : (bytes pieces).length < UInt64.size)
    {rest : List (List Piece)} {buffer : List UInt8} {others : List Written}
    (further : formatRun (imprint buffer (bytes pieces)) rest = pure others) :
    formatRun buffer (pieces :: rest) = pure (.ofText buffer (bytes pieces) :: others) := by
  have sameBuffer : (Written.ofText buffer (bytes pieces)).buffer =
      imprint buffer (bytes pieces) := rfl
  rw [formatRun, formatBounded_of_counted counted, pure_bind, sameBuffer, further, pure_bind]

/-- Texts of which the lengths are words are answered with these, in turn, and each leaves its
imprint on what the earlier ones left. -/
theorem exists_formatRun_eq_pure
    {calls : List (List Piece)}
    (counted : ∀ pieces ∈ calls, (bytes pieces).length < UInt64.size) (buffer : List UInt8) :
    ∃ run, formatRun buffer calls = pure run ∧
      run.map (fun written => written.length.toNat) =
        calls.map (fun pieces => (bytes pieces).length) ∧
      (∀ written ∈ run, written.buffer.length = buffer.length) ∧
      finalBuffer buffer run = (calls.map bytes).foldl imprint buffer := by
  induction calls generalizing buffer with
  | nil => exact ⟨[], rfl, rfl, List.forall_mem_nil _, rfl⟩
  | cons pieces rest inductionHypothesis =>
      obtain ⟨first, others⟩ := List.forall_mem_cons.mp counted
      obtain ⟨run, formatted, lengths, sizes, final⟩ :=
        inductionHypothesis others (imprint buffer (bytes pieces))
      refine ⟨_, formatRun_cons_of_counted first formatted, ?_, ?_, ?_⟩
      · rw [List.map_cons, List.map_cons, lengths, Written.toNat_length_ofText first]
      · rw [List.forall_mem_cons]
        refine ⟨length_imprint buffer (bytes pieces), ?_⟩
        intro written member
        rw [sizes written member, length_imprint]
      · rw [finalBuffer, List.map_cons, List.getLastD_cons]
        exact final

theorem formatRun_of_uncounted
    {calls : List (List Piece)} {pieces : List Piece} (member : pieces ∈ calls)
    (uncounted : UInt64.size ≤ (bytes pieces).length) (buffer : List UInt8) :
    formatRun buffer calls = fault := by
  induction calls generalizing buffer with
  | nil => cases member
  | cons first rest inductionHypothesis =>
      rw [formatRun, formatBounded_eq]
      split
      · rename_i counted
        have later : pieces ∈ rest := by
          rcases List.mem_cons.mp member with same | later
          · rw [same] at uncounted
            exact absurd counted (Nat.not_lt.mpr uncounted)
          · exact later
        rw [pure_bind, inductionHypothesis later, fault_bind]
      · rfl

theorem formatRun_congr
    {calls others : List (List Piece)} (sameTexts : others.map bytes = calls.map bytes)
    (buffer : List UInt8) : formatRun buffer others = formatRun buffer calls := by
  induction calls generalizing others buffer with
  | nil =>
      rw [List.map_nil, List.map_eq_nil_iff] at sameTexts
      rw [sameTexts]
  | cons pieces rest inductionHypothesis =>
      obtain ⟨other, otherRest, rfl, sameText, sameRest⟩ := List.map_eq_cons_iff.mp sameTexts
      rw [formatRun, formatRun, formatBounded_congr sameText]
      exact bind_congr fun written => by rw [inductionHypothesis sameRest]

/-! ## Bytes behind a run -/

theorem length_foldl_imprint (buffer : List UInt8) (contents : List (List UInt8)) :
    (contents.foldl imprint buffer).length = buffer.length := by
  induction contents generalizing buffer with
  | nil => rfl
  | cons content rest inductionHypothesis =>
      rw [List.foldl_cons, inductionHypothesis, length_imprint]

/-- Texts change no byte that none of them reaches. -/
theorem getElem?_foldl_imprint_of_reach_lt
    {buffer : List UInt8} {position : Nat} (inside : position < buffer.length)
    {contents : List (List UInt8)}
    (beyond : ∀ content ∈ contents, reach buffer.length content < position) :
    (contents.foldl imprint buffer)[position]? = buffer[position]? := by
  induction contents generalizing buffer with
  | nil => rfl
  | cons content rest inductionHypothesis =>
      obtain ⟨beyondFirst, beyondRest⟩ := List.forall_mem_cons.mp beyond
      have sameLength := length_imprint buffer content
      rw [List.foldl_cons, inductionHypothesis (by rwa [sameLength]) (by rwa [sameLength]),
        getElem?_imprint inside, if_neg (by omega), if_neg (by omega)]

/-- The last text that reaches a byte, with its terminator, settles it. -/
theorem getElem?_foldl_imprint_of_le_reach
    {buffer : List UInt8} {position : Nat} (inside : position < buffer.length)
    {before after : List (List UInt8)} {content : List UInt8}
    (reached : position ≤ reach buffer.length content)
    (beyond : ∀ later ∈ after, reach buffer.length later < position) :
    ((before ++ content :: after).foldl imprint buffer)[position]? =
      if position < reach buffer.length content then content[position]? else some 0 := by
  have sameLength := length_foldl_imprint buffer before
  have lengthAfter := length_imprint (before.foldl imprint buffer) content
  rw [sameLength] at lengthAfter
  rw [List.foldl_append, List.foldl_cons,
    getElem?_foldl_imprint_of_reach_lt (by rwa [lengthAfter]) (by rwa [lengthAfter]),
    getElem?_imprint (by rwa [sameLength]), sameLength]
  split
  · rfl
  · rw [if_pos (by omega)]

/-- A run of texts of which the lengths are words is not at fault, and so accesses nothing out of
bounds. Every answer is the length of its whole text: of its pieces in one, up to the first that
fails, however they are cut. The buffer keeps its size, even if that is zero. A byte of it is what
the last text that reached it left there, the terminator if the text reached it just so, and what
it was before the run if there was no such text. -/
theorem formatRun_bounded
    (buffer : List UInt8) (calls : List (List Piece))
    (counted : ∀ pieces ∈ calls, (bytes pieces).length < UInt64.size) :
    ∃ run, formatRun buffer calls = pure run ∧
      run.map (fun written => written.length.toNat) =
        calls.map (fun pieces => (bytes pieces).length) ∧
      (∀ (contents : List String) (rest : List Piece),
        bytes (contents.map .text) = contents.flatMap Utf8.bytes ∧
          bytes (contents.map .text ++ .failure :: rest) = contents.flatMap Utf8.bytes) ∧
      (∀ others : List (List Piece), others.map bytes = calls.map bytes →
        formatRun buffer others = pure run) ∧
      (∀ written ∈ run, written.buffer.length = buffer.length) ∧
      ∀ position < buffer.length,
        (∀ before pieces after, calls = before ++ pieces :: after →
          position ≤ reach buffer.length (bytes pieces) →
          (∀ later ∈ after, reach buffer.length (bytes later) < position) →
          (finalBuffer buffer run)[position]? =
            if position < reach buffer.length (bytes pieces) then (bytes pieces)[position]?
            else some 0) ∧
        ((∀ pieces ∈ calls, reach buffer.length (bytes pieces) < position) →
          (finalBuffer buffer run)[position]? = buffer[position]?) := by
  obtain ⟨run, formatted, lengths, sizes, final⟩ := exists_formatRun_eq_pure counted buffer
  refine ⟨run, formatted, lengths, ?_, ?_, sizes, ?_⟩
  · intro contents rest
    exact ⟨bytes_map_text contents, bytes_append_failure contents rest⟩
  · intro others sameTexts
    rw [formatRun_congr sameTexts, formatted]
  · intro position inside
    rw [final]
    constructor
    · intro before pieces after equality reached beyond
      rw [equality, List.map_append, List.map_cons]
      exact getElem?_foldl_imprint_of_le_reach inside reached (List.forall_mem_map.mpr beyond)
    · intro beyond
      exact getElem?_foldl_imprint_of_reach_lt inside (List.forall_mem_map.mpr beyond)

/-- A first text, cut short by a failure, and a shorter second one. -/
def shrinkingCalls : List (List Piece) :=
  [[.text "a", .text "b", .failure, .text "c"], [.text "é"], [.text "x"]]

/-- The terminator of the second text stays behind that of the third; the last byte is as it was. -/
theorem formatRun_bounded_shrinkingCalls :
    ∃ run, formatRun [7, 7, 7, 7] shrinkingCalls = pure run ∧
      run.map (fun written => written.length.toNat) = [2, 2, 1] ∧
      (finalBuffer [7, 7, 7, 7] run)[0]? = some 0x78 ∧
      (finalBuffer [7, 7, 7, 7] run)[1]? = some 0 ∧
      (finalBuffer [7, 7, 7, 7] run)[2]? = some 0 ∧
      (finalBuffer [7, 7, 7, 7] run)[3]? = some 7 := by
  obtain ⟨run, formatted, lengths, _, _, _, settled⟩ :=
    formatRun_bounded [7, 7, 7, 7] shrinkingCalls (by decide)
  have earlier : ([[.text "a", .text "b", .failure, .text "c"], [.text "é"]] : List (List Piece))
      ++ [.text "x"] :: [] = shrinkingCalls := rfl
  refine ⟨run, formatted, lengths, ?_, ?_, ?_, ?_⟩
  · exact (settled 0 (by decide)).1 _ _ _ earlier.symm (by decide) (by decide)
  · exact (settled 1 (by decide)).1 _ _ _ earlier.symm (by decide) (by decide)
  · exact (settled 2 (by decide)).1 [_] [.text "é"] [[.text "x"]] rfl (by decide) (by decide)
  · exact (settled 3 (by decide)).2 (by decide)

/-! ## Texts that are too long to count -/

/-- A text that comes as copies of one piece. -/
def copies (count length : Nat) : List Piece :=
  List.replicate count (.text (String.ofList (List.replicate length 'x')))

theorem bytes_ofList_replicate (length : Nat) :
    Utf8.bytes (String.ofList (List.replicate length 'x')) = List.replicate length 0x78 := by
  have letter : String.utf8EncodeChar 'x' = [0x78] := by decide
  rw [Utf8.bytes, String.toList_ofList, Utf8.encode]
  induction length with
  | zero => rfl
  | succ length inductionHypothesis =>
      rw [List.replicate_succ, List.flatMap_cons, letter, inductionHypothesis,
        List.replicate_succ, List.singleton_append]

theorem bytes_copies (count length : Nat) :
    bytes (copies count length) = List.replicate (count * length) 0x78 := by
  induction count with
  | zero => rw [Nat.zero_mul]; rfl
  | succ count inductionHypothesis =>
      rw [copies] at inductionHypothesis
      rw [copies, List.replicate_succ, bytes, inductionHypothesis, bytes_ofList_replicate,
        List.replicate_append_replicate, Nat.succ_mul, Nat.add_comm]

theorem length_bytes_copies (count length : Nat) :
    (bytes (copies count length)).length = count * length := by
  rw [bytes_copies, List.length_replicate]

/-- A piece of four gibibytes, written so many times that the sum of the bytes is no word: the run
has no answer, and no word would be the right one. -/
theorem formatRun_uncounted :
    (bytes (copies 4294967296 4294967296)).length = UInt64.size ∧
      formatRun [] [copies 4294967296 4294967296] = fault ∧
      ∀ answer : UInt64, answer.toNat ≠ (bytes (copies 4294967296 4294967296)).length := by
  have length : (bytes (copies 4294967296 4294967296)).length = UInt64.size :=
    length_bytes_copies 4294967296 4294967296
  refine ⟨length, ?_, ?_⟩
  · exact formatRun_of_uncounted (List.mem_singleton_self _) (Nat.le_of_eq length.symm) []
  · intro answer
    rw [length]
    exact Nat.ne_of_lt answer.toNat_lt

end BinaryImage.Text
