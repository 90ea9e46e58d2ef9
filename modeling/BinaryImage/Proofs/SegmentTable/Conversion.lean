import BinaryImage.Proofs.ByteOrder.InPlace
import Mathlib.Data.List.Pairwise

/-!
# Conversion of stored tables

The fields of a table follow each other without gaps, so each of them can be converted where it
stands without touching another one. Main statement: converting all fields of a stored table in
place, in whichever order they are taken, yields the same table stored in the other byte order.
-/

namespace BinaryImage

open Checked

namespace Decoder

/-! ## The order of conversions -/

/-- Steps that may be taken in either order. -/
def Step.Commute (left right : Step) : Prop :=
  ∀ decoder : Decoder, (decoder.next left).next right = (decoder.next right).next left

instance : Std.Symm Step.Commute :=
  ⟨fun _ _ commute decoder => (commute decoder).symm⟩

/-- Slices that do not overlap do not interfere, whether they lie in the buffer or not. -/
theorem commute_swapWithin {start stop nextStart nextStop : Nat} (apart : stop ≤ nextStart) :
    Step.Commute (.swapWithin start stop) (.swapWithin nextStart nextStop) := by
  intro decoder
  have sameLength := length_data_next decoder (.swapWithin start stop)
  have nextSameLength := length_data_next decoder (.swapWithin nextStart nextStop)
  by_cases inside : start ≤ stop ∧ stop ≤ decoder.data.length
  · have stillInside := inside
    rw [← nextSameLength] at stillInside
    rw [next_swapWithin_of_inside stillInside]
    by_cases nextInside : nextStart ≤ nextStop ∧ nextStop ≤ decoder.data.length
    · have nextStillInside := nextInside
      rw [← sameLength] at nextStillInside
      rw [next_swapWithin_of_inside nextStillInside, next_swapWithin_of_inside inside,
        next_swapWithin_of_inside nextInside]
      simp only [ByteOrder.swapWithin_comm inside.1 apart nextInside.1 nextInside.2]
    · have nextStillOutside := nextInside
      rw [← sameLength] at nextStillOutside
      rw [next_swapWithin_of_not_inside nextStillOutside, next_swapWithin_of_inside inside,
        next_swapWithin_of_not_inside nextInside]
  · have stillOutside := inside
    rw [← nextSameLength] at stillOutside
    rw [next_swapWithin_of_not_inside stillOutside, next_swapWithin_of_not_inside inside]

theorem run_eq_of_perm
    {steps others : List Step} (decoder : Decoder) (permutation : steps.Perm others)
    (commute : steps.Pairwise Step.Commute) :
    decoder.run steps = decoder.run others := by
  have members := commute.forall_of_forall fun _ _ _ => rfl
  exact permutation.foldl_eq' (fun _ left _ right => members left right) decoder

/-- No conversion of a slice that lies in the buffer fails. -/
theorem results_of_slices
    {decoder : Decoder} {steps : List Step}
    (slices : ∀ step ∈ steps, ∃ start stop, step = .swapWithin start stop ∧
      start ≤ stop ∧ stop ≤ decoder.data.length) :
    ∀ result ∈ decoder.results steps, ∃ bytes, result = .ok (.converted bytes) := by
  induction steps generalizing decoder with
  | nil => exact fun _ none => nomatch none
  | cons step rest inductionHypothesis =>
      obtain ⟨⟨start, stop, rfl, ordered, inside⟩, others⟩ := List.forall_mem_cons.mp slices
      rw [results_cons, List.forall_mem_cons]
      constructor
      · rw [outcome, slice_eq_pure ordered inside]
        exact ⟨_, rfl⟩
      · apply inductionHypothesis
        rwa [length_data_next]

/-! ## Rows of fields -/

/-- The conversions of all fields of a row that starts at a position. -/
def conversions : Nat → List Width → List Step
  | _, [] => []
  | position, width :: rest =>
    .swapWithin position (position + width.byteCount) ::
      conversions (position + width.byteCount) rest

theorem slice_of_mem_conversions
    {step : Step} {position : Nat} {widths : List Width}
    (member : step ∈ conversions position widths) :
    ∃ start stop, step = .swapWithin start stop ∧ position ≤ start ∧ start ≤ stop ∧
      stop ≤ position + Width.byteCounts widths := by
  induction widths generalizing position with
  | nil => cases member
  | cons width rest inductionHypothesis =>
      rw [Width.byteCounts_cons]
      rcases List.mem_cons.mp member with rfl | later
      · exact ⟨_, _, rfl, Nat.le_refl _, Nat.le_add_right _ _, by omega⟩
      · obtain ⟨start, stop, same, behind, ordered, within⟩ := inductionHypothesis later
        exact ⟨start, stop, same, by omega, ordered, by omega⟩

theorem pairwise_commute_conversions (position : Nat) (widths : List Width) :
    (conversions position widths).Pairwise Step.Commute := by
  induction widths generalizing position with
  | nil => exact .nil
  | cons width rest inductionHypothesis =>
      refine .cons ?_ (inductionHypothesis _)
      intro step member
      obtain ⟨start, stop, rfl, behind, _⟩ := slice_of_mem_conversions member
      exact commute_swapWithin behind

/-- Taken from the first field to the last one, the conversions turn a row of fields, between any
other bytes, into the same row in the other byte order. -/
theorem run_conversions
    {first second : Endianness} (different : first ≠ second) (fields : List Field)
    (before after : List UInt8) (cursor : UInt64) :
    (⟨before ++ Field.encodeAll first fields ++ after, .swapped, cursor⟩ : Decoder).run
        (conversions before.length (fields.map Field.width)) =
      ⟨before ++ Field.encodeAll second fields ++ after, .swapped, cursor⟩ := by
  induction fields generalizing before with
  | nil => rfl
  | cons field rest inductionHypothesis =>
      -- What is converted already belongs to the bytes before the rest of the row.
      have further := inductionHypothesis (before ++ field.encode second)
      have converted := ByteOrder.swapWithin_append .swapped before (field.encode first)
        (Field.encodeAll first rest ++ after)
      rw [Field.length_encode, Field.swapBuffer_encode different] at converted
      rw [List.length_append, Field.length_encode] at further
      simp only [List.append_assoc] at further converted
      simp only [Field.encodeAll_cons, List.append_assoc, List.map_cons, conversions, run_cons]
      rw [next_swapWithin_of_inside ?_, converted, further]
      simp only [List.length_append, Field.length_encode]
      omega

end Decoder

/-! ## Tables -/

/-- The widths of the fields of a segment: its address, its size, the count of its sections, and
the offset and the size of each section. -/
def SegmentEntry.layout (entry : SegmentEntry) : List Width :=
  [.eight, .eight, .four] ++ entry.sections.flatMap fun _ => [.four, .four]

theorem SegmentEntry.map_width_fields (entry : SegmentEntry) :
    entry.fields.map Field.width = entry.layout := by
  rw [fields, List.map_append, List.map_flatMap]
  rfl

namespace SegmentTable

/-- The widths of all fields of a table, behind those of the magic number and of the count of its
segments. -/
def layout (table : SegmentTable) : List Width :=
  [.four, .four] ++ table.flatMap SegmentEntry.layout

theorem map_width_fields (table : SegmentTable) :
    table.fields.map Field.width = table.layout := by
  simp only [fields, layout, List.map_append, List.map_flatMap, SegmentEntry.map_width_fields]
  rfl

theorem encode_eq_encodeAll (endianness : Endianness) (table : SegmentTable) :
    table.encode endianness = Field.encodeAll endianness table.fields :=
  rfl

theorem byteCounts_layout (table : SegmentTable) :
    Width.byteCounts table.layout = table.byteCount := by
  rw [← map_width_fields, Width.byteCounts_map_width, ← Field.length_encodeAll,
    ← encode_eq_encodeAll .little, length_encode]

/-- Taken in the order of the fields, the conversions yield the table in the other byte order. -/
theorem run_conversions_layout
    {first second : Endianness} (different : first ≠ second) (table : SegmentTable)
    (cursor : UInt64) :
    (⟨table.encode first, .swapped, cursor⟩ : Decoder).run (Decoder.conversions 0 table.layout) =
      ⟨table.encode second, .swapped, cursor⟩ := by
  have inOrder := Decoder.run_conversions different table.fields [] [] cursor
  rw [map_width_fields, List.append_nil, List.append_nil, List.nil_append, List.nil_append]
    at inOrder
  rw [encode_eq_encodeAll, encode_eq_encodeAll]
  exact inOrder

/-- A stored table takes up as many bytes in one byte order as in the other. If each of its fields is
converted in place, in any order, every conversion is of a slice of the buffer, and what they leave
is the table as it is stored in the other byte order. -/
theorem convert_encode (table : SegmentTable) :
    (∀ endianness, (table.encode endianness).length = table.byteCount) ∧
      ∀ (first second : Endianness) (cursor : UInt64) (steps : List Decoder.Step),
        first ≠ second → steps.Perm (Decoder.conversions 0 table.layout) →
          (∀ result ∈ (⟨table.encode first, .swapped, cursor⟩ : Decoder).results steps,
              ∃ bytes, result = .ok (.converted bytes)) ∧
            (⟨table.encode first, .swapped, cursor⟩ : Decoder).run steps =
              ⟨table.encode second, .swapped, cursor⟩ := by
  refine ⟨fun _ => table.length_encode, ?_⟩
  intro first second cursor steps different permutation
  constructor
  · apply Decoder.results_of_slices
    intro step member
    obtain ⟨start, stop, same, _, ordered, within⟩ :=
      Decoder.slice_of_mem_conversions (permutation.mem_iff.mp member)
    rw [Nat.zero_add, byteCounts_layout, ← table.length_encode] at within
    exact ⟨start, stop, same, ordered, within⟩
  · have commute := Decoder.pairwise_commute_conversions 0 table.layout
    rw [← Decoder.run_eq_of_perm _ permutation.symm commute, run_conversions_layout different]

/-- Two segments, of which the first one has a section that is dropped. -/
def unevenTable : SegmentTable :=
  [⟨0x1000, 0x20, [⟨0x18, 0x10⟩]⟩, ⟨0xffffffffffffffff, 0, []⟩]

/-- From the last field to the first one, forth and back. -/
theorem convert_encode_unevenTable :
    (unevenTable.encode .big).length = 56 ∧
      (⟨unevenTable.encode .big, .swapped, 7⟩ : Decoder).run
          (Decoder.conversions 0 unevenTable.layout).reverse =
        ⟨unevenTable.encode .little, .swapped, 7⟩ ∧
      (⟨unevenTable.encode .little, .swapped, 7⟩ : Decoder).run
          (Decoder.conversions 0 unevenTable.layout).reverse =
        ⟨unevenTable.encode .big, .swapped, 7⟩ ∧
      ∀ result ∈ (⟨unevenTable.encode .big, .swapped, 7⟩ : Decoder).results
          (Decoder.conversions 0 unevenTable.layout).reverse,
        ∃ bytes, result = .ok (.converted bytes) := by
  obtain ⟨sizes, conversions⟩ := convert_encode unevenTable
  have permutation := List.reverse_perm (Decoder.conversions 0 unevenTable.layout)
  obtain ⟨succeed, forth⟩ := conversions .big .little 7 _ (by decide) permutation
  obtain ⟨_, back⟩ := conversions .little .big 7 _ (by decide) permutation
  exact ⟨sizes .big, forth, back, succeed⟩

end SegmentTable

end BinaryImage
