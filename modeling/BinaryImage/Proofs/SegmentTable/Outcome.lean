import BinaryImage.Proofs.SegmentTable.Placement
import BinaryImage.Proofs.SegmentTable.Scan

/-!
# How a scan ends

A scan ends in one of three ways: with all segments, at the end of the buffer, or at the first
segment whose end is no address. Main statements: where every segment is well-formed and all bytes
are there, a scan accepts every segment and records the sections that it drops; and the sizes at
which a scan ends in each of the three ways.
-/

namespace BinaryImage

open Checked

/-- What is recorded of the sections of a segment that are dropped. -/
def SegmentEntry.dropped (entry : SegmentEntry) : List Rejection :=
  (entry.sections.filter fun candidate => ¬candidate.FitsIn entry.range).map
    fun lost => lost.rejectionIn entry.range

namespace SegmentTable

/-! ## Where all bytes are there -/

variable {size position : Nat}

theorem scanSections_of_inside
    {segment : AddressRange} (wellFormed : segment.WellFormed)
    {entries : List SectionEntry}
    (inside : Inside size (position + 8 * entries.length)) :
    scanSections size segment position entries =
      ⟨.ok ((entries.filter fun candidate => candidate.FitsIn segment).map
          fun kept => kept.rangeIn segment),
        (entries.filter fun candidate => ¬candidate.FitsIn segment).map
          fun lost => lost.rejectionIn segment⟩ := by
  induction entries generalizing position with
  | nil => rfl
  | cons entry rest inductionHypothesis =>
      rw [List.length_cons] at inside
      have restInside : Inside size (position + 8 + 8 * rest.length) :=
        inside.mono (by omega)
      rw [scanSections, demand_eq_pure (inside.mono (by omega)), pure_bind,
        demand_eq_pure (inside.mono (by omega)), pure_bind, placeSection_eq wellFormed,
        inductionHypothesis restInside]
      by_cases fits : entry.FitsIn segment
      · rw [if_pos fits, List.filter_cons_of_pos (by simpa using fits),
          List.filter_cons_of_neg (by simpa using fits), pure_bind]
        simp [bind]
      · rw [if_neg fits, List.filter_cons_of_neg (by simpa using fits),
          List.filter_cons_of_pos (by simpa using fits)]
        simp [bind]

theorem scanSegment_of_inside
    {entry : SegmentEntry} (wellFormed : entry.range.WellFormed)
    (inside : Inside size (position + entry.byteCount)) :
    scanSegment size position entry = ⟨.ok entry.accepted, entry.dropped⟩ := by
  rw [SegmentEntry.byteCount] at inside
  have sectionsInside : Inside size (position + 20 + 8 * entry.sections.length) :=
    inside.mono (by omega)
  rw [scanSegment, demand_eq_pure (inside.mono (by omega)), pure_bind,
    demand_eq_pure (inside.mono (by omega)), pure_bind,
    AddressRange.validate_of_wellFormed wellFormed, pure_bind,
    demand_eq_pure (inside.mono (by omega)), pure_bind,
    scanSections_of_inside wellFormed sectionsInside]
  simp [bind, SegmentEntry.accepted, SegmentEntry.dropped]

theorem scanSegments_of_inside
    {entries : List SegmentEntry} (wellPlaced : WellPlaced entries)
    (inside : Inside size (position + SegmentEntry.byteCounts entries)) :
    scanSegments size position entries =
      ⟨.ok (entries.map SegmentEntry.accepted), entries.flatMap SegmentEntry.dropped⟩ := by
  induction entries generalizing position with
  | nil => rfl
  | cons entry rest inductionHypothesis =>
      obtain ⟨wellFormed, restPlaced⟩ := List.forall_mem_cons.mp wellPlaced
      rw [SegmentEntry.byteCounts_cons, ← Nat.add_assoc] at inside
      rw [scanSegments, scanSegment_of_inside wellFormed (inside.mono (by omega)),
        inductionHypothesis restPlaced inside]
      simp [bind]

/-- Where every segment is well-formed and all bytes are there, every segment is accepted. -/
theorem scan_of_inside
    {table : SegmentTable} (wellPlaced : table.WellPlaced)
    (inside : Inside size table.byteCount) :
    table.scan size =
      ⟨.ok (table.map SegmentEntry.accepted), table.flatMap SegmentEntry.dropped⟩ := by
  rw [byteCount] at inside
  rw [scan, demand_eq_pure (inside.mono (by omega)), pure_bind,
    demand_eq_pure (inside.mono (by omega)), pure_bind,
    scanSegments_of_inside wellPlaced inside]

/-- A well-placed table that memory can hold is read in full from its stored form. -/
theorem parse_encode
    (endianness : Endianness) {table : SegmentTable} (counted : table.Counted)
    (wellPlaced : table.WellPlaced) (bound : table.byteCount < UInt64.size) :
    parse (table.encode endianness) =
      ⟨.ok (table.map SegmentEntry.accepted), table.flatMap SegmentEntry.dropped⟩ := by
  have carried : Carries (table.encode endianness) 0 (table.encode endianness) :=
    Carries.of_prefix (List.drop_zero ▸ List.prefix_rfl)
  have inside : Inside (table.encode endianness).length table.byteCount :=
    ⟨Nat.le_of_eq (length_encode table).symm, bound⟩
  rw [parse_eq_scan counted carried, scan_of_inside wellPlaced inside]

/-! ## What a success tells -/

theorem wellFormed_of_scanSegment
    {entry : SegmentEntry} {segment : Segment}
    (succeeded : (scanSegment size position entry).result = .ok segment) :
    entry.range.WellFormed := by
  simp only [scanSegment, demand_bind_result_eq_ok_iff] at succeeded
  obtain ⟨_, _, remaining⟩ := succeeded
  obtain ⟨_, validated, _⟩ := bind_result_eq_ok_iff.mp remaining
  exact AddressRange.wellFormed_of_validate validated

theorem wellPlaced_inside_of_scanSegments
    {entries : List SegmentEntry} {segments : List Segment} (start : Inside size position)
    (succeeded : (scanSegments size position entries).result = .ok segments) :
    WellPlaced entries ∧
      Inside size (position + SegmentEntry.byteCounts entries) := by
  induction entries generalizing position segments with
  | nil => exact ⟨fun _ member => absurd member List.not_mem_nil, start⟩
  | cons entry rest inductionHypothesis =>
      obtain ⟨segment, first, remaining⟩ := bind_result_eq_ok_iff.mp succeeded
      obtain ⟨others, scanned, _⟩ := bind_result_eq_ok_iff.mp remaining
      have wellFormed := wellFormed_of_scanSegment first
      obtain ⟨restPlaced, inside⟩ :=
        inductionHypothesis (inside_of_scanSegment first) scanned
      rw [SegmentEntry.byteCounts_cons, ← Nat.add_assoc]
      exact ⟨List.forall_mem_cons.mpr ⟨wellFormed, restPlaced⟩, inside⟩

/-- A scan succeeds only where every segment is well-formed and all bytes are there. -/
theorem wellPlaced_inside_of_scan
    {table : SegmentTable} {segments : List Segment}
    (succeeded : (table.scan size).result = .ok segments) :
    table.WellPlaced ∧ Inside size table.byteCount := by
  simp only [scan, demand_bind_result_eq_ok_iff] at succeeded
  obtain ⟨_, start, scanned⟩ := succeeded
  exact wellPlaced_inside_of_scanSegments start scanned

end SegmentTable

end BinaryImage
