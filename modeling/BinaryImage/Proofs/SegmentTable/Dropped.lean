import BinaryImage.Proofs.SegmentTable.Outcome
import Mathlib.Data.List.Basic

/-!
# Records of dropped sections

A section that does not lie in its segment is dropped at the first of three checks that it fails:
its start, its end, or its place. Main statement: the records that the reading of a stored table
leaves are those of the sections that end above the end of their segment, in the order of the table.
-/

namespace BinaryImage

open Checked

namespace SectionEntry

/-- The record of a section that is dropped from a segment. The sums are those of natural numbers,
and the first of them that is out of range is on record. -/
def dropRecord (segment : SegmentEntry) (entry : SectionEntry) : Record :=
  let start := segment.address.toNat + entry.offset.toNat
  let stop := start + entry.size.toNat
  let segmentStop := segment.address.toNat + segment.size.toNat
  if UInt64.size ≤ start then
    ⟨.trace, "machkit::vm",
      "offset " ++ Text.hexadecimal entry.offset.toNat ++ " overflows address " ++
        Text.hexadecimal segment.address.toNat⟩
  else if UInt64.size ≤ stop then
    ⟨.trace, "machkit::vm",
      "length " ++ Text.hexadecimal entry.size.toNat ++ " at " ++ Text.hexadecimal start ++
        " runs past the address space"⟩
  else
    ⟨.trace, "machkit::vm::range",
      AddressRange.intervalText start stop ++ " is not within " ++
        AddressRange.intervalText segment.address.toNat segmentStop ++ " (partial: false)"⟩

variable {segment : SegmentEntry} {entry : SectionEntry}

theorem record_outsideOuter
    {inner outer : AddressRange} (innerFormed : inner.WellFormed) (outerFormed : outer.WellFormed) :
    (Rejection.outsideOuter inner outer false).record =
      ⟨.trace, "machkit::vm::range",
        AddressRange.intervalText inner.location.toNat
            (inner.location.toNat + inner.length.toNat) ++ " is not within " ++
          AddressRange.intervalText outer.location.toNat
            (outer.location.toNat + outer.length.toNat) ++ " (partial: false)"⟩ := by
  have closing : " (partial: " ++ ("false" ++ ")") = " (partial: false)" := by decide
  rw [Rejection.record, Rejection.message, AddressRange.text_of_wellFormed innerFormed,
    AddressRange.text_of_wellFormed outerFormed]
  simp only [Bool.false_eq_true, if_false, String.append_assoc, closing]
  rfl

theorem record_rejectionIn
    (wellFormed : segment.range.WellFormed) (entry : SectionEntry) :
    (entry.rejectionIn segment.range).record = entry.dropRecord segment := by
  have segmentStart : segment.range.location = segment.address := rfl
  rw [rejectionIn, dropRecord, segmentStart]
  by_cases wraps : UInt64.size ≤ segment.address.toNat + entry.offset.toNat
  · rw [if_pos wraps, if_pos wraps]
    rfl
  · have start : (entry.rangeIn segment.range).location.toNat =
        segment.address.toNat + entry.offset.toNat :=
      rangeIn_location_toNat (Nat.lt_of_not_le wraps)
    have formed_iff : (entry.rangeIn segment.range).WellFormed ↔
        segment.address.toNat + entry.offset.toNat + entry.size.toNat < UInt64.size := by
      rw [AddressRange.WellFormed, start, rangeIn_length_toNat]
    rw [if_neg wraps, if_neg wraps]
    by_cases overruns :
        UInt64.size ≤ segment.address.toNat + entry.offset.toNat + entry.size.toNat
    · have malformed : ¬(entry.rangeIn segment.range).WellFormed := by
        rw [formed_iff]
        exact Nat.not_lt.mpr overruns
      rw [if_pos malformed, if_pos overruns, Rejection.record, Rejection.message, addressText,
        addressText, start]
      rfl
    · have formed := formed_iff.mpr (Nat.lt_of_not_le overruns)
      rw [if_neg (not_not_intro formed), if_neg overruns, record_outsideOuter formed wellFormed,
        start, rangeIn_length_toNat]
      rfl

end SectionEntry

namespace SegmentTable

theorem map_record_dropped
    {segment : SegmentEntry} (wellFormed : segment.range.WellFormed) :
    segment.dropped.map Rejection.record =
      (segment.sections.filter fun entry =>
        segment.size.toNat < entry.offset.toNat + entry.size.toNat).map
          fun lost => lost.dropRecord segment := by
  have sameSections : (segment.sections.filter fun candidate => ¬candidate.FitsIn segment.range) =
      segment.sections.filter fun entry =>
        segment.size.toNat < entry.offset.toNat + entry.size.toNat := by
    apply List.filter_congr
    intro entry _
    exact decide_eq_decide.mpr Nat.not_le
  rw [SegmentEntry.dropped, sameSections, List.map_map]
  exact List.map_congr_left fun lost _ => lost.record_rejectionIn wellFormed

/-- A table of well-formed segments that is read from its stored form leaves, in its order, one
record for each section that ends above the end of its segment, and none for the others. -/
theorem records_parse_encode
    (endianness : Endianness) (table : SegmentTable)
    (counted : table.Counted) (wellPlaced : table.WellPlaced)
    (sized : (table.encode endianness).length < UInt64.size) :
    (parse (table.encode endianness)).result = .ok (table.map SegmentEntry.accepted) ∧
      (parse (table.encode endianness)).records =
        table.flatMap fun segment =>
          (segment.sections.filter fun entry =>
            segment.size.toNat < entry.offset.toNat + entry.size.toNat).map
              fun lost => lost.dropRecord segment := by
  rw [length_encode] at sized
  rw [records, parse_encode endianness counted wellPlaced sized, List.map_flatMap]
  refine ⟨rfl, List.flatMap_congr ?_⟩
  intro segment member
  exact map_record_dropped (wellPlaced segment member)

/-- A segment near the top of the address space, of which one section starts above it, one ends
above it, one lies behind the segment and one fits. -/
def crowdedTable : SegmentTable :=
  [⟨0, 0, []⟩,
    ⟨0xffffffffffffff00, 0x10, [⟨0x20, 0x8⟩, ⟨0x200, 0⟩, ⟨0x8, 0x8⟩, ⟨0xf0, 0x10⟩]⟩]

theorem records_parse_encode_crowdedTable :
    (parse (crowdedTable.encode .big)).records =
      [⟨.trace, "machkit::vm::range",
          "[0xffffffffffffff20, 0xffffffffffffff28) is not within " ++
            "[0xffffffffffffff00, 0xffffffffffffff10) (partial: false)"⟩,
        ⟨.trace, "machkit::vm", "offset 0x200 overflows address 0xffffffffffffff00"⟩,
        ⟨.trace, "machkit::vm", "length 0x10 at 0xfffffffffffffff0 runs past the address space"⟩] :=
  (records_parse_encode .big crowdedTable (by decide) (by decide) (by decide)).2.trans
    (by decide +kernel)

end SegmentTable

end BinaryImage
