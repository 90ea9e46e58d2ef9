import BinaryImage.SegmentTable.Parsing

/-!
# Sections in their segments

Which sections of a segment are accepted, and as what. Main statement: in a segment whose end is
an address, the checks on a section come down to one inequality between natural numbers, and a
section that fails it is dropped with a record of the first check that it fails.
-/

namespace BinaryImage

open Checked

namespace SectionEntry

/-- The section ends where its segment does, or before; sums are those of natural numbers. -/
def FitsIn (entry : SectionEntry) (segment : AddressRange) : Prop :=
  entry.offset.toNat + entry.size.toNat ≤ segment.length.toNat

instance (entry : SectionEntry) (segment : AddressRange) :
    Decidable (entry.FitsIn segment) :=
  inferInstanceAs (Decidable (_ ≤ _))

def rangeIn (entry : SectionEntry) (segment : AddressRange) : AddressRange :=
  ⟨segment.location + entry.offset.toUInt64, entry.size.toUInt64⟩

/-- What is recorded of a section that is dropped. -/
def rejectionIn (entry : SectionEntry) (segment : AddressRange) : Rejection :=
  if UInt64.size ≤ segment.location.toNat + entry.offset.toNat then
    .offsetOverflows entry.offset.toUInt64 segment.location
  else if ¬(entry.rangeIn segment).WellFormed then
    .lengthOverflows (entry.rangeIn segment).length (entry.rangeIn segment).location
  else
    .outsideOuter (entry.rangeIn segment) segment false

theorem rangeIn_location_toNat
    {entry : SectionEntry} {segment : AddressRange}
    (inRange : segment.location.toNat + entry.offset.toNat < UInt64.size) :
    (entry.rangeIn segment).location.toNat =
      segment.location.toNat + entry.offset.toNat :=
  toNat_add_of_lt inRange

theorem rangeIn_length_toNat (entry : SectionEntry) (segment : AddressRange) :
    (entry.rangeIn segment).length.toNat = entry.size.toNat :=
  rfl

/-- A section that fits a well-formed segment lies between the ends of the segment. -/
theorem FitsIn.bounds
    {entry : SectionEntry} {segment : AddressRange}
    (fits : entry.FitsIn segment) (wellFormed : segment.WellFormed) :
    (entry.rangeIn segment).location.toNat =
        segment.location.toNat + entry.offset.toNat ∧
      (entry.rangeIn segment).WellFormed ∧
      segment.Accepts (entry.rangeIn segment) false := by
  simp only [FitsIn, AddressRange.WellFormed] at fits wellFormed
  have start : (entry.rangeIn segment).location.toNat =
      segment.location.toNat + entry.offset.toNat :=
    rangeIn_location_toNat (by omega)
  refine ⟨start, ?_, ?_⟩
  · rw [AddressRange.WellFormed, start, rangeIn_length_toNat]
    omega
  · simp only [AddressRange.Accepts, Bool.false_eq_true, if_false, start,
      rangeIn_length_toNat]
    omega

end SectionEntry

namespace SegmentTable

open SectionEntry

/-- For a section that starts at an address, the question whether it lies in its segment is the
question whether it fits. -/
theorem attempt_containsRange_rangeIn
    {segment : AddressRange} (wellFormed : segment.WellFormed) {entry : SectionEntry}
    (inRange : segment.location.toNat + entry.offset.toNat < UInt64.size) :
    attempt (segment.containsRange (entry.rangeIn segment) false) =
      if entry.FitsIn segment then pure (some ())
      else ⟨.ok none, [entry.rejectionIn segment]⟩ := by
  have start := rangeIn_location_toNat inRange
  rw [AddressRange.containsRange_eq, if_neg (not_not_intro wellFormed)]
  by_cases fits : entry.FitsIn segment
  · obtain ⟨_, formed, accepts⟩ := fits.bounds wellFormed
    rw [if_neg (not_not_intro formed), if_pos accepts, if_pos fits, attempt_pure]
  · rw [if_neg fits, rejectionIn, if_neg (Nat.not_le.mpr inRange)]
    by_cases formed : (entry.rangeIn segment).WellFormed
    · have outside : ¬segment.Accepts (entry.rangeIn segment) false := by
        simp only [FitsIn] at fits
        simp only [AddressRange.Accepts, Bool.false_eq_true, if_false, start,
          rangeIn_length_toNat]
        omega
      rw [if_neg (not_not_intro formed), if_neg outside,
        if_neg (not_not_intro formed), attempt_reject]
    · rw [if_pos formed, if_pos formed, attempt_reject]

/-- In a well-formed segment, a section is kept exactly when it fits; a dropped one is recorded. -/
theorem placeSection_eq
    {segment : AddressRange} (wellFormed : segment.WellFormed) (entry : SectionEntry) :
    placeSection segment entry.offset entry.size =
      if entry.FitsIn segment then pure (some (entry.rangeIn segment))
      else ⟨.ok none, [entry.rejectionIn segment]⟩ := by
  rw [placeSection, Address.applyOffset_eq, UInt32.toNat_toUInt64]
  by_cases inRange : segment.location.toNat + entry.offset.toNat < UInt64.size
  · rw [if_pos inRange, attempt_pure, pure_bind]
    change (attempt (segment.containsRange (entry.rangeIn segment) false) >>= _) = _
    rw [attempt_containsRange_rangeIn wellFormed inRange]
    by_cases fits : entry.FitsIn segment
    · rw [if_pos fits, if_pos fits]
      rfl
    · rw [if_neg fits, if_neg fits]
      rfl
  · have beyond : ¬entry.FitsIn segment := by
      simp only [AddressRange.WellFormed] at wellFormed
      simp only [FitsIn]
      omega
    rw [if_neg inRange, if_neg beyond, rejectionIn,
      if_pos (Nat.le_of_not_lt inRange), attempt_reject]
    rfl

end SegmentTable

/-- What becomes of a segment: its range, with the sections that fit it in their order. -/
def SegmentEntry.accepted (entry : SegmentEntry) : Segment :=
  ⟨entry.range, (entry.sections.filter fun candidate => candidate.FitsIn entry.range).map
    fun kept => kept.rangeIn entry.range⟩

namespace SegmentTable

/-- A segment at the top of the address space, where one section wraps around and an empty one
lies at the very end; and an empty segment. -/
def topmostTable : SegmentTable :=
  [⟨0xffffffffffffff00, 0xff, [⟨0x200, 0x10⟩, ⟨0x10, 0x10⟩, ⟨0xff, 0⟩]⟩, ⟨0, 0, [⟨0, 1⟩]⟩]

def topmostSegments : List Segment :=
  [⟨⟨0xffffffffffffff00, 0xff⟩, [⟨0xffffffffffffff10, 0x10⟩, ⟨0xffffffffffffffff, 0⟩]⟩,
    ⟨⟨0, 0⟩, []⟩]

example : topmostTable.map SegmentEntry.accepted = topmostSegments := by decide

end SegmentTable

end BinaryImage
