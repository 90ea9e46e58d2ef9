import BinaryImage.Proofs.SegmentTable.RoundTrip

/-!
# Storing again what was read

Segments that were read can be stored again: every section at its checked distance from the start
of its segment. Main statement: of whatever was read, the table rebuilt in this way is stored
without loss and read back, in either byte order, as the same segments and without a record. It
is the table that was read, without the sections that were dropped.
-/

namespace BinaryImage

open Checked

/-- A computation on each of some values fails nowhere if it fails on none of them. -/
theorem Checked.mapM_eq_pure
    {α β : Type} {step : α → Checked β} {view : α → β} {values : List α}
    (each : ∀ value ∈ values, step value = pure (view value)) :
    values.mapM step = pure (values.map view) := by
  induction values with
  | nil => rfl
  | cons first rest inductionHypothesis =>
      obtain ⟨onFirst, onRest⟩ := List.forall_mem_cons.mp each
      rw [List.mapM_cons, onFirst, pure_bind, inductionHypothesis onRest, pure_bind,
        List.map_cons]

/-! ## Rebuilding a table -/

/-- The entry of a section in its segment, with the lowest bytes of both numbers. -/
def SectionEntry.rebuild (segment kept : AddressRange) : Checked SectionEntry := do
  let offset ← Address.subtract kept.location segment.location
  return ⟨offset.toUInt32, kept.length.toUInt32⟩

def SegmentEntry.rebuild (segment : Segment) : Checked SegmentEntry := do
  let sections ← segment.sections.mapM (SectionEntry.rebuild segment.range)
  return ⟨segment.range.location, segment.range.length, sections⟩

/-- The table that lists given segments, with all of their sections. -/
def SegmentTable.rebuild (segments : List Segment) : Checked SegmentTable :=
  segments.mapM SegmentEntry.rebuild

/-! ## Sections -/

namespace SectionEntry

variable {entry : SectionEntry} {segment : AddressRange}

theorem FitsIn.subtract_location
    (fits : entry.FitsIn segment) (wellFormed : segment.WellFormed) :
    Address.subtract (entry.rangeIn segment).location segment.location =
      pure entry.offset.toUInt64 := by
  have start := (fits.bounds wellFormed).1
  rw [Address.subtract_eq, if_pos (by omega)]
  apply congrArg pure
  apply UInt64.toNat_inj.mp
  rw [toNat_sub_of_le (by omega), start, Nat.add_sub_cancel_left, UInt32.toNat_toUInt64]

theorem FitsIn.rebuild_rangeIn
    (fits : entry.FitsIn segment) (wellFormed : segment.WellFormed) :
    rebuild segment (entry.rangeIn segment) = pure entry := by
  rw [rebuild, fits.subtract_location wellFormed, pure_bind, rangeIn,
    UInt32.toUInt32_toUInt64, UInt32.toUInt32_toUInt64]

end SectionEntry

/-! ## Segments -/

namespace SegmentEntry

/-- A segment without the sections that do not fit it. -/
def trimmed (entry : SegmentEntry) : SegmentEntry :=
  { entry with sections := entry.sections.filter fun candidate => candidate.FitsIn entry.range }

variable {entry : SegmentEntry}

theorem fitsIn_of_mem_trimmed
    {source : SectionEntry} (member : source ∈ entry.trimmed.sections) :
    source.FitsIn entry.trimmed.range :=
  of_decide_eq_true (List.mem_filter.mp member).2

theorem length_trimmed_sections_le :
    entry.trimmed.sections.length ≤ entry.sections.length :=
  List.length_filter_le _ _

theorem byteCount_trimmed_le : entry.trimmed.byteCount ≤ entry.byteCount := by
  have fewer : entry.trimmed.sections.length ≤ entry.sections.length :=
    length_trimmed_sections_le
  rw [byteCount, byteCount]
  omega

theorem accepted_trimmed : entry.trimmed.accepted = entry.accepted := by
  have allKept : entry.trimmed.sections.filter
      (fun candidate => candidate.FitsIn entry.trimmed.range) = entry.trimmed.sections :=
    List.filter_eq_self.mpr fun _ member => decide_eq_true (fitsIn_of_mem_trimmed member)
  rw [accepted, allKept]
  rfl

theorem dropped_trimmed : entry.trimmed.dropped = [] := by
  apply List.map_eq_nil_iff.mpr
  apply List.filter_eq_nil_iff.mpr
  intro source member
  simpa using fitsIn_of_mem_trimmed member

theorem subtract_location
    (wellFormed : entry.range.WellFormed) {kept : AddressRange}
    (member : kept ∈ entry.accepted.sections) :
    ∃ offset, Address.subtract kept.location entry.range.location = pure offset ∧
      offset.toNat < UInt32.size ∧ kept.length.toNat < UInt32.size := by
  obtain ⟨source, found, rfl⟩ := List.mem_map.mp member
  have fits : source.FitsIn entry.range := fitsIn_of_mem_trimmed found
  refine ⟨source.offset.toUInt64, fits.subtract_location wellFormed, ?_, ?_⟩
  · rw [UInt32.toNat_toUInt64]
    exact source.offset.toNat_lt
  · rw [SectionEntry.rangeIn_length_toNat]
    exact source.size.toNat_lt

theorem rebuild_accepted (wellFormed : entry.range.WellFormed) :
    rebuild entry.accepted = pure entry.trimmed := by
  have restored : entry.trimmed.sections.mapM
      (SectionEntry.rebuild entry.range ∘ fun kept => kept.rangeIn entry.range) =
        pure (entry.trimmed.sections.map id) := by
    apply mapM_eq_pure
    intro source member
    exact (fitsIn_of_mem_trimmed member).rebuild_rangeIn wellFormed
  rw [List.map_id, ← List.mapM_map] at restored
  change (entry.accepted.sections.mapM (SectionEntry.rebuild entry.range) >>= _) = _
  change entry.accepted.sections.mapM (SectionEntry.rebuild entry.range) = _ at restored
  rw [restored, pure_bind]
  rfl

end SegmentEntry

namespace SegmentTable

variable {table : SegmentTable}

def trimmed (table : SegmentTable) : SegmentTable :=
  table.map SegmentEntry.trimmed

theorem Counted.trimmed (counted : table.Counted) : table.trimmed.Counted := by
  constructor
  · rw [SegmentTable.trimmed, List.length_map]
    exact counted.segments
  · rw [SegmentTable.trimmed, List.forall_mem_map]
    intro entry member
    exact Nat.lt_of_le_of_lt SegmentEntry.length_trimmed_sections_le
      (counted.sections entry member)

theorem WellPlaced.trimmed (wellPlaced : table.WellPlaced) : table.trimmed.WellPlaced :=
  List.forall_mem_map.mpr wellPlaced

theorem byteCount_trimmed_le : table.trimmed.byteCount ≤ table.byteCount := by
  apply Nat.add_le_add_left
  induction table with
  | nil => exact Nat.le_refl _
  | cons entry rest inductionHypothesis =>
      exact Nat.add_le_add SegmentEntry.byteCount_trimmed_le inductionHypothesis

theorem rebuild_map_accepted (wellPlaced : table.WellPlaced) :
    rebuild (table.map SegmentEntry.accepted) = pure table.trimmed := by
  rw [rebuild, List.mapM_map]
  apply mapM_eq_pure
  intro entry member
  exact SegmentEntry.rebuild_accepted (wellPlaced entry member)

/-- A well-formed table without its misplaced sections is read as the whole table is, and
leaves no record. -/
theorem parse_encode_trimmed
    (endianness : Endianness) (counted : table.Counted) (wellPlaced : table.WellPlaced)
    (bound : table.byteCount < UInt64.size) :
    parse (table.trimmed.encode endianness) = ⟨.ok (table.map SegmentEntry.accepted), []⟩ := by
  have trimmedBound : table.trimmed.byteCount < UInt64.size :=
    Nat.lt_of_le_of_lt byteCount_trimmed_le bound
  have sameAccepted : table.trimmed.map SegmentEntry.accepted =
      table.map SegmentEntry.accepted := by
    rw [SegmentTable.trimmed, List.map_map]
    exact List.map_congr_left fun _ _ => SegmentEntry.accepted_trimmed
  have noneDropped : table.trimmed.flatMap SegmentEntry.dropped = [] := by
    rw [List.flatMap_eq_nil_iff, SegmentTable.trimmed, List.forall_mem_map]
    exact fun _ _ => SegmentEntry.dropped_trimmed
  rw [parse_encode endianness counted.trimmed wellPlaced.trimmed trimmedBound, sameAccepted,
    noneDropped]

/-- Whatever is read is what some table accepts that lies in the buffer in full. -/
theorem exists_table_of_parse
    {data : List UInt8} {segments : List Segment}
    (succeeded : (parse data).result = .ok segments) :
    ∃ table : SegmentTable, table.Counted ∧ table.WellPlaced ∧
      Inside data.length table.byteCount ∧ segments = table.map SegmentEntry.accepted := by
  obtain ⟨endianness, table, counted, carried⟩ := exists_carries_of_parse succeeded
  rw [parse_eq_scan counted carried] at succeeded
  obtain ⟨wellPlaced, inside⟩ := wellPlaced_inside_of_scan succeeded
  rw [scan_of_inside wellPlaced inside, Except.ok.injEq] at succeeded
  exact ⟨table, counted, wellPlaced, inside, succeeded.symm⟩

/-- Whatever is read can be stored again: every section lies above the start of its segment, its
distance and its size fit their fields, and so do all counts. In either byte order, the table
rebuilt from the segments is read as the same segments, and not one section is dropped. -/
theorem parse_encode_rebuild
    {data : List UInt8} {segments : List Segment}
    (succeeded : (parse data).result = .ok segments) :
    (∀ segment ∈ segments, ∀ kept ∈ segment.sections,
      ∃ offset, Address.subtract kept.location segment.range.location = pure offset ∧
        offset.toNat < UInt32.size ∧ kept.length.toNat < UInt32.size) ∧
    ∃ table, rebuild segments = pure table ∧ table.Counted ∧
      ∀ endianness, (parse (table.encode endianness)).result = .ok segments ∧
        (parse (table.encode endianness)).records = [] := by
  obtain ⟨table, counted, wellPlaced, inside, rfl⟩ := exists_table_of_parse succeeded
  constructor
  · rw [List.forall_mem_map]
    intro entry listed kept member
    exact SegmentEntry.subtract_location (wellPlaced entry listed) member
  · refine ⟨table.trimmed, rebuild_map_accepted wellPlaced, counted.trimmed, ?_⟩
    intro endianness
    rw [parse_encode_trimmed endianness counted wellPlaced inside.2]
    exact ⟨rfl, rfl⟩

/-- The section that wraps around is not stored again; the others are, at their distances. -/
theorem parse_encode_rebuild_topmostSegments :
    (parse (topmostTable.encode .big ++ [7, 7])).result = .ok topmostSegments ∧
      rebuild topmostSegments =
        pure [⟨0xffffffffffffff00, 0xff, [⟨0x10, 0x10⟩, ⟨0xff, 0⟩]⟩, ⟨0, 0, []⟩] ∧
      (∀ segment ∈ topmostSegments, ∀ kept ∈ segment.sections,
        ∃ offset, Address.subtract kept.location segment.range.location = pure offset ∧
          offset.toNat < UInt32.size ∧ kept.length.toNat < UInt32.size) ∧
      ∃ table, rebuild topmostSegments = pure table ∧ table.Counted ∧
        ∀ endianness, (parse (table.encode endianness)).result = .ok topmostSegments ∧
          (parse (table.encode endianness)).records = [] := by
  have read : (parse (topmostTable.encode .big ++ [7, 7])).result = .ok topmostSegments := rfl
  exact ⟨read, rfl, parse_encode_rebuild read⟩

end SegmentTable

end BinaryImage
