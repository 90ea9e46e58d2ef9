import BinaryImage.Proofs.SegmentTable.Outcome

/-!
# Reading and storing tables

Main statements: a stored table whose segments are well-formed is read back, with the sections
that fit their segments, whatever follows it; and whatever is read at all starts with a stored
table. The second rests on the fact that a buffer always carries a table, once it carries the
magic number: bytes behind its end may be what they like.
-/

namespace BinaryImage

open Checked BinaryImage.Field

namespace SegmentTable

/-- A well-formed table is read back from its stored form, whatever follows: every segment in its
order, with those of its sections that fit it, each at the exact sum of address and offset. -/
theorem parse_encode_append
    (endianness : Endianness) (table : SegmentTable) (tail : List UInt8)
    (counted : table.Counted) (wellPlaced : table.WellPlaced)
    (addressable : Addressable (table.encode endianness ++ tail)) :
    (parse (table.encode endianness ++ tail)).result =
        .ok (table.map SegmentEntry.accepted) ∧
      ∀ entry ∈ table, ∀ kept ∈ entry.sections, kept.FitsIn entry.range →
        (kept.rangeIn entry.range).location.toNat =
          entry.address.toNat + kept.offset.toNat := by
  constructor
  · have wholeTable : table.byteCount ≤ (table.encode endianness ++ tail).length := by
      rw [List.length_append, length_encode]
      omega
    rw [parse_eq_scan counted (Carries.of_append _ _),
      scan_of_inside wellPlaced (addressable.inside wholeTable)]
  · intro entry entryMember kept _ fits
    exact (fits.bounds (wellPlaced entry entryMember)).1

theorem parse_encode_append_topmostTable :
    (parse (topmostTable.encode .big ++ [7, 7])).result =
        .ok (topmostTable.map SegmentEntry.accepted) ∧
      ∀ entry ∈ topmostTable, ∀ kept ∈ entry.sections, kept.FitsIn entry.range →
        (kept.rangeIn entry.range).location.toNat =
          entry.address.toNat + kept.offset.toNat :=
  parse_encode_append .big topmostTable [7, 7] (by decide) (by decide) (by decide)

/-! ## A buffer carries a table -/

variable {endianness : Endianness}

theorem exists_carries_section
    (endianness : Endianness) (data : List UInt8) (position : Nat) :
    ∃ entry : SectionEntry, Carries data position (encodeAll endianness entry.fields) := by
  obtain ⟨offset, offsetCarried⟩ := exists_carries_bits32 endianness data position
  obtain ⟨size, sizeCarried⟩ := exists_carries_bits32 endianness data (position + 4)
  exact ⟨⟨offset, size⟩, offsetCarried.cons (sizeCarried.cons Carries.nil)⟩

theorem exists_carries_sections
    (endianness : Endianness) (data : List UInt8) (position count : Nat) :
    ∃ entries : List SectionEntry, entries.length = count ∧
      Carries data position
        (encodeAll endianness (entries.flatMap SectionEntry.fields)) := by
  induction count generalizing position with
  | zero => exact ⟨[], rfl, Carries.nil⟩
  | succ count inductionHypothesis =>
      obtain ⟨entry, entryCarried⟩ := exists_carries_section endianness data position
      obtain ⟨rest, restLength, restCarried⟩ := inductionHypothesis (position + 8)
      refine ⟨entry :: rest, by rw [List.length_cons, restLength], ?_⟩
      rw [List.flatMap_cons, encodeAll_append]
      apply entryCarried.append
      rw [SectionEntry.length_encodeAll_fields]
      exact restCarried

theorem exists_carries_segment
    (endianness : Endianness) (data : List UInt8) (position : Nat) :
    ∃ entry : SegmentEntry, entry.sections.length < UInt32.size ∧
      Carries data position (encodeAll endianness entry.fields) := by
  obtain ⟨address, addressCarried⟩ := exists_carries_bits64 endianness data position
  obtain ⟨size, sizeCarried⟩ := exists_carries_bits64 endianness data (position + 8)
  obtain ⟨count, countCarried⟩ := exists_carries_bits32 endianness data (position + 8 + 8)
  obtain ⟨sections, sectionsLength, sectionsCarried⟩ :=
    exists_carries_sections endianness data (position + 8 + 8 + 4) count.toNat
  have countValue : UInt32.ofNat sections.length = count := by
    rw [sectionsLength, UInt32.ofNat_toNat]
  refine ⟨⟨address, size, sections⟩, ?_, ?_⟩
  · rw [sectionsLength]
    exact count.toNat_lt
  · rw [SegmentEntry.fields, countValue]
    exact addressCarried.cons (sizeCarried.cons (countCarried.cons sectionsCarried))

theorem exists_carries_segments
    (endianness : Endianness) (data : List UInt8) (position count : Nat) :
    ∃ entries : List SegmentEntry, entries.length = count ∧
      (∀ entry ∈ entries, entry.sections.length < UInt32.size) ∧
      Carries data position
        (encodeAll endianness (entries.flatMap SegmentEntry.fields)) := by
  induction count generalizing position with
  | zero =>
      exact ⟨[], rfl, fun _ member => absurd member List.not_mem_nil, Carries.nil⟩
  | succ count inductionHypothesis =>
      obtain ⟨entry, entryCounted, entryCarried⟩ :=
        exists_carries_segment endianness data position
      obtain ⟨rest, restLength, restCounted, restCarried⟩ :=
        inductionHypothesis (position + entry.byteCount)
      refine ⟨entry :: rest, by rw [List.length_cons, restLength],
        List.forall_mem_cons.mpr ⟨entryCounted, restCounted⟩, ?_⟩
      rw [List.flatMap_cons, encodeAll_append]
      apply entryCarried.append
      rw [SegmentEntry.length_encodeAll_fields]
      exact restCarried

/-- A buffer that carries the magic number carries a table. -/
theorem exists_carries_encode
    {data : List UInt8} (opened : Carries data 0 ((bits32 magic).encode endianness)) :
    ∃ table : SegmentTable, table.Counted ∧ Carries data 0 (table.encode endianness) := by
  obtain ⟨count, countCarried⟩ := exists_carries_bits32 endianness data (0 + 4)
  obtain ⟨entries, entriesLength, counted, entriesCarried⟩ :=
    exists_carries_segments endianness data (0 + 4 + 4) count.toNat
  have countValue : UInt32.ofNat entries.length = count := by
    rw [entriesLength, UInt32.ofNat_toNat]
  have segmentsCounted : entries.length < UInt32.size := by
    rw [entriesLength]
    exact count.toNat_lt
  refine ⟨entries, ⟨segmentsCounted, counted⟩, ?_⟩
  change Carries data 0 (encodeAll endianness (fields entries))
  rw [fields, countValue]
  exact opened.cons (countCarried.cons entriesCarried)

/-! ## What is read at all -/

/-- A magic number is recognised only in one of the two byte orders. -/
theorem stored_of_orderOfMagic?
    {stored : UInt32} {order : ByteOrder} (recognised : orderOfMagic? stored = some order) :
    ∃ endianness,
      (bits32 stored).encode .little = (bits32 magic).encode endianness := by
  unfold orderOfMagic? at recognised
  split at recognised
  · rename_i direct
    exact ⟨.little, by rw [direct]⟩
  · split at recognised
    · rename_i swapped
      refine ⟨.big, ?_⟩
      rw [swapped]
      decide
    · cases recognised

/-- Reading gets past the magic number only in a buffer that carries a table. -/
theorem exists_carries_of_parse
    {data : List UInt8} {segments : List Segment}
    (succeeded : (parse data).result = .ok segments) :
    ∃ (endianness : Endianness) (table : SegmentTable),
      table.Counted ∧ Carries data 0 (table.encode endianness) := by
  obtain ⟨stored, storedCarried⟩ := exists_carries_bits32 .little data 0
  have magicRead := read32_of_carries storedCarried (by decide)
  change ByteOrder.direct.read32 data 0 = _ at magicRead
  rw [parse, magicRead, bind_assoc, demand_bind_result_eq_ok_iff] at succeeded
  obtain ⟨_, remaining⟩ := succeeded
  rw [pure_bind] at remaining
  cases recognised : orderOfMagic? stored with
  | none =>
      rw [recognised] at remaining
      cases remaining
  | some order =>
      obtain ⟨endianness, sameBytes⟩ := stored_of_orderOfMagic? recognised
      rw [sameBytes] at storedCarried
      obtain ⟨table, counted, carried⟩ := exists_carries_encode storedCarried
      exact ⟨endianness, table, counted, carried⟩

/-- Whatever is read starts with the stored form of a well-formed table, and is what that table
accepts. -/
theorem exists_encode_isPrefix_of_parse
    {data : List UInt8} {segments : List Segment}
    (succeeded : (parse data).result = .ok segments) :
    ∃ (endianness : Endianness) (table : SegmentTable),
      table.Counted ∧ table.WellPlaced ∧ table.encode endianness <+: data ∧
        segments = table.map SegmentEntry.accepted := by
  obtain ⟨endianness, table, counted, carried⟩ := exists_carries_of_parse succeeded
  rw [parse_eq_scan counted carried] at succeeded
  obtain ⟨wellPlaced, inside⟩ := wellPlaced_inside_of_scan succeeded
  rw [scan_of_inside wellPlaced inside, Except.ok.injEq] at succeeded
  have found := carried.take_drop (by
    rw [Nat.zero_add, length_encode]
    exact inside.1)
  refine ⟨endianness, table, counted, wellPlaced, ?_, succeeded.symm⟩
  rw [← found, List.drop_zero]
  exact List.take_prefix _ _

theorem exists_encode_isPrefix_of_parse_topmostTable :
    (parse (topmostTable.encode .big ++ [7, 7])).result = .ok topmostSegments ∧
      ∃ (endianness : Endianness) (table : SegmentTable),
        table.Counted ∧ table.WellPlaced ∧
          table.encode endianness <+: topmostTable.encode .big ++ [7, 7] ∧
          topmostSegments = table.map SegmentEntry.accepted :=
  ⟨rfl, exists_encode_isPrefix_of_parse rfl⟩

end SegmentTable

end BinaryImage
