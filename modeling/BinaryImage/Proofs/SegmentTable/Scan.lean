import BinaryImage.Proofs.SegmentTable.Layout
import BinaryImage.SegmentTable.Parsing

/-!
# Scanning a table

To scan a table is to go through its entries as the reader of a buffer does that carries the
table, asking for the bytes of each field but not looking at them. Main statement: reading a
buffer that carries a table is scanning that table up to the size of the buffer. So the byte
order, and the bytes themselves, are out of the way of everything that is said about reading.
-/

namespace BinaryImage

open Checked BinaryImage.Field

namespace SegmentTable

/-- Goes through the sections of a segment, in a buffer of a given size. -/
def scanSections (size : Nat) (segment : AddressRange) :
    Nat → List SectionEntry → Checked (List AddressRange)
  | _, [] => pure []
  | position, entry :: rest => do
    demand 4 position size
    demand 4 (position + 4) size
    let placed ← placeSection segment entry.offset entry.size
    let others ← scanSections size segment (position + 8) rest
    return placed.toList ++ others

def scanSegment (size position : Nat) (entry : SegmentEntry) : Checked Segment := do
  demand 8 position size
  demand 8 (position + 8) size
  entry.range.validate
  demand 4 (position + 16) size
  let sections ← scanSections size entry.range (position + 20) entry.sections
  return ⟨entry.range, sections⟩

def scanSegments (size : Nat) : Nat → List SegmentEntry → Checked (List Segment)
  | _, [] => pure []
  | position, entry :: rest => do
    let segment ← scanSegment size position entry
    let others ← scanSegments size (position + entry.byteCount) rest
    return segment :: others

def scan (size : Nat) (table : SegmentTable) : Checked (List Segment) := do
  demand 4 0 size
  demand 4 4 size
  scanSegments size 8 table

/-! ## How far a scan gets -/

theorem demand_bind_result_eq_ok_iff
    {α : Type} {width position size : Nat} {next : Unit → Checked α} {last : α} :
    (demand width position size >>= next).result = .ok last ↔
      Inside size (position + width) ∧ (next ()).result = .ok last := by
  rw [bind_result_eq_ok_iff, ← demand_result_eq_ok_iff]
  constructor
  · rintro ⟨_, succeeded, rest⟩
    exact ⟨succeeded, rest⟩
  · intro ⟨succeeded, rest⟩
    exact ⟨(), succeeded, rest⟩

/-- A scan of sections that succeeds has found all of their bytes. -/
theorem inside_of_scanSections
    {size position : Nat} {segment : AddressRange} {entries : List SectionEntry}
    {kept : List AddressRange} (start : Inside size position)
    (succeeded : (scanSections size segment position entries).result = .ok kept) :
    Inside size (position + 8 * entries.length) := by
  induction entries generalizing position kept with
  | nil => simpa using start
  | cons entry rest inductionHypothesis =>
      simp only [scanSections, demand_bind_result_eq_ok_iff] at succeeded
      obtain ⟨_, inside, remaining⟩ := succeeded
      obtain ⟨_, _, remaining⟩ := bind_result_eq_ok_iff.mp remaining
      obtain ⟨_, scanned, _⟩ := bind_result_eq_ok_iff.mp remaining
      have further := inductionHypothesis inside scanned
      rw [List.length_cons]
      exact further.mono (by omega)

theorem inside_of_scanSegment
    {size position : Nat} {entry : SegmentEntry} {segment : Segment}
    (succeeded : (scanSegment size position entry).result = .ok segment) :
    Inside size (position + entry.byteCount) := by
  simp only [scanSegment, demand_bind_result_eq_ok_iff] at succeeded
  obtain ⟨_, _, remaining⟩ := succeeded
  obtain ⟨_, _, remaining⟩ := bind_result_eq_ok_iff.mp remaining
  obtain ⟨header, remaining⟩ := demand_bind_result_eq_ok_iff.mp remaining
  obtain ⟨_, scanned, _⟩ := bind_result_eq_ok_iff.mp remaining
  have further := inside_of_scanSections header scanned
  rw [SegmentEntry.byteCount]
  exact further.mono (by omega)

/-! ## Reading is scanning -/

variable {endianness : Endianness} {data : List UInt8} {position : Nat}

theorem readSection_of_carries
    {segment : AddressRange} {entry : SectionEntry} (kept : List AddressRange)
    (carried : Carries data position (encodeAll endianness entry.fields))
    (start : Inside data.length position) :
    readSection (ByteOrder.select endianness) data segment
        ⟨UInt64.ofNat position, kept⟩ = (do
      demand 4 position data.length
      demand 4 (position + 4) data.length
      let placed ← placeSection segment entry.offset entry.size
      return ⟨UInt64.ofNat (position + 8), kept ++ placed.toList⟩) := by
  rw [readSection, read32_of_carries carried.head start.2, bind_assoc]
  apply bind_congr_of_ok
  intro _ offsetThere
  have afterOffset := demand_result_eq_ok_iff.mp offsetThere
  have sizeCarried :
      Carries data (position + 4) ((Field.bits32 entry.size).encode endianness) :=
    (carried.tail afterOffset).head
  rw [pure_bind, read32_of_carries sizeCarried afterOffset.2, bind_assoc]
  simp only [pure_bind, Nat.add_assoc]

theorem iterate_readSection_of_carries
    {segment : AddressRange} {entries : List SectionEntry} (kept : List AddressRange)
    (carried : Carries data position
      (encodeAll endianness (entries.flatMap SectionEntry.fields)))
    (start : Inside data.length position) :
    iterate (readSection (ByteOrder.select endianness) data segment) entries.length
        ⟨UInt64.ofNat position, kept⟩ =
      (scanSections data.length segment position entries >>= fun sections =>
        pure ⟨UInt64.ofNat (position + 8 * entries.length), kept ++ sections⟩) := by
  induction entries generalizing position kept with
  | nil => simp [iterate, scanSections]
  | cons entry rest inductionHypothesis =>
      rw [List.flatMap_cons, encodeAll_append] at carried
      rw [List.length_cons, iterate, readSection_of_carries kept carried.left start,
        scanSections]
      simp only [bind_assoc, pure_bind]
      apply bind_congr_of_ok
      intro _ _
      apply bind_congr_of_ok
      intro _ sizeThere
      -- What follows the entry is carried only where the entry is there in full.
      have afterEntry := demand_result_eq_ok_iff.mp sizeThere
      have restCarried := carried.advance (by
        rw [SectionEntry.length_encodeAll_fields]
        exact afterEntry.1)
      rw [SectionEntry.length_encodeAll_fields] at restCarried
      apply bind_congr_of_ok
      intro placed _
      rw [inductionHypothesis (kept ++ placed.toList) restCarried afterEntry]
      simp only [List.append_assoc, Nat.mul_succ, Nat.add_assoc, Nat.add_comm 8]

theorem readSegment_of_carries
    {entry : SegmentEntry} (accepted : List Segment)
    (counted : entry.sections.length < UInt32.size)
    (carried : Carries data position (encodeAll endianness entry.fields))
    (start : Inside data.length position) :
    readSegment (ByteOrder.select endianness) data ⟨UInt64.ofNat position, accepted⟩ =
      (scanSegment data.length position entry >>= fun segment =>
        pure ⟨UInt64.ofNat (position + entry.byteCount), accepted ++ [segment]⟩) := by
  rw [readSegment, scanSegment, read64_of_carries carried.head start.2]
  simp only [bind_assoc, pure_bind]
  apply bind_congr_of_ok
  intro _ addressThere
  have afterAddress := demand_result_eq_ok_iff.mp addressThere
  have sizeRest := carried.tail afterAddress
  have sizeCarried :
      Carries data (position + 8) ((Field.bits64 entry.size).encode endianness) :=
    sizeRest.head
  rw [read64_of_carries sizeCarried afterAddress.2]
  simp only [bind_assoc, pure_bind]
  apply bind_congr_of_ok
  intro _ sizeThere
  have afterSize := demand_result_eq_ok_iff.mp sizeThere
  have countRest := sizeRest.tail afterSize
  have countCarried :
      Carries data (position + 16)
        ((Field.bits32 (UInt32.ofNat entry.sections.length)).encode endianness) :=
    countRest.head
  change entry.range.validate >>= _ = _
  apply bind_congr_of_ok
  intro _ _
  change (ByteOrder.select endianness).read32 data (UInt64.ofNat (position + 16)) >>= _ = _
  rw [read32_of_carries countCarried afterSize.2]
  simp only [bind_assoc, pure_bind]
  apply bind_congr_of_ok
  intro _ countThere
  have afterCount := demand_result_eq_ok_iff.mp countThere
  have sectionsCarried :
      Carries data (position + 20)
        (encodeAll endianness (entry.sections.flatMap SectionEntry.fields)) :=
    countRest.tail afterCount
  rw [UInt32.toNat_ofNat_of_lt' counted]
  change iterate _ _ (SectionLoop.mk (UInt64.ofNat (position + 20)) []) >>= _ = _
  rw [iterate_readSection_of_carries [] sectionsCarried afterCount]
  simp only [bind_assoc, pure_bind, List.nil_append, SegmentEntry.byteCount, Nat.add_assoc]
  rfl

theorem iterate_readSegment_of_carries
    {entries : List SegmentEntry} (accepted : List Segment)
    (counted : ∀ entry ∈ entries, entry.sections.length < UInt32.size)
    (carried : Carries data position
      (encodeAll endianness (entries.flatMap SegmentEntry.fields)))
    (start : Inside data.length position) :
    iterate (readSegment (ByteOrder.select endianness) data) entries.length
        ⟨UInt64.ofNat position, accepted⟩ =
      (scanSegments data.length position entries >>= fun segments =>
        pure ⟨UInt64.ofNat (position + SegmentEntry.byteCounts entries),
          accepted ++ segments⟩) := by
  induction entries generalizing position accepted with
  | nil => simp [iterate, scanSegments, SegmentEntry.byteCounts_nil]
  | cons entry rest inductionHypothesis =>
      rw [List.flatMap_cons, encodeAll_append] at carried
      have entryCounted := counted entry List.mem_cons_self
      rw [List.length_cons, iterate,
        readSegment_of_carries accepted entryCounted carried.left start, scanSegments]
      simp only [bind_assoc, pure_bind]
      apply bind_congr_of_ok
      intro segment scanned
      have afterEntry := inside_of_scanSegment scanned
      have restCarried := carried.advance (by
        rw [SegmentEntry.length_encodeAll_fields]
        exact afterEntry.1)
      rw [SegmentEntry.length_encodeAll_fields] at restCarried
      rw [inductionHypothesis (accepted ++ [segment])
        (fun other member => counted other (List.mem_cons_of_mem entry member))
        restCarried afterEntry]
      simp only [List.append_assoc, List.singleton_append, SegmentEntry.byteCounts_cons,
        Nat.add_assoc]

/-- The magic number tells the byte order that it was stored in. -/
theorem orderOfMagic?_stored (endianness : Endianness) :
    ∃ stored : UInt32,
      (Field.bits32 stored).encode .little = (Field.bits32 magic).encode endianness ∧
        orderOfMagic? stored = some (ByteOrder.select endianness) := by
  cases endianness with
  | little => exact ⟨magic, rfl, by decide⟩
  | big => exact ⟨ByteOrder.swapped.swap32 magic, by decide, by decide⟩

/-- Reading a buffer that carries a table is scanning the table up to the size of the buffer. -/
theorem parse_eq_scan
    {table : SegmentTable} (counted : table.Counted)
    (carried : Carries data 0 (table.encode endianness)) :
    parse data = table.scan data.length := by
  change Carries data 0 (encodeAll endianness table.fields) at carried
  have start : Inside data.length 0 := ⟨Nat.zero_le _, by decide⟩
  obtain ⟨stored, sameBytes, ordered⟩ := orderOfMagic?_stored endianness
  have magicCarried : Carries data 0 ((Field.bits32 stored).encode .little) := by
    rw [sameBytes]
    exact carried.head
  have magicRead := read32_of_carries magicCarried start.2
  change ByteOrder.direct.read32 data 0 = _ at magicRead
  rw [parse, scan, magicRead, bind_assoc]
  apply bind_congr_of_ok
  intro _ magicThere
  have afterMagic := demand_result_eq_ok_iff.mp magicThere
  have countRest := carried.tail afterMagic
  have countCarried :
      Carries data 4 ((Field.bits32 (UInt32.ofNat table.length)).encode endianness) :=
    countRest.head
  simp only [pure_bind, ordered]
  change SegmentLoop.accepted <$> readSegments _ data (UInt64.ofNat 4) = _
  rw [readSegments, read32_of_carries countCarried afterMagic.2, bind_assoc, map_bind]
  apply bind_congr_of_ok
  intro _ countThere
  have afterCount := demand_result_eq_ok_iff.mp countThere
  have segmentsCarried :
      Carries data 8 (encodeAll endianness (table.flatMap SegmentEntry.fields)) :=
    countRest.tail afterCount
  simp only [pure_bind]
  rw [UInt32.toNat_ofNat_of_lt' counted.segments,
    iterate_readSegment_of_carries [] counted.sections segmentsCarried afterCount, map_bind]
  simp

end SegmentTable

end BinaryImage
