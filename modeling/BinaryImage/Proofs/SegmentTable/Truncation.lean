import BinaryImage.Proofs.SegmentTable.Outcome

/-!
# Tables that are cut off

Reading the first bytes of a stored table either comes to a segment whose end is no address, or
runs out of bytes, or gets through. Main statements: which of the three happens, and so where
exactly reading fails, for every table and every cut; what the sections say does not matter. Nor
does the byte order, which leaves even the records the same.
-/

namespace BinaryImage

open Checked

/-- What remains of a segment where nothing is known of its sections but their count. -/
def SegmentEntry.outline (entry : SegmentEntry) : AddressRange × Nat :=
  (entry.range, entry.sections.length)

namespace SegmentTable

/-- Where a table has a segment whose end is no address: the position right behind the size of the
first such segment. -/
def overflowPosition (table : SegmentTable) : Nat :=
  byteCount (table.takeWhile fun entry => entry.range.WellFormed) + 16

/-! ## Running out of bytes -/

variable {data : List UInt8} {position : Nat}

theorem scanSections_of_short
    (addressable : Addressable data) {segment : AddressRange}
    (wellFormed : segment.WellFormed) {entries : List SectionEntry}
    (start : position ≤ data.length)
    (short : data.length < position + 8 * entries.length) :
    (scanSections data.length segment position entries).result =
      .error (.memory .outOfRange) := by
  induction entries generalizing position with
  | nil =>
      rw [List.length_nil] at short
      omega
  | cons entry rest inductionHypothesis =>
      rw [List.length_cons] at short
      rw [scanSections, demand_bind_result addressable (by decide) start]
      split
      · rename_i offsetThere
        rw [demand_bind_result addressable (by decide) offsetThere]
        split
        · rename_i sizeThere
          have restShort := inductionHypothesis sizeThere (by omega)
          rw [placeSection_eq wellFormed]
          split
          · rw [pure_bind]
            exact bind_result_of_error _ restShort
          · rw [bind_result_of_ok _ rfl]
            exact bind_result_of_error _ restShort
        · rfl
      · rfl

/-- A segment whose end is no address is found out once its size is read, and not before. -/
theorem scanSegment_of_malformed
    (addressable : Addressable data) {entry : SegmentEntry}
    (malformed : ¬entry.range.WellFormed) (start : position ≤ data.length) :
    (scanSegment data.length position entry).result =
      if position + 16 ≤ data.length then .error (.plain .overflow)
      else .error (.memory .outOfRange) := by
  rw [scanSegment, demand_bind_result addressable (by decide) start]
  split
  · rename_i addressThere
    rw [demand_bind_result addressable (by decide) addressThere,
      AddressRange.validate_eq, if_neg malformed]
    rfl
  · rw [if_neg (by omega)]

theorem scanSegment_of_short
    (addressable : Addressable data) {entry : SegmentEntry}
    (wellFormed : entry.range.WellFormed) (start : position ≤ data.length)
    (short : data.length < position + entry.byteCount) :
    (scanSegment data.length position entry).result = .error (.memory .outOfRange) := by
  rw [SegmentEntry.byteCount] at short
  rw [scanSegment, demand_bind_result addressable (by decide) start]
  split
  · rename_i addressThere
    rw [demand_bind_result addressable (by decide) addressThere]
    split
    · rename_i sizeThere
      rw [AddressRange.validate_of_wellFormed wellFormed, pure_bind,
        demand_bind_result addressable (by decide) sizeThere]
      split
      · rename_i countThere
        have sectionsShort :
            data.length < position + 16 + 4 + 8 * entry.sections.length := by
          omega
        exact bind_result_of_error _ <|
          scanSections_of_short addressable wellFormed countThere sectionsShort
      · rfl
    · rfl
  · rfl

/-! ## The outcome at every size -/

theorem scanSegments_result
    (addressable : Addressable data) (entries : List SegmentEntry)
    (start : position ≤ data.length) :
    (scanSegments data.length position entries).result =
      if WellPlaced entries then
        if position + SegmentEntry.byteCounts entries ≤ data.length then
          .ok (entries.map SegmentEntry.accepted)
        else .error (.memory .outOfRange)
      else if position + SegmentEntry.byteCounts
          (entries.takeWhile fun entry => entry.range.WellFormed) + 16 ≤ data.length then
        .error (.plain .overflow)
      else .error (.memory .outOfRange) := by
  induction entries generalizing position with
  | nil =>
      have placed : WellPlaced [] := fun _ member => absurd member List.not_mem_nil
      rw [if_pos placed, SegmentEntry.byteCounts_nil, Nat.add_zero, if_pos start]
      rfl
  | cons entry rest inductionHypothesis =>
      rw [scanSegments]
      by_cases wellFormed : entry.range.WellFormed
      · have placed_iff : WellPlaced (entry :: rest) ↔ WellPlaced rest := by
          rw [WellPlaced, List.forall_mem_cons]
          exact and_iff_right wellFormed
        rw [List.takeWhile_cons_of_pos (by simpa using wellFormed)]
        simp only [placed_iff, List.map_cons, SegmentEntry.byteCounts_cons, ← Nat.add_assoc]
        -- The segment shifts the position of all that follows, and the outcome with it.
        by_cases there : position + entry.byteCount ≤ data.length
        · rw [scanSegment_of_inside wellFormed (addressable.inside there),
            bind_result_of_ok _ rfl, bind_result, inductionHypothesis there]
          split
          · split <;> rfl
          · split <;> rfl
        · have short := scanSegment_of_short addressable wellFormed start (by omega)
          rw [bind_result_of_error _ short]
          split
          · rw [if_neg (by omega)]
          · rw [if_neg (by omega)]
      · have misplaced : ¬WellPlaced (entry :: rest) := by
          intro placed
          exact wellFormed (placed entry List.mem_cons_self)
        rw [if_neg misplaced, List.takeWhile_cons_of_neg (by simpa using wellFormed)]
        have failed := scanSegment_of_malformed addressable wellFormed start
        rw [SegmentEntry.byteCounts_nil, Nat.add_zero]
        split at failed
        · rename_i there
          rw [bind_result_of_error _ failed, if_pos there]
        · rename_i missing
          rw [bind_result_of_error _ failed, if_neg missing]

theorem scan_result
    (addressable : Addressable data) (table : SegmentTable) :
    (table.scan data.length).result =
      if table.WellPlaced then
        if table.byteCount ≤ data.length then .ok (table.map SegmentEntry.accepted)
        else .error (.memory .outOfRange)
      else if table.overflowPosition ≤ data.length then .error (.plain .overflow)
      else .error (.memory .outOfRange) := by
  rw [scan, overflowPosition, byteCount, byteCount,
    demand_bind_result addressable (by decide) (Nat.zero_le _)]
  split
  · rename_i magicThere
    rw [demand_bind_result addressable (by decide) magicThere]
    split
    · rename_i countThere
      exact scanSegments_result addressable table countThere
    · split
      · rw [if_neg (by omega)]
      · rw [if_neg (by omega)]
  · split
    · rw [if_neg (by omega)]
    · rw [if_neg (by omega)]

/-! ## Outlines -/

section Outline

variable {table other : SegmentTable}

theorem byteCount_eq_of_outline
    (same : other.map SegmentEntry.outline = table.map SegmentEntry.outline) :
    other.byteCount = table.byteCount := by
  have sizes := congrArg
    (List.foldr (fun outline others => 20 + 8 * outline.2 + others) 0) same
  rw [List.foldr_map, List.foldr_map] at sizes
  exact congrArg (fun count => 8 + count) sizes

theorem wellPlaced_iff_outline :
    table.WellPlaced ↔
      ∀ outline ∈ table.map SegmentEntry.outline, outline.1.WellFormed := by
  rw [List.forall_mem_map]
  rfl

theorem counted_iff_outline :
    table.Counted ↔
      (table.map SegmentEntry.outline).length < UInt32.size ∧
        ∀ outline ∈ table.map SegmentEntry.outline, outline.2 < UInt32.size := by
  rw [List.length_map, List.forall_mem_map]
  exact ⟨fun counted => ⟨counted.segments, counted.sections⟩,
    fun counts => ⟨counts.1, counts.2⟩⟩

theorem overflowPosition_eq_of_outline
    (same : other.map SegmentEntry.outline = table.map SegmentEntry.outline) :
    other.overflowPosition = table.overflowPosition := by
  have leading := congrArg
    (List.takeWhile fun outline => decide outline.1.WellFormed) same
  rw [List.takeWhile_map, List.takeWhile_map] at leading
  exact congrArg (fun count => count + 16) (byteCount_eq_of_outline leading)

end Outline

/-! ## Cut tables -/

theorem parse_take_eq_scan
    (endianness : Endianness) {table : SegmentTable} (counted : table.Counted) (cut : Nat) :
    parse ((table.encode endianness).take cut) = table.scan (min cut table.byteCount) := by
  rw [parse_eq_scan counted (Carries.of_take _ cut), List.length_take, length_encode]

theorem parse_take_result
    (endianness : Endianness) {table : SegmentTable} {cut : Nat}
    (counted : table.Counted)
    (within : cut ≤ (table.encode endianness).length)
    (addressable : Addressable ((table.encode endianness).take cut)) :
    (parse ((table.encode endianness).take cut)).result =
      if table.WellPlaced then
        if table.byteCount ≤ cut then .ok (table.map SegmentEntry.accepted)
        else .error (.memory .outOfRange)
      else if table.overflowPosition ≤ cut then .error (.plain .overflow)
      else .error (.memory .outOfRange) := by
  rw [parse_eq_scan counted (Carries.of_take _ cut), scan_result addressable table,
    List.length_take_of_le within]

/-- What reading the first bytes of a stored table comes to. It fails with an overflow exactly
where the bytes reach beyond the size of a segment whose end is no address, succeeds exactly where
there is no such segment and nothing is cut off, and runs out of bytes otherwise. Tables that
differ in nothing but what their sections say come to the same. -/
theorem parse_take_encode
    (endianness : Endianness) (table : SegmentTable) (cut : Nat)
    (counted : table.Counted)
    (within : cut ≤ (table.encode endianness).length)
    (addressable : Addressable ((table.encode endianness).take cut)) :
    (parse ((table.encode endianness).take cut)).result =
        (if ¬table.WellPlaced ∧ table.overflowPosition ≤ cut then
          .error (.plain .overflow)
        else if table.WellPlaced ∧ cut = (table.encode endianness).length then
          .ok (table.map SegmentEntry.accepted)
        else .error (.memory .outOfRange)) ∧
      ∀ other : SegmentTable,
        other.map SegmentEntry.outline = table.map SegmentEntry.outline →
          (parse ((other.encode endianness).take cut)).result.map (fun _ => ()) =
            (parse ((table.encode endianness).take cut)).result.map (fun _ => ()) := by
  have outcome := parse_take_result endianness counted within addressable
  rw [length_encode] at within
  constructor
  · rw [outcome, length_encode]
    by_cases wellPlaced : table.WellPlaced
    · have complete_iff : table.byteCount ≤ cut ↔ cut = table.byteCount := by omega
      simp only [wellPlaced, if_true, not_true_eq_false, false_and, if_false, true_and,
        complete_iff]
    · simp only [wellPlaced, if_false, not_false_eq_true, true_and, false_and]
  · intro other same
    have sameCount := byteCount_eq_of_outline same
    have otherCounted : other.Counted := by
      rw [counted_iff_outline, same, ← counted_iff_outline]
      exact counted
    have otherWithin : cut ≤ (other.encode endianness).length := by
      rwa [length_encode, sameCount]
    have otherAddressable : Addressable ((other.encode endianness).take cut) := by
      rw [Addressable, List.length_take, length_encode] at addressable ⊢
      rwa [sameCount]
    have placed_iff : other.WellPlaced ↔ table.WellPlaced := by
      rw [wellPlaced_iff_outline, same, ← wellPlaced_iff_outline]
    rw [parse_take_result endianness otherCounted otherWithin otherAddressable, outcome,
      sameCount, overflowPosition_eq_of_outline same]
    by_cases wellPlaced : table.WellPlaced
    · rw [if_pos wellPlaced, if_pos (placed_iff.mpr wellPlaced)]
      split <;> rfl
    · rw [if_neg wellPlaced, if_neg (mt placed_iff.mp wellPlaced)]

/-- A table whose second segment runs past the address space, and whose first has a section that
does not fit. -/
def overrunningTable : SegmentTable :=
  [⟨0x1000, 0x10, [⟨0, 0x20⟩]⟩, ⟨0xffffffffffffffef, 0x100, []⟩]

/-- Cut off behind the size of the second segment, the table overflows; before it, it runs out. -/
theorem parse_take_encode_overrunningTable :
    overrunningTable.Counted ∧ overrunningTable.overflowPosition = 52 ∧
      (parse ((overrunningTable.encode .big).take 52)).result =
        .error (.plain .overflow) ∧
      (parse ((overrunningTable.encode .big).take 51)).result =
        .error (.memory .outOfRange) := by
  have counted : overrunningTable.Counted := by decide
  have behind := parse_take_encode .big overrunningTable 52 counted (by decide) (by decide)
  have before := parse_take_encode .big overrunningTable 51 counted (by decide) (by decide)
  refine ⟨counted, by decide, ?_, ?_⟩
  · rw [behind.1, if_pos (by decide)]
  · rw [before.1, if_neg (by decide), if_neg (by decide)]

/-- Cut off anywhere, a table is read alike in both byte orders: to the same segments or the same
failure, with the same records. Its segments and sections may be malformed. -/
theorem parse_take_encode_little_big
    (table : SegmentTable) (cut : Nat) (counted : table.Counted) :
    (parse ((table.encode .little).take cut)).result =
        (parse ((table.encode .big).take cut)).result ∧
      (parse ((table.encode .little).take cut)).records =
        (parse ((table.encode .big).take cut)).records := by
  have alike : parse ((table.encode .little).take cut) =
      parse ((table.encode .big).take cut) := by
    rw [parse_take_eq_scan .little counted, parse_take_eq_scan .big counted]
  rw [alike]
  exact ⟨rfl, rfl⟩

/-- One section is dropped before the bytes run out, and leaves its record in either byte order. -/
theorem parse_take_encode_little_big_topmostTable :
    topmostTable.Counted ∧
      (parse ((topmostTable.encode .little).take 52)).result =
        .error (.memory .outOfRange) ∧
      (parse ((topmostTable.encode .little).take 52)).trace =
        [.offsetOverflows 0x200 0xffffffffffffff00, .pastBuffer 8 52 52] ∧
      (parse ((topmostTable.encode .little).take 52)).result =
        (parse ((topmostTable.encode .big).take 52)).result ∧
      (parse ((topmostTable.encode .little).take 52)).records =
        (parse ((topmostTable.encode .big).take 52)).records := by
  have counted : topmostTable.Counted := by decide
  exact ⟨counted, rfl, rfl, parse_take_encode_little_big topmostTable 52 counted⟩

end SegmentTable

end BinaryImage
