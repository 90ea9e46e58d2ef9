import BinaryImage.Proofs.SegmentTable.Placement
import BinaryImage.SegmentTable.Encoding

/-!
# States of the reading loops

The reading of a table goes around two nested loops whose counts come from the buffer. Main
statement: in every state at the head of one of the loops, also in runs that fail later, the
cursor accounts for what has been read and lies inside the buffer, so that no count buys more
rounds than there are bytes; and every segment and section held so far is in its bounds.
-/

namespace BinaryImage

open Checked

/-- The range of a segment ends at an address, and every section lies between its ends. -/
def Segment.InBounds (segment : Segment) : Prop :=
  segment.range.location.toNat + segment.range.length.toNat ≤ UInt64.size - 1 ∧
    ∀ kept ∈ segment.sections,
      segment.range.location.toNat ≤ kept.location.toNat ∧
        kept.location.toNat + kept.length.toNat ≤
          segment.range.location.toNat + segment.range.length.toNat

namespace SegmentTable

/-- What stands at the start of a segment: its range, and the count of its sections. -/
structure SegmentHeader where
  range : AddressRange
  count : UInt32
  deriving DecidableEq, Repr

def readHeader (order : ByteOrder) (data : List UInt8) (cursor : UInt64) :
    Checked (Read SegmentHeader) := do
  let address ← order.read64 data cursor
  let size ← order.read64 data address.next
  let range : AddressRange := ⟨address.value, size.value⟩
  range.validate
  let count ← order.read32 data size.next
  return ⟨⟨range, count.value⟩, count.next⟩

theorem readSegment_eq (order : ByteOrder) (data : List UInt8) (loop : SegmentLoop) :
    readSegment order data loop = (do
      let header ← readHeader order data loop.cursor
      let sections ← iterate (readSection order data header.value.range)
        header.value.count.toNat ⟨header.next, []⟩
      return ⟨sections.cursor, loop.accepted ++ [⟨header.value.range, sections.kept⟩]⟩) := by
  simp only [readSegment, readHeader, bind_assoc, pure_bind]

/-- A state at the head of a loop, with the rounds that are left. While the sections of a segment
are read, the segments accepted before it and its own range are held as well. -/
inductive LoopState where
  | atSegment (left : Nat) (loop : SegmentLoop)
  | atSection (left : Nat) (accepted : List Segment) (range : AddressRange)
      (sectionsLeft : Nat) (loop : SectionLoop)
  deriving DecidableEq, Repr

namespace LoopState

def cursor : LoopState → UInt64
  | atSegment _ loop => loop.cursor
  | atSection _ _ _ _ loop => loop.cursor

/-- The segments held so far, the one whose sections are being read included. -/
def segments : LoopState → List Segment
  | atSegment _ loop => loop.accepted
  | atSection _ accepted range _ loop => accepted ++ [⟨range, loop.kept⟩]

end LoopState

/-- The magic number and the count of segments are read, and the loop over segments is about to
start. -/
def Opens (data : List UInt8) (order : ByteOrder) (count : Nat) (start : SegmentLoop) : Prop :=
  ∃ stored counted,
    (ByteOrder.direct.read32 data 0).result = .ok stored ∧
      orderOfMagic? stored.value = some order ∧
      (order.read32 data stored.next).result = .ok counted ∧
      count = counted.value.toNat ∧ start = ⟨counted.next, []⟩

/-- The states at the head of a loop that the reading of a buffer comes to. Along the way, the
headers of segments and the entries of sections that have been read in full are counted. -/
inductive Reaches (data : List UInt8) (order : ByteOrder) : Nat → Nat → LoopState → Prop
  | start {count : Nat} {start : SegmentLoop} :
      Opens data order count start →
      Reaches data order 0 0 (.atSegment count start)
  | header {headers entries left : Nat} {loop : SegmentLoop} {header : Read SegmentHeader} :
      Reaches data order headers entries (.atSegment (left + 1) loop) →
      (readHeader order data loop.cursor).result = .ok header →
      Reaches data order (headers + 1) entries
        (.atSection left loop.accepted header.value.range header.value.count.toNat
          ⟨header.next, []⟩)
  | entry {headers entries left sectionsLeft : Nat} {accepted : List Segment}
      {range : AddressRange} {loop next : SectionLoop} :
      Reaches data order headers entries
        (.atSection left accepted range (sectionsLeft + 1) loop) →
      (readSection order data range loop).result = .ok next →
      Reaches data order headers (entries + 1)
        (.atSection left accepted range sectionsLeft next)
  | close {headers entries left : Nat} {accepted : List Segment}
      {range : AddressRange} {loop : SectionLoop} :
      Reaches data order headers entries (.atSection left accepted range 0 loop) →
      Reaches data order headers entries
        (.atSegment left ⟨loop.cursor, accepted ++ [⟨range, loop.kept⟩]⟩)

/-! ## What one read does -/

variable {data : List UInt8} {order : ByteOrder}

theorem readHeader_result
    {cursor : UInt64} {header : Read SegmentHeader}
    (succeeded : (readHeader order data cursor).result = .ok header) :
    header.next.toNat = cursor.toNat + 20 ∧ header.next.toNat ≤ data.length ∧
      header.value.range.WellFormed := by
  obtain ⟨address, addressRead, remaining⟩ := bind_result_eq_ok_iff.mp succeeded
  obtain ⟨size, sizeRead, remaining⟩ := bind_result_eq_ok_iff.mp remaining
  obtain ⟨_, validated, remaining⟩ := bind_result_eq_ok_iff.mp remaining
  obtain ⟨count, countRead, remaining⟩ := bind_result_eq_ok_iff.mp remaining
  cases remaining
  have afterAddress := next_of_read64 addressRead
  have afterSize := next_of_read64 sizeRead
  have afterCount := next_of_read32 countRead
  refine ⟨?_, afterCount.2, AddressRange.wellFormed_of_validate validated⟩
  change count.next.toNat = _
  omega

theorem readSection_result
    {range : AddressRange} (wellFormed : range.WellFormed) {loop next : SectionLoop}
    (succeeded : (readSection order data range loop).result = .ok next) :
    next.cursor.toNat = loop.cursor.toNat + 8 ∧ next.cursor.toNat ≤ data.length ∧
      ∀ kept ∈ next.kept, kept ∈ loop.kept ∨ range.Accepts kept false := by
  obtain ⟨offset, offsetRead, remaining⟩ := bind_result_eq_ok_iff.mp succeeded
  obtain ⟨size, sizeRead, remaining⟩ := bind_result_eq_ok_iff.mp remaining
  obtain ⟨placed, placedResult, remaining⟩ := bind_result_eq_ok_iff.mp remaining
  cases remaining
  have afterOffset := next_of_read32 offsetRead
  have afterSize := next_of_read32 sizeRead
  refine ⟨?_, afterSize.2, ?_⟩
  · change size.next.toNat = _
    omega
  intro kept member
  rcases List.mem_append.mp member with earlier | latest
  · exact Or.inl earlier
  · right
    let entry : SectionEntry := ⟨offset.value, size.value⟩
    rw [placeSection_eq wellFormed entry] at placedResult
    split at placedResult
    · rename_i fits
      cases placedResult
      have same : kept = entry.rangeIn range := by simpa using latest
      rw [same]
      exact (fits.bounds wellFormed).2.2
    · cases placedResult
      simp at latest

/-! ## The invariant -/

/-- The cursor accounts for the headers and entries read so far and lies inside the buffer, and
every segment held so far is in its bounds. -/
structure LoopState.Accounted (data : List UInt8) (headers entries : Nat) (state : LoopState) :
    Prop where
  cursor : state.cursor.toNat = 8 + 20 * headers + 8 * entries
  inside : state.cursor.toNat ≤ data.length
  inBounds : ∀ segment ∈ state.segments, segment.InBounds

theorem wellFormed_of_le
    {range : AddressRange}
    (bound : range.location.toNat + range.length.toNat ≤ UInt64.size - 1) :
    range.WellFormed := by
  simp only [AddressRange.WellFormed, UInt64.size] at *
  omega

theorem accounted_start
    {count : Nat} {start : SegmentLoop} (opens : Opens data order count start) :
    (LoopState.atSegment count start).Accounted data 0 0 := by
  obtain ⟨stored, counted, storedRead, _, countRead, _, rfl⟩ := opens
  have afterStored := next_of_read32 storedRead
  have afterCount := next_of_read32 countRead
  have origin : (0 : UInt64).toNat = 0 := rfl
  refine ⟨?_, afterCount.2, ?_⟩
  · change counted.next.toNat = _
    omega
  · intro segment member
    cases member

theorem accounted_header
    {headers entries left : Nat} {loop : SegmentLoop} {header : Read SegmentHeader}
    (accounted : (LoopState.atSegment (left + 1) loop).Accounted data headers entries)
    (headerRead : (readHeader order data loop.cursor).result = .ok header) :
    (LoopState.atSection left loop.accepted header.value.range header.value.count.toNat
      ⟨header.next, []⟩).Accounted data (headers + 1) entries := by
  obtain ⟨moved, inside, wellFormed⟩ := readHeader_result headerRead
  have before := accounted.cursor
  refine ⟨?_, inside, ?_⟩
  · change loop.cursor.toNat = _ at before
    change header.next.toNat = _
    omega
  · intro segment member
    rcases List.mem_append.mp member with earlier | latest
    · exact accounted.inBounds segment earlier
    · rw [List.mem_singleton] at latest
      subst latest
      refine ⟨Nat.le_sub_one_of_lt wellFormed, ?_⟩
      intro kept member
      cases member

theorem accounted_entry
    {headers entries left sectionsLeft : Nat} {accepted : List Segment}
    {range : AddressRange} {loop next : SectionLoop}
    (accounted : (LoopState.atSection left accepted range (sectionsLeft + 1) loop).Accounted
      data headers entries)
    (entryRead : (readSection order data range loop).result = .ok next) :
    (LoopState.atSection left accepted range sectionsLeft next).Accounted
      data headers (entries + 1) := by
  have current : (Segment.mk range loop.kept).InBounds :=
    accounted.inBounds _ (List.mem_append_right accepted (List.mem_singleton.mpr rfl))
  have wellFormed := wellFormed_of_le current.1
  obtain ⟨moved, inside, keptOrPlaced⟩ := readSection_result wellFormed entryRead
  have before := accounted.cursor
  refine ⟨?_, inside, ?_⟩
  · change loop.cursor.toNat = _ at before
    change next.cursor.toNat = _
    omega
  · intro segment member
    rcases List.mem_append.mp member with earlier | latest
    · exact accounted.inBounds segment (List.mem_append_left _ earlier)
    · rw [List.mem_singleton] at latest
      subst latest
      refine ⟨current.1, ?_⟩
      intro kept keptMember
      rcases keptOrPlaced kept keptMember with older | placed
      · exact current.2 kept older
      · exact placed

theorem accounted_close
    {headers entries left : Nat} {accepted : List Segment}
    {range : AddressRange} {loop : SectionLoop}
    (accounted : (LoopState.atSection left accepted range 0 loop).Accounted
      data headers entries) :
    (LoopState.atSegment left
      ⟨loop.cursor, accepted ++ [⟨range, loop.kept⟩]⟩).Accounted data headers entries :=
  ⟨accounted.cursor, accounted.inside, accounted.inBounds⟩

theorem Reaches.accounted
    {headers entries : Nat} {state : LoopState}
    (reached : Reaches data order headers entries state) :
    state.Accounted data headers entries := by
  induction reached with
  | start opens => exact accounted_start opens
  | header _ headerRead inductionHypothesis =>
      exact accounted_header inductionHypothesis headerRead
  | entry _ entryRead inductionHypothesis =>
      exact accounted_entry inductionHypothesis entryRead
  | close _ inductionHypothesis => exact accounted_close inductionHypothesis

/-! ## Every state of the loops is reached -/

theorem Reaches.iterate_readSection
    {headers entries left done rest : Nat} {accepted : List Segment}
    {range : AddressRange} {loop next : SectionLoop}
    (reached : Reaches data order headers entries
      (.atSection left accepted range (done + rest) loop))
    (looped : (iterate (readSection order data range) done loop).result = .ok next) :
    Reaches data order headers (entries + done)
      (.atSection left accepted range rest next) := by
  induction done generalizing entries loop with
  | zero =>
      cases looped
      rwa [Nat.zero_add] at reached
  | succ done inductionHypothesis =>
      obtain ⟨middle, entryRead, remaining⟩ := bind_result_eq_ok_iff.mp looped
      rw [Nat.add_right_comm] at reached
      have further := inductionHypothesis (reached.entry entryRead) remaining
      rwa [Nat.add_assoc, Nat.add_comm 1 done] at further

theorem Reaches.readSegment
    {headers entries left : Nat} {loop next : SegmentLoop}
    (reached : Reaches data order headers entries (.atSegment (left + 1) loop))
    (segmentRead : (SegmentTable.readSegment order data loop).result = .ok next) :
    ∃ further, Reaches data order (headers + 1) (entries + further)
      (.atSegment left next) := by
  rw [readSegment_eq] at segmentRead
  obtain ⟨header, headerRead, remaining⟩ := bind_result_eq_ok_iff.mp segmentRead
  obtain ⟨sections, sectionsRead, finished⟩ := bind_result_eq_ok_iff.mp remaining
  cases finished
  have emptied : Reaches data order (headers + 1) (entries + header.value.count.toNat)
      (.atSection left loop.accepted header.value.range 0 sections) :=
    (reached.header headerRead).iterate_readSection sectionsRead
  exact ⟨header.value.count.toNat, emptied.close⟩

theorem Reaches.iterate_readSegment
    {headers entries done rest : Nat} {loop next : SegmentLoop}
    (reached : Reaches data order headers entries (.atSegment (done + rest) loop))
    (looped : (iterate (SegmentTable.readSegment order data) done loop).result = .ok next) :
    ∃ further, Reaches data order (headers + done) (entries + further)
      (.atSegment rest next) := by
  induction done generalizing headers entries loop with
  | zero =>
      cases looped
      rw [Nat.zero_add] at reached
      exact ⟨0, reached⟩
  | succ done inductionHypothesis =>
      obtain ⟨middle, segmentRead, remaining⟩ := bind_result_eq_ok_iff.mp looped
      rw [Nat.add_right_comm] at reached
      obtain ⟨inFirst, afterFirst⟩ := reached.readSegment segmentRead
      obtain ⟨inOthers, afterOthers⟩ := inductionHypothesis afterFirst remaining
      refine ⟨inFirst + inOthers, ?_⟩
      rwa [Nat.add_assoc headers, Nat.add_comm 1 done, Nat.add_assoc entries] at afterOthers

theorem parse_result_of_opens
    {count : Nat} {start : SegmentLoop} (opens : Opens data order count start) :
    (parse data).result =
      (SegmentLoop.accepted <$>
        iterate (SegmentTable.readSegment order data) count start).result := by
  obtain ⟨stored, counted, storedRead, recognised, countRead, rfl, rfl⟩ := opens
  rw [parse, bind_result_of_ok _ storedRead, recognised]
  change (SegmentLoop.accepted <$> readSegments order data stored.next).result = _
  rw [readSegments, map_bind, bind_result_of_ok _ countRead]

/-- In every state at the head of a loop, the cursor accounts for the headers and entries read,
they are no more than an eighth of the bytes, and what is held is in its bounds. The states are
all that the loops of the reading come to, in runs that succeed and in runs that fail later. -/
theorem loopStates_accounted (data : List UInt8) (order : ByteOrder) :
    (∀ headers entries state, Reaches data order headers entries state →
      state.cursor.toNat = 8 + 20 * headers + 8 * entries ∧
        state.cursor.toNat ≤ data.length ∧
        headers + entries ≤ data.length / 8 ∧
        ∀ segment ∈ state.segments, segment.InBounds) ∧
    (∀ count start, Opens data order count start →
      (parse data).result =
          (SegmentLoop.accepted <$>
            iterate (SegmentTable.readSegment order data) count start).result ∧
        ∀ done ≤ count, ∀ loop,
          (iterate (SegmentTable.readSegment order data) done start).result = .ok loop →
            ∃ entries, Reaches data order done entries (.atSegment (count - done) loop)) ∧
    ∀ headers entries left accepted range sectionsLeft loop,
      Reaches data order headers entries
          (.atSection left accepted range sectionsLeft loop) →
        ∀ done ≤ sectionsLeft, ∀ next,
          (iterate (readSection order data range) done loop).result = .ok next →
            Reaches data order headers (entries + done)
              (.atSection left accepted range (sectionsLeft - done) next) := by
  refine ⟨?_, ?_, ?_⟩
  · intro headers entries state reached
    obtain ⟨cursor, inside, inBounds⟩ := reached.accounted
    exact ⟨cursor, inside, by omega, inBounds⟩
  · intro count start opens
    refine ⟨parse_result_of_opens opens, ?_⟩
    intro done within loop looped
    have begun := Reaches.start opens
    rw [← Nat.add_sub_cancel' within] at begun
    obtain ⟨entries, reached⟩ := begun.iterate_readSegment looped
    rw [Nat.zero_add, Nat.zero_add] at reached
    exact ⟨entries, reached⟩
  · intro headers entries left accepted range sectionsLeft loop reached done within next looped
    rw [← Nat.add_sub_cancel' within] at reached
    exact reached.iterate_readSection looped

/-- A table that breaks off behind the sections of its first segment. -/
def brokenOffImage : List UInt8 := (topmostTable.encode .big).take 52

/-- With one section dropped and one kept, the cursor accounts for both; the reading fails later. -/
theorem loopStates_accounted_brokenOffImage :
    (parse brokenOffImage).result = .error (.memory .outOfRange) ∧
      ∃ state, Reaches brokenOffImage .swapped 1 2 state ∧
        state.segments =
          [⟨⟨0xffffffffffffff00, 0xff⟩, [⟨0xffffffffffffff10, 0x10⟩]⟩] ∧
        state.cursor.toNat = 8 + 20 * 1 + 8 * 2 ∧
        state.cursor.toNat ≤ brokenOffImage.length ∧
        1 + 2 ≤ brokenOffImage.length / 8 ∧
        ∀ segment ∈ state.segments, segment.InBounds := by
  have opens : Opens brokenOffImage .swapped 2 ⟨8, []⟩ :=
    ⟨⟨_, 4⟩, ⟨2, 8⟩, rfl, by decide, rfl, rfl, rfl⟩
  have headerRead : (readHeader .swapped brokenOffImage 8).result =
      .ok ⟨⟨⟨0xffffffffffffff00, 0xff⟩, 3⟩, 28⟩ := rfl
  have dropped :
      (readSection .swapped brokenOffImage ⟨0xffffffffffffff00, 0xff⟩ ⟨28, []⟩).result =
        .ok ⟨36, []⟩ := rfl
  have kept :
      (readSection .swapped brokenOffImage ⟨0xffffffffffffff00, 0xff⟩ ⟨36, []⟩).result =
        .ok ⟨44, [⟨0xffffffffffffff10, 0x10⟩]⟩ := rfl
  have reached : Reaches brokenOffImage .swapped 1 2
      (.atSection 1 [] ⟨0xffffffffffffff00, 0xff⟩ 1 ⟨44, [⟨0xffffffffffffff10, 0x10⟩]⟩) :=
    .entry (.entry (.header (.start opens) headerRead) dropped) kept
  exact ⟨rfl, _, reached, rfl, (loopStates_accounted brokenOffImage .swapped).1 1 2 _ reached⟩

end SegmentTable

end BinaryImage
