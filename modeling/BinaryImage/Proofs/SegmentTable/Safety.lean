import BinaryImage.Proofs.AddressRange.Queries
import BinaryImage.Proofs.SegmentTable.LoopStates
import BinaryImage.Proofs.SegmentTable.RoundTrip
import BinaryImage.Proofs.SegmentTable.Unambiguity

/-!
# Reading untrusted bytes

What can go wrong in a reading, whatever the bytes are. Main statement: nothing that the reading
takes to be in range is out of range, so that it is never at fault; its cursor never leaves the
buffer, not even between the fields of one entry; and it fails in one of three ways, of which the
first four bytes alone settle whether it is the one for data that is no table.
-/

namespace BinaryImage

open Checked BinaryImage.Field

/-! ## Operations -/

/-- A reading past the magic number runs out of bytes, or comes to a sum that is no address. -/
def ReadingFailure (failure : Failure) : Prop :=
  failure = .memory .outOfRange ∨ failure = .plain .overflow

theorem applyOffset_recoverable (address offset : UInt64) :
    FailsWithin (fun failure => failure.code ≠ .internalError)
      (Address.applyOffset address offset) := by
  rw [Address.applyOffset_eq]
  split
  · exact .pure _
  · exact .reject (Rejection.failure_code_ne_internalError _)

theorem containsRange_recoverable (outer inner : AddressRange) (partially : Bool) :
    FailsWithin (fun failure => failure.code ≠ .internalError)
      (outer.containsRange inner partially) :=
  (outer.containsRange_answers inner partially).recoverable

theorem validate_failsWithin (range : AddressRange) :
    FailsWithin ReadingFailure range.validate := by
  rw [AddressRange.validate_eq]
  split
  · exact .pure ()
  · exact .reject (Or.inr rfl)

theorem readBytes_failsWithin
    {width : Nat} (narrow : width < UInt64.size) (data : List UInt8) (cursor : UInt64) :
    FailsWithin ReadingFailure (readBytes width data cursor) := by
  rw [readBytes_eq data cursor narrow]
  split
  · exact .reject (Or.inr rfl)
  · split
    · exact .reject (Or.inl rfl)
    · exact .pure _

theorem read32_failsWithin (order : ByteOrder) (data : List UInt8) (cursor : UInt64) :
    FailsWithin ReadingFailure (order.read32 data cursor) :=
  (readBytes_failsWithin (by decide) data cursor).map _

theorem read64_failsWithin (order : ByteOrder) (data : List UInt8) (cursor : UInt64) :
    FailsWithin ReadingFailure (order.read64 data cursor) :=
  (readBytes_failsWithin (by decide) data cursor).map _

namespace SegmentTable

/-! ## Loops -/

/-- Whatever is wrong with a section, the reading goes on behind it. -/
theorem placeSection_failsWithin
    (allowed : Failure → Prop) (segment : AddressRange) (offset size : UInt32) :
    FailsWithin allowed (placeSection segment offset size) := by
  rw [placeSection]
  refine .bind (applyOffset_recoverable _ _).attempt ?_
  intro start
  cases start with
  | none => exact .pure none
  | some start =>
      refine .bind (containsRange_recoverable _ _ _).attempt ?_
      intro contained
      cases contained with
      | none => exact .pure none
      | some _ => exact .pure _

variable (order : ByteOrder) (data : List UInt8)

theorem readSection_failsWithin (segment : AddressRange) (loop : SectionLoop) :
    FailsWithin ReadingFailure (readSection order data segment loop) := by
  apply (read32_failsWithin order data loop.cursor).bind
  intro offset
  apply (read32_failsWithin order data offset.next).bind
  intro size
  refine .bind (placeSection_failsWithin _ segment _ _) ?_
  intro placed
  exact .pure _

theorem readSegment_failsWithin (loop : SegmentLoop) :
    FailsWithin ReadingFailure (readSegment order data loop) := by
  apply (read64_failsWithin order data loop.cursor).bind
  intro address
  apply (read64_failsWithin order data address.next).bind
  intro size
  apply (validate_failsWithin _).bind
  intro _
  apply (read32_failsWithin order data size.next).bind
  intro count
  apply (FailsWithin.iterate (readSection_failsWithin order data _) _ _).bind
  intro sections
  exact .pure _

theorem readSegments_failsWithin (cursor : UInt64) :
    FailsWithin ReadingFailure (readSegments order data cursor) := by
  apply (read32_failsWithin order data cursor).bind
  intro count
  exact .iterate (readSegment_failsWithin order data) _ _

theorem parse_failsWithin :
    FailsWithin (fun failure => failure = .plain .invalidData ∨ ReadingFailure failure)
      (parse data) := by
  intro failure failed
  cases stored : (ByteOrder.direct.read32 data 0).result with
  | error earlier =>
      rw [parse, bind_result_of_error _ stored] at failed
      cases failed
      exact Or.inr (read32_failsWithin .direct data 0 _ stored)
  | ok magicRead =>
      rw [parse, bind_result_of_ok _ stored] at failed
      cases recognised : orderOfMagic? magicRead.value with
      | none =>
          rw [recognised] at failed
          cases failed
          exact Or.inl rfl
      | some order =>
          rw [recognised] at failed
          exact Or.inr ((readSegments_failsWithin order data _).map _ failure failed)

/-! ## The magic number -/

/-- A magic number is passed over exactly when it is stored in neither byte order. -/
theorem orderOfMagic?_eq_none_iff {stored : UInt32} :
    orderOfMagic? stored = none ↔
      ∀ endianness, (bits32 stored).encode .little ≠ (bits32 magic).encode endianness := by
  constructor
  · intro unrecognised endianness sameBytes
    obtain ⟨other, otherBytes, recognised⟩ := orderOfMagic?_stored endianness
    have same : bits32 stored = bits32 other :=
      encode_injective .little rfl (sameBytes.trans otherBytes.symm)
    cases same
    rw [unrecognised] at recognised
    cases recognised
  · intro neither
    cases recognised : orderOfMagic? stored with
    | none => rfl
    | some order =>
        obtain ⟨endianness, sameBytes⟩ := stored_of_orderOfMagic? recognised
        exact absurd sameBytes (neither endianness)

theorem parse_eq_invalidData_iff (data : List UInt8) :
    (parse data).result = .error (.plain .invalidData) ↔
      4 ≤ data.length ∧
        ∀ endianness, data.take 4 ≠ (bits32 magic).encode endianness := by
  obtain ⟨stored, storedCarried⟩ := exists_carries_bits32 .little data 0
  have magicRead := read32_of_carries storedCarried (by decide)
  change ByteOrder.direct.read32 data 0 = _ at magicRead
  rw [parse, magicRead, bind_assoc]
  by_cases long : 4 ≤ data.length
  · have there : Inside data.length (0 + 4) := ⟨long, by decide⟩
    have found := storedCarried.take_drop (by
      rw [Field.length_encode, Nat.zero_add]
      exact long)
    rw [Field.length_encode, List.drop_zero] at found
    change data.take 4 = _ at found
    rw [demand_eq_pure there, pure_bind, pure_bind, found, ← orderOfMagic?_eq_none_iff]
    cases recognised : orderOfMagic? stored with
    | none => exact ⟨fun _ => ⟨long, rfl⟩, fun _ => rfl⟩
    | some order =>
        constructor
        · intro failed
          have within := readSegments_failsWithin order data (UInt64.ofNat (0 + 4))
          rcases within.map SegmentLoop.accepted _ failed with ranOut | overflowed
          · cases ranOut
          · cases overflowed
        · rintro ⟨_, unrecognised⟩
          cases unrecognised
  · have past : data.length < 0 + 4 := by omega
    have missing : (demand 4 0 data.length).result = .error (.memory .outOfRange) := by
      rw [demand, if_neg (by decide), if_pos past]
      rfl
    rw [bind_result_of_error _ missing]
    constructor
    · intro invalid
      cases invalid
    · intro present
      exact absurd present.1 long

/-! ## The cursor -/

/-- The reads that the reading of a buffer comes to, each with its width and the cursor that it
starts at. -/
inductive Attempts (data : List UInt8) : Width → UInt64 → Prop
  | magic : Attempts data .four 0
  | segmentCount {stored : Read UInt32} {order : ByteOrder} :
      (ByteOrder.direct.read32 data 0).result = .ok stored →
      orderOfMagic? stored.value = some order →
      Attempts data .four stored.next
  | address {order : ByteOrder} {headers entries left : Nat} {loop : SegmentLoop} :
      Reaches data order headers entries (.atSegment (left + 1) loop) →
      Attempts data .eight loop.cursor
  | size {order : ByteOrder} {headers entries left : Nat} {loop : SegmentLoop}
      {address : Read UInt64} :
      Reaches data order headers entries (.atSegment (left + 1) loop) →
      (order.read64 data loop.cursor).result = .ok address →
      Attempts data .eight address.next
  | sectionCount {order : ByteOrder} {headers entries left : Nat} {loop : SegmentLoop}
      {address size : Read UInt64} :
      Reaches data order headers entries (.atSegment (left + 1) loop) →
      (order.read64 data loop.cursor).result = .ok address →
      (order.read64 data address.next).result = .ok size →
      (AddressRange.mk address.value size.value).validate.result = .ok () →
      Attempts data .four size.next
  | sectionOffset {order : ByteOrder} {headers entries left sectionsLeft : Nat}
      {accepted : List Segment} {range : AddressRange} {loop : SectionLoop} :
      Reaches data order headers entries
        (.atSection left accepted range (sectionsLeft + 1) loop) →
      Attempts data .four loop.cursor
  | sectionSize {order : ByteOrder} {headers entries left sectionsLeft : Nat}
      {accepted : List Segment} {range : AddressRange} {loop : SectionLoop}
      {offset : Read UInt32} :
      Reaches data order headers entries
        (.atSection left accepted range (sectionsLeft + 1) loop) →
      (order.read32 data loop.cursor).result = .ok offset →
      Attempts data .four offset.next

variable {data}

theorem Attempts.cursor_le
    {width : Width} {cursor : UInt64} (attempted : Attempts data width cursor) :
    cursor.toNat ≤ data.length := by
  cases attempted with
  | magic => exact Nat.zero_le _
  | segmentCount storedRead _ => exact (next_of_read32 storedRead).2
  | address reached => exact reached.accounted.inside
  | size _ addressRead => exact (next_of_read64 addressRead).2
  | sectionCount _ _ sizeRead _ => exact (next_of_read64 sizeRead).2
  | sectionOffset reached => exact reached.accounted.inside
  | sectionSize _ offsetRead => exact (next_of_read32 offsetRead).2

/-! ## Where bytes run out -/

theorem past_of_readBytes
    {width : Nat} {cursor : UInt64} (narrow : width < UInt64.size)
    (ranOut : (readBytes width data cursor).result = .error (.memory .outOfRange)) :
    data.length < cursor.toNat + width := by
  rw [readBytes_eq data cursor narrow] at ranOut
  split at ranOut
  · cases ranOut
  · split at ranOut
    · assumption
    · cases ranOut

theorem past_of_read32
    {order : ByteOrder} {cursor : UInt64}
    (ranOut : (order.read32 data cursor).result = .error (.memory .outOfRange)) :
    data.length < cursor.toNat + 4 :=
  past_of_readBytes (by decide) (map_result_eq_error_iff.mp ranOut)

theorem past_of_read64
    {order : ByteOrder} {cursor : UInt64}
    (ranOut : (order.read64 data cursor).result = .error (.memory .outOfRange)) :
    data.length < cursor.toNat + 8 :=
  past_of_readBytes (by decide) (map_result_eq_error_iff.mp ranOut)

/-- Some read of the reading asks for bytes behind the end of the buffer. -/
def Overruns (data : List UInt8) : Prop :=
  ∃ width cursor, Attempts data width cursor ∧
    data.length < cursor.toNat + width.byteCount

variable {order : ByteOrder} {headers entries left : Nat}

theorem Reaches.overruns_of_readSection
    {sectionsLeft : Nat} {accepted : List Segment} {range : AddressRange} {loop : SectionLoop}
    (reached : Reaches data order headers entries
      (.atSection left accepted range (sectionsLeft + 1) loop))
    (ranOut : (readSection order data range loop).result = .error (.memory .outOfRange)) :
    Overruns data := by
  rcases bind_result_eq_error_iff.mp ranOut with atOffset | ⟨offset, offsetRead, remaining⟩
  · exact ⟨.four, _, .sectionOffset reached, past_of_read32 atOffset⟩
  rcases bind_result_eq_error_iff.mp remaining with atSize | ⟨size, _, remaining⟩
  · exact ⟨.four, _, .sectionSize reached offsetRead, past_of_read32 atSize⟩
  rcases bind_result_eq_error_iff.mp remaining with misplaced | ⟨_, _, finished⟩
  · exact (placeSection_failsWithin (fun _ => False) _ _ _ _ misplaced).elim
  · cases finished

theorem Reaches.overruns_of_readHeader
    {loop : SegmentLoop}
    (reached : Reaches data order headers entries (.atSegment (left + 1) loop))
    (ranOut : (readHeader order data loop.cursor).result = .error (.memory .outOfRange)) :
    Overruns data := by
  rcases bind_result_eq_error_iff.mp ranOut with atAddress | ⟨address, addressRead, remaining⟩
  · exact ⟨.eight, _, .address reached, past_of_read64 atAddress⟩
  rcases bind_result_eq_error_iff.mp remaining with atSize | ⟨size, sizeRead, remaining⟩
  · exact ⟨.eight, _, .size reached addressRead, past_of_read64 atSize⟩
  rcases bind_result_eq_error_iff.mp remaining with malformed | ⟨_, validated, remaining⟩
  · rw [AddressRange.validate_eq] at malformed
    split at malformed
    · cases malformed
    · cases malformed
  rcases bind_result_eq_error_iff.mp remaining with atCount | ⟨_, _, finished⟩
  · exact ⟨.four, _, .sectionCount reached addressRead sizeRead validated,
      past_of_read32 atCount⟩
  · cases finished

theorem Reaches.overruns_of_readSegment
    {loop : SegmentLoop}
    (reached : Reaches data order headers entries (.atSegment (left + 1) loop))
    (ranOut : (SegmentTable.readSegment order data loop).result =
      .error (.memory .outOfRange)) :
    Overruns data := by
  rw [readSegment_eq] at ranOut
  rcases bind_result_eq_error_iff.mp ranOut with atHeader | ⟨header, headerRead, remaining⟩
  · exact reached.overruns_of_readHeader atHeader
  rcases bind_result_eq_error_iff.mp remaining with inSections | ⟨_, _, finished⟩
  · obtain ⟨done, within, next, looped, atSection⟩ :=
      exists_round_of_iterate_result inSections
    obtain ⟨rest, split⟩ := Nat.exists_eq_add_of_lt within
    have begun := reached.header headerRead
    rw [split, Nat.add_assoc] at begun
    exact (begun.iterate_readSection looped).overruns_of_readSection atSection
  · cases finished

theorem overruns_of_parse
    (ranOut : (parse data).result = .error (.memory .outOfRange)) : Overruns data := by
  rcases bind_result_eq_error_iff.mp ranOut with atMagic | ⟨stored, storedRead, remaining⟩
  · exact ⟨.four, _, .magic, past_of_read32 atMagic⟩
  cases recognised : orderOfMagic? stored.value with
  | none =>
      rw [recognised] at remaining
      cases remaining
  | some order =>
      rw [recognised] at remaining
      have inSegments := map_result_eq_error_iff.mp remaining
      rcases bind_result_eq_error_iff.mp inSegments with atCount | ⟨counted, countRead, looping⟩
      · exact ⟨.four, _, .segmentCount storedRead recognised, past_of_read32 atCount⟩
      · have opens : Opens data order counted.value.toNat ⟨counted.next, []⟩ :=
          ⟨stored, counted, storedRead, recognised, countRead, rfl, rfl⟩
        obtain ⟨done, within, loop, looped, atSegment⟩ :=
          exists_round_of_iterate_result looping
        obtain ⟨rest, split⟩ := Nat.exists_eq_add_of_lt within
        have begun := Reaches.start opens
        rw [split, Nat.add_assoc] at begun
        obtain ⟨entries, reached⟩ := begun.iterate_readSegment looped
        exact reached.overruns_of_readSegment atSegment

/-! ## Any bytes at all -/

/-- Whatever the bytes, the reading ends with segments or in one of three failures, and never at
fault: every sum, difference and slice that it takes to be in range is. At every read the cursor
is inside the buffer, before and after, and bytes run out only at a read that asks for more than
there are. The data is called invalid exactly where the first four bytes are there and are the
magic number in neither byte order. -/
theorem parse_safe (data : List UInt8) :
    ((∃ segments, (parse data).result = .ok segments) ∨
      (parse data).result = .error (.plain .invalidData) ∨
      (parse data).result = .error (.memory .outOfRange) ∨
      (parse data).result = .error (.plain .overflow)) ∧
    (parse data).result ≠ (fault : Checked (List Segment)).result ∧
    (∀ width cursor, Attempts data width cursor →
      cursor.toNat ≤ data.length ∧
        (readBytes width.byteCount data cursor).result ≠
          (fault : Checked (Read (List UInt8))).result ∧
        ∀ read, (readBytes width.byteCount data cursor).result = .ok read →
          read.next.toNat ≤ data.length) ∧
    ((parse data).result = .error (.memory .outOfRange) → Overruns data) ∧
    ((parse data).result = .error (.plain .invalidData) ↔
      4 ≤ data.length ∧
        ∀ endianness, data.take 4 ≠ (bits32 magic).encode endianness) := by
  refine ⟨?_, ?_, ?_, overruns_of_parse, parse_eq_invalidData_iff data⟩
  · cases outcome : (parse data).result with
    | ok segments => exact Or.inl ⟨segments, rfl⟩
    | error failure =>
        rcases parse_failsWithin data failure outcome with rfl | rfl | rfl
        · exact Or.inr (Or.inl rfl)
        · exact Or.inr (Or.inr (Or.inl rfl))
        · exact Or.inr (Or.inr (Or.inr rfl))
  · intro faulty
    rcases parse_failsWithin data _ faulty with invalid | ranOut | overflowed
    · cases invalid
    · cases ranOut
    · cases overflowed
  · intro width cursor attempted
    have narrow : width.byteCount < UInt64.size := by
      cases width <;> decide
    refine ⟨attempted.cursor_le, ?_, fun read found => (next_of_readBytes narrow found).2⟩
    intro faulty
    rcases readBytes_failsWithin narrow data cursor _ faulty with ranOut | overflowed
    · cases ranOut
    · cases overflowed

/-- A table that breaks off behind the count of its segments. -/
def countedImage : List UInt8 := (topmostTable.encode .little).take 8

/-- The first read of a segment starts at the very end of the buffer, and is the one that fails;
four bytes that are the magic number of another format are enough to call the data invalid. -/
theorem parse_safe_countedImage :
    (Attempts countedImage .eight 8 ∧ (8 : UInt64).toNat ≤ countedImage.length ∧
        (readBytes 8 countedImage 8).result ≠ (fault : Checked (Read (List UInt8))).result) ∧
      ((parse countedImage).result = .error (.memory .outOfRange) ∧ Overruns countedImage) ∧
      (parse [0xfe, 0xed, 0xfa, 0xce]).result = .error (.plain .invalidData) := by
  have opens : Opens countedImage .direct 2 ⟨8, []⟩ :=
    ⟨⟨_, 4⟩, ⟨2, 8⟩, rfl, by decide, rfl, rfl, rfl⟩
  have attempted : Attempts countedImage .eight 8 := .address (.start opens)
  obtain ⟨_, _, reads, ranOut, _⟩ := parse_safe countedImage
  obtain ⟨inside, faultless, _⟩ := reads .eight 8 attempted
  obtain ⟨_, _, _, _, invalid⟩ := parse_safe [0xfe, 0xed, 0xfa, 0xce]
  refine ⟨⟨attempted, inside, faultless⟩, ⟨rfl, ranOut rfl⟩, invalid.mpr ⟨by decide, ?_⟩⟩
  intro endianness
  cases endianness <;> decide

end SegmentTable

end BinaryImage
