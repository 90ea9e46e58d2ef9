import BinaryImage.ByteOrder.Decoder
import BinaryImage.Proofs.SegmentTable.Layout

/-!
# Rows of fields

Fields of mixed widths, stored one behind the other in one byte order. Main statement: what is
written is read back, wherever it stands, and what is read is what was written there; and a decoder
that is taken through the reads gives the same fields step by step.
-/

namespace BinaryImage

open Checked

/-- How many bytes fields of given widths take up, one behind the other. -/
def Width.byteCounts (widths : List Width) : Nat :=
  widths.foldr (fun width others => width.byteCount + others) 0

theorem Width.byteCounts_cons (width : Width) (rest : List Width) :
    byteCounts (width :: rest) = width.byteCount + byteCounts rest :=
  rfl

theorem Width.byteCounts_map_width (fields : List Field) :
    byteCounts (fields.map Field.width) = Field.byteCounts fields :=
  List.foldr_map

namespace Field

theorem byteCounts_cons (field : Field) (rest : List Field) :
    byteCounts (field :: rest) = field.width.byteCount + byteCounts rest :=
  rfl

/-- Wherever a row of fields is looked for, the buffer carries one. -/
theorem exists_carries_encodeAll
    (endianness : Endianness) (widths : List Width) (data : List UInt8) (position : Nat) :
    ∃ fields : List Field, fields.map width = widths ∧
      Carries data position (encodeAll endianness fields) := by
  induction widths generalizing position with
  | nil => exact ⟨[], rfl, Carries.nil⟩
  | cons first rest inductionHypothesis =>
      obtain ⟨field, sameWidth, carried⟩ := exists_carries endianness first data position
      obtain ⟨others, sameWidths, carriedOthers⟩ :=
        inductionHypothesis (position + field.width.byteCount)
      exact ⟨field :: others, by rw [List.map_cons, sameWidth, sameWidths],
        carried.cons carriedOthers⟩

end Field

namespace ByteOrder

variable {endianness : Endianness} {data : List UInt8}

theorem readFields_cons_result_eq_ok_iff
    {order : ByteOrder} {cursor : UInt64} {width : Width} {rest : List Width}
    {read : Read (List Field)} :
    (order.readFields data cursor (width :: rest)).result = .ok read ↔
      ∃ first others, (order.readField data cursor width).result = .ok first ∧
        (order.readFields data first.next rest).result = .ok others ∧
        (⟨first.value :: others.value, others.next⟩ : Read (List Field)) = read := by
  rw [readFields, bind_result_eq_ok_iff]
  constructor
  · rintro ⟨first, firstRead, later⟩
    obtain ⟨others, othersRead, last⟩ := bind_result_eq_ok_iff.mp later
    exact ⟨first, others, firstRead, othersRead, Except.ok.inj last⟩
  · rintro ⟨first, others, firstRead, othersRead, last⟩
    exact ⟨first, firstRead, bind_result_eq_ok_iff.mpr ⟨others, othersRead, congrArg _ last⟩⟩

/-- A row of fields that is there in full is read as it was written. -/
theorem readFields_of_carries
    {fields : List Field} {position : Nat}
    (carried : Carries data position (Field.encodeAll endianness fields))
    (there : Inside data.length (position + Field.byteCounts fields)) :
    (select endianness).readFields data (UInt64.ofNat position) (fields.map Field.width) =
      pure ⟨fields, UInt64.ofNat (position + Field.byteCounts fields)⟩ := by
  induction fields generalizing position with
  | nil => rfl
  | cons field rest inductionHypothesis =>
      rw [Field.byteCounts_cons, ← Nat.add_assoc] at there
      have first : Inside data.length (position + field.width.byteCount) :=
        there.mono (Nat.le_add_right _ _)
      have bound : position < UInt64.size := (first.mono (Nat.le_add_right _ _)).2
      rw [List.map_cons, readFields, readField_of_carries carried.head bound,
        demand_eq_pure first, pure_bind, pure_bind,
        inductionHypothesis (carried.tail first) there, pure_bind, Field.byteCounts_cons,
        Nat.add_assoc]

theorem next_of_readField
    {order : ByteOrder} {cursor : UInt64} {width : Width} {read : Read Field}
    (succeeded : (order.readField data cursor width).result = .ok read) :
    read.next.toNat = cursor.toNat + width.byteCount ∧ read.next.toNat ≤ data.length := by
  rw [readField_eq] at succeeded
  obtain ⟨bytes, found, rfl⟩ := map_result_eq_ok_iff.mp succeeded
  exact next_of_readBytes width.byteCount_lt_size found

/-- Reads that all succeed end right behind their fields. Without any, the cursor may lie past the
buffer already. -/
theorem next_of_readFields
    {order : ByteOrder} {cursor : UInt64} {widths : List Width} {read : Read (List Field)}
    (succeeded : (order.readFields data cursor widths).result = .ok read) :
    read.next.toNat = cursor.toNat + Width.byteCounts widths ∧
      read.next.toNat ≤ max cursor.toNat data.length := by
  induction widths generalizing cursor read with
  | nil =>
      have same : (⟨[], cursor⟩ : Read (List Field)) = read := Except.ok.inj succeeded
      rw [← same]
      exact ⟨rfl, Nat.le_max_left _ _⟩
  | cons width rest inductionHypothesis =>
      obtain ⟨first, others, firstRead, othersRead, rfl⟩ :=
        readFields_cons_result_eq_ok_iff.mp succeeded
      obtain ⟨firstNext, firstInside⟩ := next_of_readField firstRead
      obtain ⟨othersNext, othersInside⟩ := inductionHypothesis othersRead
      rw [Width.byteCounts_cons]
      constructor
      · change others.next.toNat = _
        omega
      · change others.next.toNat ≤ _
        omega

theorem inside_of_readFields
    {order : ByteOrder} {cursor : UInt64} {widths : List Width} {read : Read (List Field)}
    (nonempty : widths ≠ [])
    (succeeded : (order.readFields data cursor widths).result = .ok read) :
    Inside data.length (cursor.toNat + Width.byteCounts widths) := by
  obtain ⟨next, order⟩ := next_of_readFields succeeded
  obtain ⟨width, rest, split⟩ := List.exists_cons_of_ne_nil nonempty
  have positive : 0 < Width.byteCounts widths := by
    rw [split, Width.byteCounts_cons]
    have counted : 0 < width.byteCount := by cases width <;> decide
    omega
  have bound := read.next.toNat_lt
  constructor
  · omega
  · rw [← next]
    exact bound

/-- Whatever the buffer holds, it carries a row of the fields that are asked for, and so this row
is what was read. -/
theorem encodeAll_of_readFields
    {cursor : UInt64} {widths : List Width} {read : Read (List Field)}
    (succeeded : ((select endianness).readFields data cursor widths).result = .ok read) :
    read.value.map Field.width = widths ∧
      Field.encodeAll endianness read.value =
        (data.drop cursor.toNat).take (Width.byteCounts widths) := by
  cases widths with
  | nil =>
      have same : (⟨[], cursor⟩ : Read (List Field)) = read := Except.ok.inj succeeded
      rw [← same]
      exact ⟨rfl, rfl⟩
  | cons width rest =>
      have there := inside_of_readFields (List.cons_ne_nil width rest) succeeded
      obtain ⟨fields, sameWidths, carried⟩ :=
        Field.exists_carries_encodeAll endianness (width :: rest) data cursor.toNat
      rw [← sameWidths, Width.byteCounts_map_width] at there ⊢
      have found := carried.take_drop (by rw [Field.length_encodeAll]; exact there.1)
      have readBack := readFields_of_carries carried there
      rw [UInt64.ofNat_toNat, sameWidths] at readBack
      rw [readBack] at succeeded
      have same := Except.ok.inj succeeded
      rw [← same]
      rw [Field.length_encodeAll] at found
      exact ⟨rfl, found.symm⟩

end ByteOrder

/-! ## Reads by a decoder -/

namespace Decoder

/-- How each step of a run ends. -/
def results (decoder : Decoder) (steps : List Step) : List (Except Failure Answer) :=
  (decoder.trajectory steps).map fun round => round.1.result

theorem results_cons (decoder : Decoder) (step : Step) (rest : List Step) :
    decoder.results (step :: rest) =
      (decoder.outcome step).result :: (decoder.next step).results rest :=
  rfl

theorem run_cons (decoder : Decoder) (step : Step) (rest : List Step) :
    decoder.run (step :: rest) = (decoder.next step).run rest :=
  rfl

theorem outcome_read_eq_ok_iff
    {decoder : Decoder} {width : Width} {field : Field} :
    (decoder.outcome (.read width)).result = .ok (.field field) ↔
      ∃ next, (decoder.read width).result = .ok ⟨field, next⟩ := by
  constructor
  · intro answered
    obtain ⟨read, found, same⟩ := map_result_eq_ok_iff.mp answered
    cases same
    exact ⟨read.next, found⟩
  · rintro ⟨next, found⟩
    exact map_result_eq_ok_iff.mpr ⟨⟨field, next⟩, found, rfl⟩

theorem next_of_read_eq_ok
    {decoder : Decoder} {width : Width} {first : Read Field}
    (succeeded : (decoder.read width).result = .ok first) :
    decoder.next (.read width) = { decoder with cursor := first.next } := by
  rw [next, succeeded]

/-- Reads one behind the other succeed together exactly if a decoder that is taken through them
succeeds at every step, with the same fields and the same cursor at the end. -/
theorem readFields_result_eq_ok_iff
    (decoder : Decoder) {widths : List Width} {read : Read (List Field)} :
    (decoder.order.readFields decoder.data decoder.cursor widths).result = .ok read ↔
      decoder.results (widths.map .read) = read.value.map (fun field => .ok (.field field)) ∧
        decoder.run (widths.map .read) = { decoder with cursor := read.next } := by
  induction widths generalizing decoder read with
  | nil =>
      obtain ⟨fields, next⟩ := read
      obtain ⟨data, order, cursor⟩ := decoder
      constructor
      · intro succeeded
        cases succeeded
        exact ⟨rfl, rfl⟩
      · rintro ⟨noFields, sameDecoder⟩
        have empty : fields = [] := List.map_eq_nil_iff.mp noFields.symm
        have sameCursor : cursor = next := congrArg Decoder.cursor sameDecoder
        rw [empty, ← sameCursor]
        rfl
  | cons width rest inductionHypothesis =>
      rw [ByteOrder.readFields_cons_result_eq_ok_iff, List.map_cons, results_cons, run_cons]
      constructor
      · rintro ⟨first, others, firstRead, othersRead, rfl⟩
        have firstResult : (decoder.read width).result = .ok first := firstRead
        obtain ⟨results, finished⟩ :=
          (inductionHypothesis { decoder with cursor := first.next }).mp othersRead
        rw [next_of_read_eq_ok firstResult, results, finished,
          outcome_read_eq_ok_iff.mpr ⟨first.next, firstResult⟩]
        exact ⟨rfl, rfl⟩
      · rintro ⟨results, finished⟩
        obtain ⟨fields, last⟩ := read
        cases fields with
        | nil => cases results
        | cons field others =>
            obtain ⟨answered, othersResults⟩ := List.cons.inj results
            obtain ⟨next, firstResult⟩ := outcome_read_eq_ok_iff.mp answered
            rw [next_of_read_eq_ok firstResult] at othersResults finished
            exact ⟨⟨field, next⟩, ⟨others, last⟩, firstResult,
              (inductionHypothesis { decoder with cursor := next }).mpr
                ⟨othersResults, finished⟩, rfl⟩

end Decoder

namespace ByteOrder

/-- A row of fields is read back as it was written, between any other bytes, and the cursor then
stands right behind it, as long as a cursor of 64 bits reaches that far. Where reads at a cursor
succeed, the fields have the widths that were asked for, and written in the same byte order they
are the bytes that the cursor moved over. Reads succeed together exactly if a decoder succeeds in
each of them. -/
theorem readFields_codec (endianness : Endianness) :
    (∀ (fields : List Field) (before after : List UInt8),
      (before ++ Field.encodeAll endianness fields).length < UInt64.size →
        (select endianness).readFields (before ++ Field.encodeAll endianness fields ++ after)
            (UInt64.ofNat before.length) (fields.map Field.width) =
          pure ⟨fields, UInt64.ofNat (before ++ Field.encodeAll endianness fields).length⟩) ∧
      (∀ (data : List UInt8) (cursor : UInt64) (widths : List Width) (read : Read (List Field)),
        ((select endianness).readFields data cursor widths).result = .ok read →
          read.value.map Field.width = widths ∧
            Field.encodeAll endianness read.value =
              (data.drop cursor.toNat).take (Width.byteCounts widths) ∧
            read.next.toNat = cursor.toNat + Width.byteCounts widths ∧
            (widths ≠ [] → read.next.toNat ≤ data.length)) ∧
      ∀ (decoder : Decoder) (widths : List Width) (read : Read (List Field)),
        (decoder.order.readFields decoder.data decoder.cursor widths).result = .ok read ↔
          decoder.results (widths.map .read) =
              read.value.map (fun field => .ok (.field field)) ∧
            decoder.run (widths.map .read) = { decoder with cursor := read.next } := by
  refine ⟨?_, ?_, ?_⟩
  · intro fields before after fits
    have length : (before ++ Field.encodeAll endianness fields).length =
        before.length + Field.byteCounts fields := by
      rw [List.length_append, Field.length_encodeAll]
    rw [length] at fits ⊢
    apply readFields_of_carries (Carries.of_between before _ after)
    refine ⟨?_, fits⟩
    rw [List.length_append, length]
    exact Nat.le_add_right _ _
  · intro data cursor widths read succeeded
    obtain ⟨sameWidths, written⟩ := encodeAll_of_readFields succeeded
    have next := (next_of_readFields succeeded).1
    refine ⟨sameWidths, written, next, ?_⟩
    intro nonempty
    rw [next]
    exact (inside_of_readFields nonempty succeeded).1
  · intro decoder widths read
    exact decoder.readFields_result_eq_ok_iff

def pairedFields : List Field := [.bits16 0x1234, .bits32 0xdeadbeef]

/-- Two fields between other bytes, each with its most significant byte first. -/
def pairedBytes : List UInt8 := [0x7f, 0x12, 0x34, 0xde, 0xad, 0xbe, 0xef, 0xff, 0x01]

theorem readFields_codec_pairedBytes :
    (select .big).readFields pairedBytes (UInt64.ofNat 1) [.two, .four] =
        pure ⟨pairedFields, UInt64.ofNat 7⟩ ∧
      Field.encodeAll .big pairedFields = (pairedBytes.drop 1).take 6 := by
  obtain ⟨reads, writes, _⟩ := readFields_codec .big
  have row : [0x7f] ++ Field.encodeAll .big pairedFields ++ [0xff, 0x01] = pairedBytes := by decide
  have readBack : (select .big).readFields pairedBytes (UInt64.ofNat 1) [.two, .four] =
      pure ⟨pairedFields, UInt64.ofNat 7⟩ := by
    rw [← row]
    exact reads pairedFields [0x7f] [0xff, 0x01] (by decide)
  have written := writes pairedBytes (UInt64.ofNat 1) [.two, .four] ⟨pairedFields, UInt64.ofNat 7⟩
    (by rw [readBack]; rfl)
  exact ⟨readBack, written.2.1⟩

end ByteOrder

end BinaryImage
