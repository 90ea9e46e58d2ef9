import BinaryImage.Proofs.ByteOrder.Carried
import BinaryImage.SegmentTable.Encoding

/-!
# Layout of stored tables

How many bytes each part of a table takes up, and which tables can be stored at all: the counts
of segments and sections have to fit their fields.
-/

namespace BinaryImage

def Field.encodeAll (endianness : Endianness) (fields : List Field) : List UInt8 :=
  fields.flatMap fun field => field.encode endianness

/-- How many bytes a segment takes up, with its sections. -/
def SegmentEntry.byteCount (entry : SegmentEntry) : Nat :=
  20 + 8 * entry.sections.length

def Field.byteCounts (fields : List Field) : Nat :=
  fields.foldr (fun field others => field.width.byteCount + others) 0

/-- How many bytes segments take up, one behind the other. -/
def SegmentEntry.byteCounts (entries : List SegmentEntry) : Nat :=
  entries.foldr (fun entry others => entry.byteCount + others) 0

theorem SegmentEntry.byteCounts_nil : byteCounts [] = 0 :=
  rfl

theorem SegmentEntry.byteCounts_cons (entry : SegmentEntry) (rest : List SegmentEntry) :
    byteCounts (entry :: rest) = entry.byteCount + byteCounts rest :=
  rfl

namespace SegmentTable

def byteCount (table : SegmentTable) : Nat :=
  8 + SegmentEntry.byteCounts table

/-- Every count in a table fits the field that holds it. -/
structure Counted (table : SegmentTable) : Prop where
  segments : table.length < UInt32.size
  sections : ∀ entry ∈ table, entry.sections.length < UInt32.size

/-- The end of every segment is an address. -/
def WellPlaced (table : SegmentTable) : Prop :=
  ∀ entry ∈ table, entry.range.WellFormed

instance (table : SegmentTable) : Decidable table.Counted :=
  decidable_of_iff
    (table.length < UInt32.size ∧
      ∀ entry ∈ table, entry.sections.length < UInt32.size)
    ⟨fun counts => ⟨counts.1, counts.2⟩,
      fun counted => ⟨counted.segments, counted.sections⟩⟩

instance (table : SegmentTable) : Decidable table.WellPlaced :=
  inferInstanceAs (Decidable (∀ _ ∈ _, _))

end SegmentTable

namespace Field

variable {endianness : Endianness}

theorem encodeAll_cons (field : Field) (rest : List Field) :
    encodeAll endianness (field :: rest) =
      field.encode endianness ++ encodeAll endianness rest :=
  List.flatMap_cons

theorem encodeAll_append (initial final : List Field) :
    encodeAll endianness (initial ++ final) =
      encodeAll endianness initial ++ encodeAll endianness final :=
  List.flatMap_append

theorem length_encodeAll (fields : List Field) :
    (encodeAll endianness fields).length = byteCounts fields := by
  induction fields with
  | nil => rfl
  | cons field rest inductionHypothesis =>
      rw [encodeAll_cons, List.length_append, length_encode, inductionHypothesis]
      rfl

end Field

open BinaryImage.Field

variable {endianness : Endianness}

theorem SectionEntry.length_encodeAll_fields (entry : SectionEntry) :
    (encodeAll endianness entry.fields).length = 8 := by
  rw [length_encodeAll]
  rfl

theorem SectionEntry.length_encodeAll_flatMap_fields (entries : List SectionEntry) :
    (encodeAll endianness (entries.flatMap SectionEntry.fields)).length =
      8 * entries.length := by
  induction entries with
  | nil => rfl
  | cons entry rest inductionHypothesis =>
      rw [List.flatMap_cons, encodeAll_append, List.length_append,
        length_encodeAll_fields, inductionHypothesis, List.length_cons]
      omega

theorem SegmentEntry.length_encodeAll_fields (entry : SegmentEntry) :
    (encodeAll endianness entry.fields).length = entry.byteCount := by
  rw [SegmentEntry.fields, encodeAll_append, List.length_append,
    SectionEntry.length_encodeAll_flatMap_fields, length_encodeAll]
  rfl

theorem SegmentEntry.length_encodeAll_flatMap_fields (entries : List SegmentEntry) :
    (encodeAll endianness (entries.flatMap SegmentEntry.fields)).length =
      byteCounts entries := by
  induction entries with
  | nil => rfl
  | cons entry rest inductionHypothesis =>
      rw [List.flatMap_cons, encodeAll_append, List.length_append,
        length_encodeAll_fields, inductionHypothesis, byteCounts_cons]

/-- The size of a stored table does not depend on the byte order. -/
theorem SegmentTable.length_encode (table : SegmentTable) :
    (table.encode endianness).length = table.byteCount := by
  change (encodeAll endianness table.fields).length = _
  rw [SegmentTable.fields, encodeAll_append, List.length_append,
    SegmentEntry.length_encodeAll_flatMap_fields, length_encodeAll]
  rfl

/-! ## Carried fields -/

namespace Carries

variable {data : List UInt8} {position : Nat} {field : Field} {rest : List Field}

theorem head (carried : Carries data position (encodeAll endianness (field :: rest))) :
    Carries data position (field.encode endianness) := by
  rw [encodeAll_cons] at carried
  exact carried.left

theorem tail
    (carried : Carries data position (encodeAll endianness (field :: rest)))
    (there : Inside data.length (position + field.width.byteCount)) :
    Carries data (position + field.width.byteCount) (encodeAll endianness rest) := by
  rw [encodeAll_cons] at carried
  have remaining := carried.advance (by
    rw [Field.length_encode]
    exact there.1)
  rwa [Field.length_encode] at remaining

theorem cons
    (first : Carries data position (field.encode endianness))
    (others : Carries data (position + field.width.byteCount) (encodeAll endianness rest)) :
    Carries data position (encodeAll endianness (field :: rest)) := by
  rw [encodeAll_cons]
  apply first.append
  rwa [Field.length_encode]

end Carries

end BinaryImage
