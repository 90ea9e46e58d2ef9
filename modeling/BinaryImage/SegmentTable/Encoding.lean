import BinaryImage.SegmentTable.Basic

/-!
# Stored form of segment tables

A table is stored as a sequence of fields without padding: the magic number, the count of
segments, and per segment its address, its size, the count of its sections, and per section its
offset and size. All fields share one byte order.
-/

namespace BinaryImage

def SectionEntry.fields (entry : SectionEntry) : List Field := [.bits32 entry.offset, .bits32 entry.size]

/-- The fields of a segment, those of its sections included. -/
def SegmentEntry.fields (entry : SegmentEntry) : List Field :=
  [.bits64 entry.address, .bits64 entry.size, .bits32 (UInt32.ofNat entry.sections.length)] ++
    entry.sections.flatMap SectionEntry.fields

namespace SegmentTable

def fields (table : SegmentTable) : List Field :=
  [.bits32 magic, .bits32 (UInt32.ofNat table.length)] ++ table.flatMap SegmentEntry.fields

/-- The bytes of a table, in a given byte order. -/
def encode (endianness : Endianness) (table : SegmentTable) : List UInt8 :=
  table.fields.flatMap fun field => field.encode endianness

end SegmentTable

end BinaryImage
