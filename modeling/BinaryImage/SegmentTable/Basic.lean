import BinaryImage.AddressRange.Basic
import BinaryImage.ByteOrder.Field

/-!
# Segment tables

A segment table lists the segments of an image, each with the sections that lie in it. As it is
stored, a section is placed relative to its segment; once accepted, segments and sections are
ranges of addresses.
-/

namespace BinaryImage

/-- A section as it is stored: how far it lies above the start of its segment, and its size. -/
structure SectionEntry where
  offset : UInt32
  size : UInt32
  deriving DecidableEq, Repr

structure SegmentEntry where
  address : UInt64
  size : UInt64
  sections : List SectionEntry
  deriving DecidableEq, Repr

abbrev SegmentTable := List SegmentEntry

/-- An accepted segment, with the accepted sections. -/
structure Segment where
  range : AddressRange
  sections : List AddressRange
  deriving DecidableEq, Repr

namespace SegmentTable

/-- Opens every table, and tells its byte order. -/
def magic : UInt32 := 0xfeedfacf

end SegmentTable

def SegmentEntry.range (entry : SegmentEntry) : AddressRange := ⟨entry.address, entry.size⟩

end BinaryImage
