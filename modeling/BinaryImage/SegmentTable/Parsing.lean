import BinaryImage.AddressRange.Containment
import BinaryImage.ByteOrder.Reading
import BinaryImage.SegmentTable.Basic

/-!
# Reading segment tables

The magic number tells the byte order, and every other field is read in it. A segment whose end
is no address ends the reading; a section that does not lie in its segment is dropped, and leaves
a record. What follows the last segment is not looked at.
-/

namespace BinaryImage

open Checked

namespace SegmentTable

/-- Where the reading of the sections of a segment stands. -/
structure SectionLoop where
  cursor : UInt64
  kept : List AddressRange
  deriving DecidableEq, Repr

structure SegmentLoop where
  cursor : UInt64
  accepted : List Segment
  deriving DecidableEq, Repr

/-- The byte order in which a magic number was stored that is read as `stored`. -/
def orderOfMagic? (stored : UInt32) : Option ByteOrder :=
  if stored = magic then some .direct
  else if stored = ByteOrder.swapped.swap32 magic then some .swapped
  else none

/-- The range of a section, if it lies in its segment. -/
def placeSection (segment : AddressRange) (offset size : UInt32) :
    Checked (Option AddressRange) := do
  match ← attempt (Address.applyOffset segment.location offset.toUInt64) with
  | none => return none
  | some start =>
    let range : AddressRange := ⟨start, size.toUInt64⟩
    match ← attempt (segment.containsRange range false) with
    | none => return none
    | some () => return some range

/-- Reads one section, and keeps it if it lies in its segment. -/
def readSection (order : ByteOrder) (data : List UInt8) (segment : AddressRange)
    (loop : SectionLoop) : Checked SectionLoop := do
  let offset ← order.read32 data loop.cursor
  let size ← order.read32 data offset.next
  let placed ← placeSection segment offset.value size.value
  return ⟨size.next, loop.kept ++ placed.toList⟩

def readSegment (order : ByteOrder) (data : List UInt8) (loop : SegmentLoop) :
    Checked SegmentLoop := do
  let address ← order.read64 data loop.cursor
  let size ← order.read64 data address.next
  let range : AddressRange := ⟨address.value, size.value⟩
  range.validate
  let count ← order.read32 data size.next
  let sections ← iterate (readSection order data range) count.value.toNat ⟨count.next, []⟩
  return ⟨sections.cursor, loop.accepted ++ [⟨range, sections.kept⟩]⟩

def readSegments (order : ByteOrder) (data : List UInt8) (cursor : UInt64) :
    Checked SegmentLoop := do
  let count ← order.read32 data cursor
  iterate (readSegment order data) count.value.toNat ⟨count.next, []⟩

def parse (data : List UInt8) : Checked (List Segment) := do
  let stored ← ByteOrder.direct.read32 data 0
  match orderOfMagic? stored.value with
  | none => fail (.plain .invalidData)
  | some order => SegmentLoop.accepted <$> readSegments order data stored.next

end SegmentTable

end BinaryImage
