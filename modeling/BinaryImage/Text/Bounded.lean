import BinaryImage.Checked.Exact
import BinaryImage.Text.Utf8.RoundTrip

/-!
# Bounded output

A text is written, piece by piece, into a buffer of fixed capacity. The last byte of the buffer
is kept for a terminator, what does not fit is dropped, and the answer is the length that the
whole text would have needed, which has to be a word. A piece that fails ends the text before it.
The text that a buffer is read as takes a buffer of its own.
-/

namespace BinaryImage.Text

open Checked

/-! ## The writer -/

/-- A buffer being filled: where in it the next byte goes, and how many bytes it was asked to take. -/
structure BoundedWriter where
  buffer : List UInt8
  written : Nat
  total : UInt64
  deriving DecidableEq, Repr

/-- A part of a text, or the failure to produce one. -/
inductive Piece where
  | text (content : String)
  | failure
  deriving DecidableEq, Repr

namespace BoundedWriter

def atStart (buffer : List UInt8) : BoundedWriter := ⟨buffer, 0, 0⟩

/-- How many more bytes fit before the terminator. -/
def room (writer : BoundedWriter) : Nat := writer.buffer.length - 1 - writer.written

/-- Writes as many bytes as fit, and counts all of them. It is at fault where bytes are not taken
from inside the bytes, where they are not put inside the buffer or are more than there is place
for, and where the count is no word. -/
def write (writer : BoundedWriter) (bytes : List UInt8) : Checked BoundedWriter := do
  let taken := min writer.room bytes.length
  let stop := writer.written + taken
  let place ← slice writer.buffer writer.written stop
  let source ← slice bytes 0 taken
  if place.length = source.length then
    let count ← exactWord bytes.length
    let total ← exactAdd writer.total count
    return { buffer := writer.buffer.take writer.written ++ source ++ writer.buffer.drop stop
             written := stop
             total := total }
  else
    fault

/-- Writes pieces in order, up to the first that fails. -/
def writePieces (writer : BoundedWriter) : List Piece → Checked BoundedWriter
  | [] => pure writer
  | .failure :: _ => pure writer
  | .text content :: rest => do
    let next ← writer.write (Utf8.bytes content)
    next.writePieces rest

/-- Puts the terminator behind what was written, where there has to be a place for it; an empty
buffer has none, and gets no terminator. -/
def terminated (writer : BoundedWriter) : Checked (List UInt8) :=
  if writer.buffer.isEmpty then pure writer.buffer
  else if writer.written < writer.buffer.length then pure (writer.buffer.set writer.written 0)
  else fault

end BoundedWriter

/-! ## Formatting into a buffer -/

/-- What a description leaves behind: the length it needed, and the buffer it wrote to. -/
structure Written where
  length : UInt64
  buffer : List UInt8
  deriving DecidableEq, Repr

def formatBounded (buffer : List UInt8) (pieces : List Piece) : Checked Written := do
  let writer ← (BoundedWriter.atStart buffer).writePieces pieces
  let filled ← writer.terminated
  return ⟨writer.total, filled⟩

/-- Writes plain bytes into a buffer, with a terminator. -/
def copyBounded (buffer bytes : List UInt8) : Checked Written := do
  let writer ← (BoundedWriter.atStart buffer).write bytes
  let filled ← writer.terminated
  return ⟨writer.total, filled⟩

/-- Formats one list of pieces after the other into the same buffer. -/
def formatRun (buffer : List UInt8) : List (List Piece) → Checked (List Written)
  | [] => pure []
  | pieces :: rest => do
    let written ← formatBounded buffer pieces
    let others ← formatRun written.buffer rest
    return written :: others

/-- The bytes of the pieces before the first that fails. -/
def Piece.bytes : List Piece → List UInt8
  | [] => []
  | .failure :: _ => []
  | .text content :: rest => Utf8.bytes content ++ Piece.bytes rest

/-! ## Reading from a buffer -/

/-- The text that bytes are read as, which may be longer than they are, and no longer than a buffer
can be. -/
def readText (bytes : List UInt8) : Checked String :=
  if (Utf8.bytes (Utf8.text bytes)).length ≤ allocationLimit then pure (Utf8.text bytes) else fault

theorem readText_eq_pure
    {bytes : List UInt8}
    (inRange : (Utf8.bytes (Utf8.text bytes)).length ≤ allocationLimit) :
    readText bytes = pure (Utf8.text bytes) :=
  if_pos inRange

theorem readText_eq_fault
    {bytes : List UInt8}
    (beyond : allocationLimit < (Utf8.bytes (Utf8.text bytes)).length) :
    readText bytes = fault :=
  if_neg (Nat.not_le.mpr beyond)

theorem readText_bytes {content : String} (inRange : (Utf8.bytes content).length ≤ allocationLimit) :
    readText (Utf8.bytes content) = pure content := by
  rw [readText, Utf8.text_bytes, if_pos inRange]

@[simp] theorem readText_trace (bytes : List UInt8) : (readText bytes).trace = [] := by
  rw [readText]
  split <;> rfl

end BinaryImage.Text
