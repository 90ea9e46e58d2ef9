import BinaryImage.ByteOrder.Reading

/-!
# Decoders

A decoder holds a buffer, a byte order and a cursor, and is taken through steps. A step that
fails leaves the decoder as it was.
-/

namespace BinaryImage

open Checked

structure Decoder where
  data : List UInt8
  order : ByteOrder
  cursor : UInt64
  deriving DecidableEq, Repr

namespace Decoder

inductive Step where
  | read (width : Width)
  | swap (field : Field)
  | seek (cursor : UInt64)
  | select (order : ByteOrder)
  | swapWithin (start stop : Nat)
  deriving DecidableEq, Repr

inductive Answer where
  | field (field : Field)
  | moved
  | selected (order : ByteOrder)
  | converted (bytes : List UInt8)
  deriving DecidableEq, Repr

def ofData (order : ByteOrder) (data : List UInt8) : Decoder := ⟨data, order, 0⟩

def read (decoder : Decoder) (width : Width) : Checked (Read Field) :=
  decoder.order.readField decoder.data decoder.cursor width

def outcome (decoder : Decoder) : Step → Checked Answer
  | .read width => (fun read => .field read.value) <$> decoder.read width
  | .swap field => pure (.field (field.swap decoder.order))
  | .seek _ => pure .moved
  | .select order => pure (.selected order)
  | .swapWithin start stop =>
    (fun bytes => .converted (decoder.order.swapBuffer bytes)) <$> slice decoder.data start stop

def next (decoder : Decoder) : Step → Decoder
  | .read width =>
    match (decoder.read width).result with
    | .ok read => { decoder with cursor := read.next }
    | .error _ => decoder
  | .swap _ => decoder
  | .seek cursor => { decoder with cursor := cursor }
  | .select order => { decoder with order := order }
  | .swapWithin start stop =>
    match (slice decoder.data start stop).result with
    | .ok _ => { decoder with data := decoder.order.swapWithin decoder.data start stop }
    | .error _ => decoder

def run (decoder : Decoder) (steps : List Step) : Decoder := steps.foldl next decoder

/-- The outcome of every step of a run, with the decoder after it. -/
def trajectory (decoder : Decoder) : List Step → List (Checked Answer × Decoder)
  | [] => []
  | step :: rest => (decoder.outcome step, decoder.next step) :: (decoder.next step).trajectory rest

end Decoder

end BinaryImage
