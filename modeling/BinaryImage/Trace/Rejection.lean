import BinaryImage.AddressRange.Basic
import BinaryImage.Status.Failure
import BinaryImage.Trace.Record

/-!
# Rejections

A checked operation that refuses its operands leaves a record of what it refused. A rejection
holds the operands; the failure it is reported as and the record it leaves are read off it.
-/

namespace BinaryImage

/-- The reason why a checked operation refused its operands. -/
inductive Rejection where
  | offsetOverflows (offset address : UInt64)
  | sumOverflows (left right : UInt64)
  | differenceUnderflows (left right : UInt64)
  | lengthOverflows (length address : UInt64)
  | outsideRange (address : UInt64) (range : AddressRange)
  | outsideOuter (inner outer : AddressRange) (partially : Bool)
  | pastBuffer (width : Nat) (cursor : UInt64) (size : Nat)
  deriving DecidableEq, Repr

namespace Rejection

/-- The failure that a rejection is reported as. Only reads past a buffer touch memory. -/
def failure : Rejection → Failure
  | offsetOverflows .. | sumOverflows .. | lengthOverflows .. => .plain .overflow
  | differenceUnderflows .. => .plain .underflow
  | outsideRange .. | outsideOuter .. => .plain .notFound
  | pastBuffer .. => .memory .outOfRange

/-- The part of the library that a rejection comes from. -/
def target : Rejection → String
  | offsetOverflows .. | sumOverflows .. | differenceUnderflows .. | lengthOverflows .. =>
    "machkit::vm"
  | outsideRange .. | outsideOuter .. => "machkit::vm::range"
  | pastBuffer .. => "machkit::byteorder"

def message : Rejection → String
  | offsetOverflows offset address =>
    "offset " ++ addressText offset ++ " overflows address " ++ addressText address
  | sumOverflows left right => addressText left ++ " + " ++ addressText right ++ " overflows"
  | differenceUnderflows left right =>
    addressText left ++ " - " ++ addressText right ++ " underflows"
  | lengthOverflows length address =>
    "length " ++ addressText length ++ " at " ++ addressText address ++
      " runs past the address space"
  | outsideRange address range => addressText address ++ " is outside " ++ range.text
  | outsideOuter inner outer partially =>
    inner.text ++ " is not within " ++ outer.text ++ " (partial: " ++
      (if partially then "true" else "false") ++ ")"
  | pastBuffer width cursor size =>
    width.repr ++ "-byte read at " ++ addressText cursor ++ " exceeds buffer of " ++
      Text.hexadecimal size ++ " bytes"

def record (rejection : Rejection) : Record := ⟨.trace, rejection.target, rejection.message⟩

theorem failure_code_ne_internalError (rejection : Rejection) :
    rejection.failure.code ≠ .internalError := by
  intro fault
  cases rejection <;> cases fault

end Rejection

end BinaryImage
