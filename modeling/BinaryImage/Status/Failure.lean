import BinaryImage.Status.Code
import BinaryImage.Status.Flags
import BinaryImage.Text.Layout

/-!
# Failures

A failure is a status code and a mark that tells whether it arose while touching memory. Its
numeric form joins the code with the memory bit. Main statements: the numeric form determines
the failure, and reading it back gives the failure unless the code is success.
-/

namespace BinaryImage

/-- A failed operation: its category, and whether it arose while touching memory. -/
structure Failure where
  code : StatusCode
  inMemory : Bool
  deriving DecidableEq, Repr

/-- The diagnostic text of a numeric status. The memory bit is ignored, and a value that is no
code has the empty text. -/
def describeStatus (raw : UInt32) : String :=
  ((StatusCode.ofRaw? (raw &&& ~~~StatusFlags.memory.bits)).map StatusCode.text).getD ""

namespace Failure

def plain (code : StatusCode) : Failure := ⟨code, false⟩

def memory (code : StatusCode) : Failure := ⟨code, true⟩

def intoMemory (failure : Failure) : Failure := memory failure.code

def flags (failure : Failure) : StatusFlags :=
  if failure.inMemory then StatusFlags.memory else StatusFlags.empty

/-- The numeric form: the code's value joined with the modifier bits. -/
def raw (failure : Failure) : UInt32 := failure.code.raw ||| failure.flags.bits

/-- The failure with a given numeric form. Success is no failure, with or without the mark. -/
def ofRaw? (raw : UInt32) : Option Failure :=
  match StatusCode.ofRaw? (raw &&& ~~~StatusFlags.all.bits) with
  | none => none
  | some .success => none
  | some code => some ⟨code, (StatusFlags.ofNamedBits raw).contains StatusFlags.memory⟩

def text (failure : Failure) : String := failure.code.text

def layout (failure : Failure) : Text.Layout :=
  .record "Error" [("code", .atom failure.code.name), ("flags", .atom failure.flags.text)]

/-- The numeric status of an outcome: zero where it succeeded. -/
def statusOf {α : Type} : Except Failure α → UInt32
  | .ok _ => StatusCode.success.raw
  | .error failure => failure.raw

theorem describeStatus_raw (failure : Failure) : describeStatus failure.raw = failure.text := by
  obtain ⟨code, inMemory⟩ := failure
  cases code <;> cases inMemory <;> decide

theorem raw_injective {left right : Failure} (equality : left.raw = right.raw) :
    left = right := by
  obtain ⟨leftCode, leftMemory⟩ := left
  obtain ⟨rightCode, rightMemory⟩ := right
  revert equality
  cases leftCode <;> cases leftMemory <;> cases rightCode <;> cases rightMemory <;> decide

theorem ofRaw?_raw {failure : Failure} (failed : failure.code ≠ .success) :
    ofRaw? failure.raw = some failure := by
  obtain ⟨code, inMemory⟩ := failure
  revert failed
  cases code <;> cases inMemory <;> decide

end Failure

end BinaryImage
