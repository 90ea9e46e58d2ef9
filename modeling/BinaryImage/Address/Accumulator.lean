import BinaryImage.Address.Arithmetic

/-!
# Runs of address arithmetic

An accumulator is taken through a run of operations. A value that an operation yields replaces
it; an operation that fails, or that only checks, leaves it alone.
-/

namespace BinaryImage.Address

inductive Operation where
  | applyOffset
  | add
  | subtract
  | checkLength
  deriving DecidableEq, Repr

namespace Operation

/-- What an operation yields; a check yields no value. -/
def run (left right : UInt64) : Operation → Checked (Option UInt64)
  | applyOffset => some <$> Address.applyOffset left right
  | add => some <$> Address.add left right
  | subtract => some <$> Address.subtract left right
  | checkLength => (fun _ => none) <$> Address.checkLength left right

end Operation

structure Step where
  operation : Operation
  argument : UInt64
  deriving DecidableEq, Repr

namespace Step

def outcome (accumulator : UInt64) (step : Step) : Checked (Option UInt64) :=
  step.operation.run accumulator step.argument

def next (accumulator : UInt64) (step : Step) : UInt64 :=
  match (step.outcome accumulator).result with
  | .ok (some value) => value
  | _ => accumulator

end Step

def finalValue (start : UInt64) (steps : List Step) : UInt64 := steps.foldl Step.next start

/-- The outcome of every step of a run, with the accumulator after it. -/
def trajectory (start : UInt64) : List Step → List (Checked (Option UInt64) × UInt64)
  | [] => []
  | step :: rest =>
    (step.outcome start, step.next start) :: trajectory (step.next start) rest

end BinaryImage.Address
