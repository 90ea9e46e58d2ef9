import BinaryImage.Specimen.Basic

/-!
# Slot rules

Ready-made behaviours for the slots of specimen types. A rule may ask the owner of a specimen the
same question; it is given the owner's answer, if there is an owner.
-/

namespace BinaryImage

inductive ContextRule where
  | none
  | own
  | owner
  deriving DecidableEq, Repr

inductive EqualityRule where
  | always
  | never
  | payload
  | startsWith
  | name
  | owner
  deriving DecidableEq, Repr

inductive DescriptionRule where
  | label
  | range
  | owner
  | raw
  | greedy
  | shrink
  | silent
  | zero
  deriving DecidableEq, Repr

def ContextRule.answer (specimen : Specimen) (ofOwner : Option SharedContext) :
    ContextRule → Option SharedContext
  | none => .none
  | own => specimen.ownContext
  | owner => ofOwner

/-- How a rule compares a specimen with another, of which it knows the names. -/
def EqualityRule.answer (names : Specimen → String) (specimen other : Specimen)
    (ofOwner : Option (Specimen → Bool)) : EqualityRule → Bool
  | always => true
  | never => false
  | payload => specimen.features?.isSome && other.features?.isSome &&
      specimen.payload == other.payload
  | startsWith => specimen.payload.isPrefixOf other.payload
  | name => names specimen == names other
  | owner =>
    match ofOwner, other.owner? with
    | some compare, some otherOwner => compare otherOwner
    | _, _ => false

namespace DescriptionRule

/-- A text in angle brackets, with its parts set apart by spaces. -/
def bracketed (parts : List String) : List Text.Piece := [.text ("<" ++ " ".intercalate parts ++ ">")]

/-- Copies bytes to the start of a buffer, as many as fit and without a terminator. -/
def overwrite (buffer bytes : List UInt8) : List UInt8 :=
  bytes.take buffer.length ++ buffer.drop bytes.length

/-- Announces a length without a look at the buffer, which is left as given. -/
def announce (length : Nat) (buffer : List UInt8) : Checked Text.Written :=
  (⟨·, buffer⟩) <$> Checked.exactWord length

def answer (name : String) (specimen : Specimen)
    (ofOwner : Option (List UInt8 → Checked Text.Written)) (buffer : List UInt8) :
    DescriptionRule → Checked Text.Written
  | label =>
    Text.formatBounded buffer <| bracketed <|
      match specimen.features? with
      | some features => [name, features.label]
      | none => [name, "?"]
  | range =>
    Text.formatBounded buffer <| bracketed <|
      match specimen.features? with
      | some features => [name, features.label, features.range.text]
      | none => [name, "?"]
  | owner =>
    match ofOwner with
    | some describe => describe buffer
    | none => Text.formatBounded buffer [.text "<orphan>"]
  | raw => Text.copyBounded buffer specimen.payload
  | greedy =>
    if buffer.isEmpty then announce (specimen.payload.length / 2) buffer
    else announce specimen.payload.length (overwrite buffer specimen.payload)
  | shrink =>
    if buffer.isEmpty then announce (specimen.payload.length * 2) buffer
    else Text.copyBounded buffer specimen.payload
  | silent => announce specimen.payload.length buffer
  | zero => announce 0 (List.replicate buffer.length 0x78)

end DescriptionRule

end BinaryImage
