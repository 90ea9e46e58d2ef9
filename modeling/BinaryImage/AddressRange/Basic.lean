import BinaryImage.Text.Hexadecimal
import BinaryImage.Text.Layout

/-!
# Address ranges

A range of addresses is a location and a length, and stands for the addresses from the location
up to, and without, the location plus the length. Any pair may be written down; whether its end
fits the address space is asked where the range is used.
-/

namespace BinaryImage

def addressMax : UInt64 := 0xffffffffffffffff

theorem addressMax_toNat : addressMax.toNat = UInt64.size - 1 := rfl

def addressText (address : UInt64) : String := Text.hexadecimal address.toNat

structure AddressRange where
  location : UInt64
  length : UInt64
  deriving DecidableEq, Repr

namespace AddressRange

def zero : AddressRange := ⟨0, 0⟩

/-- The end of a range, or the highest address where the end lies beyond it. -/
def saturatedStop (range : AddressRange) : UInt64 :=
  UInt64.ofNat (min (range.location.toNat + range.length.toNat) addressMax.toNat)

/-- The text of a range: its location and its end, as a half-open interval. -/
def text (range : AddressRange) : String :=
  "[" ++ addressText range.location ++ ", " ++ addressText range.saturatedStop ++ ")"

/-- The layout of a range for diagnosis, with both numbers in base ten. -/
def layout (range : AddressRange) : Text.Layout :=
  .record "VmRange"
    [("location", .atom range.location.toNat.repr), ("length", .atom range.length.toNat.repr)]

/-- The end of the range is an address. -/
def WellFormed (range : AddressRange) : Prop :=
  range.location.toNat + range.length.toNat < UInt64.size

instance (range : AddressRange) : Decidable range.WellFormed :=
  inferInstanceAs (Decidable (_ < _))

theorem saturatedStop_toNat (range : AddressRange) :
    range.saturatedStop.toNat =
      min (range.location.toNat + range.length.toNat) (UInt64.size - 1) := by
  rw [saturatedStop, addressMax_toNat]
  exact UInt64.toNat_ofNat_of_lt (by simp only [UInt64.size]; omega)

/-- A half-open interval of natural numbers as text. -/
def intervalText (start stop : Nat) : String :=
  "[" ++ Text.hexadecimal start ++ ", " ++ Text.hexadecimal stop ++ ")"

theorem text_of_wellFormed {range : AddressRange} (wellFormed : range.WellFormed) :
    range.text =
      intervalText range.location.toNat (range.location.toNat + range.length.toNat) := by
  have bound : range.location.toNat + range.length.toNat ≤ UInt64.size - 1 :=
    Nat.le_sub_one_of_lt wellFormed
  rw [text, addressText, addressText, saturatedStop_toNat, Nat.min_eq_left bound]
  rfl

end AddressRange

end BinaryImage
