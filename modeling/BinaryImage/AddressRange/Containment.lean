import BinaryImage.Address.Arithmetic

/-!
# Containment

Questions about what lies inside a range. Every question first checks that the ends of the
ranges it involves are addresses.
-/

namespace BinaryImage.AddressRange

open Checked

/-- Accepts a range whose end is an address. -/
def validate (range : AddressRange) : Checked Unit :=
  Address.checkLength range.location range.length

def stop (range : AddressRange) : Checked UInt64 := Address.add range.location range.length

/-- Accepts an address that, moved up by an offset, lies in the range. -/
def containsAddress (range : AddressRange) (offset address : UInt64) : Checked Unit := do
  let moved ← Address.applyOffset address offset
  range.validate
  if moved < range.location then
    reject (.outsideRange moved range)
  else
    let stop ← exactAdd range.location range.length
    if stop ≤ moved then
      reject (.outsideRange moved range)

/-- Accepts an inner range that lies in an outer range. Where the inner range needs to lie there
only partially, it is enough that the two touch: the end of one may be the start of the other. -/
def containsRange (outer inner : AddressRange) (partially : Bool) : Checked Unit := do
  outer.validate
  inner.validate
  let outerStop ← exactAdd outer.location outer.length
  let innerStop ← exactAdd inner.location inner.length
  let accepted :=
    if partially then
      !(inner.location < outer.location && innerStop < outer.location) &&
        inner.location ≤ outerStop
    else
      inner.location ≥ outer.location && innerStop ≤ outerStop
  if !accepted then
    reject (.outsideOuter inner outer partially)

/-! ## Exact answers -/

theorem validate_eq (range : AddressRange) :
    range.validate =
      if range.WellFormed then pure () else reject (.lengthOverflows range.length range.location) :=
  Address.checkLength_eq range.location range.length

theorem validate_of_wellFormed {range : AddressRange} (wellFormed : range.WellFormed) :
    range.validate = pure () := by
  rw [validate_eq, if_pos wellFormed]

theorem wellFormed_of_validate
    {range : AddressRange} {answer : Unit} (validated : range.validate.result = .ok answer) :
    range.WellFormed := by
  by_cases wellFormed : range.WellFormed
  · exact wellFormed
  · rw [validate_eq, if_neg wellFormed] at validated
    cases validated

theorem exactAdd_of_wellFormed {range : AddressRange} (wellFormed : range.WellFormed) :
    exactAdd range.location range.length = pure (range.location + range.length) :=
  exactAdd_eq_pure wellFormed

/-- An address is accepted exactly when, moved, it lies between the ends; every sum is exact. -/
theorem containsAddress_eq (range : AddressRange) (offset address : UInt64) :
    range.containsAddress offset address =
      if UInt64.size ≤ address.toNat + offset.toNat then reject (.offsetOverflows offset address)
      else if ¬range.WellFormed then reject (.lengthOverflows range.length range.location)
      else if range.location.toNat ≤ address.toNat + offset.toNat ∧
          address.toNat + offset.toNat < range.location.toNat + range.length.toNat then pure ()
      else reject (.outsideRange (address + offset) range) := by
  rw [containsAddress, Address.applyOffset_eq]
  by_cases moves : address.toNat + offset.toNat < UInt64.size
  · have moved := toNat_add_of_lt moves
    rw [if_pos moves, pure_bind, if_neg (Nat.not_le.mpr moves)]
    by_cases wellFormed : range.WellFormed
    · have stop : (range.location + range.length).toNat = _ := toNat_add_of_lt wellFormed
      rw [validate_of_wellFormed wellFormed, pure_bind, exactAdd_of_wellFormed wellFormed,
        pure_bind, if_neg (not_not_intro wellFormed)]
      simp only [UInt64.lt_iff_toNat_lt, UInt64.le_iff_toNat_le, moved, stop]
      split
      · rw [if_neg (by omega)]
      · split
        · rw [if_neg (by omega)]
        · rw [if_pos (by omega)]
    · rw [validate_eq, if_neg wellFormed, if_pos wellFormed]
      rfl
  · rw [if_neg moves, if_pos (Nat.le_of_not_lt moves)]
    rfl

/-- What it means for an inner range to lie in an outer one: between its ends, or, partially, not
wholly below or above it. -/
def Accepts (outer inner : AddressRange) (partially : Bool) : Prop :=
  let outerStop := outer.location.toNat + outer.length.toNat
  let innerStop := inner.location.toNat + inner.length.toNat
  if partially then outer.location.toNat ≤ innerStop ∧ inner.location.toNat ≤ outerStop
  else outer.location.toNat ≤ inner.location.toNat ∧ innerStop ≤ outerStop

instance (outer inner : AddressRange) (partially : Bool) :
    Decidable (outer.Accepts inner partially) :=
  inferInstanceAs (Decidable (if partially then _ ∧ _ else _ ∧ _))

/-- An inner range is accepted exactly when both ranges are well-formed and it lies there. -/
theorem containsRange_eq (outer inner : AddressRange) (partially : Bool) :
    outer.containsRange inner partially =
      if ¬outer.WellFormed then reject (.lengthOverflows outer.length outer.location)
      else if ¬inner.WellFormed then reject (.lengthOverflows inner.length inner.location)
      else if outer.Accepts inner partially then pure ()
      else reject (.outsideOuter inner outer partially) := by
  rw [containsRange, validate_eq, validate_eq]
  by_cases outerFormed : outer.WellFormed
  · rw [if_pos outerFormed, pure_bind, if_neg (not_not_intro outerFormed)]
    by_cases innerFormed : inner.WellFormed
    · have outerStop : (outer.location + outer.length).toNat = _ := toNat_add_of_lt outerFormed
      have innerStop : (inner.location + inner.length).toNat = _ := toNat_add_of_lt innerFormed
      rw [if_pos innerFormed, pure_bind, if_neg (not_not_intro innerFormed),
        exactAdd_of_wellFormed outerFormed, pure_bind, exactAdd_of_wellFormed innerFormed,
        pure_bind]
      cases partially with
      | false =>
          simp only [Accepts, Bool.false_eq_true, if_false, UInt64.le_iff_toNat_le, ge_iff_le,
            innerStop, outerStop, Bool.not_eq_true', Bool.and_eq_false_iff,
            decide_eq_false_iff_not]
          split
          · rw [if_neg (by omega)]
          · rw [if_pos (by omega)]
      | true =>
          simp only [Accepts, if_true, UInt64.le_iff_toNat_le, UInt64.lt_iff_toNat_lt, innerStop,
            outerStop, Bool.not_eq_true', Bool.and_eq_false_iff, decide_eq_false_iff_not,
            Bool.not_eq_false', Bool.and_eq_true, decide_eq_true_eq]
          split
          · rw [if_neg (by omega)]
          · rw [if_pos (by omega)]
    · rw [if_neg innerFormed, if_pos innerFormed]
      rfl
  · rw [if_neg outerFormed, if_pos outerFormed]
    rfl

end BinaryImage.AddressRange
