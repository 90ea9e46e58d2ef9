import BinaryImage.Proofs.AddressRange.Points
import Mathlib.Order.Defs.Unbundled

/-!
# Enclosure of ranges

A range encloses those that lie in it as a whole, and meets those that lie in it in part. Main
statement: enclosure is a partial order on the well-formed ranges, empty ones included, and
meeting is reflexive there and symmetric for all ranges, in the way in which it fails too. An
enclosing range meets what the enclosed one meets, itself included, and accepts what that accepts.
-/

namespace BinaryImage.AddressRange

/-- The inner range is accepted as a whole. -/
def Encloses (outer inner : AddressRange) : Prop :=
  (outer.containsRange inner false).result = .ok ()

/-- The other range is accepted in part. -/
def Meets (range other : AddressRange) : Prop :=
  (range.containsRange other true).result = .ok ()

variable {range other outer middle inner left right : AddressRange}

theorem encloses_iff :
    outer.Encloses inner ↔
      outer.WellFormed ∧ inner.WellFormed ∧
        outer.location.toNat ≤ inner.location.toNat ∧ inner.exactStop ≤ outer.exactStop := by
  rw [Encloses, containsRange_result_eq_ok_iff, accepts_fully_iff]

theorem meets_iff :
    range.Meets other ↔
      range.WellFormed ∧ other.WellFormed ∧
        range.location.toNat ≤ other.exactStop ∧ other.location.toNat ≤ range.exactStop := by
  rw [Meets, containsRange_result_eq_ok_iff, accepts_partially_iff]

theorem eq_of_location_of_exactStop
    (sameLocation : left.location.toNat = right.location.toNat)
    (sameStop : left.exactStop = right.exactStop) : left = right := by
  have sameLength : left.length.toNat = right.length.toNat := by
    rw [exactStop, exactStop, sameLocation] at sameStop
    exact Nat.add_left_cancel sameStop
  cases left
  cases right
  exact (mk.injEq ..).mpr ⟨UInt64.toNat_inj.mp sameLocation, UInt64.toNat_inj.mp sameLength⟩

/-! ## Meeting -/

/-- The two ranges trade places in what is refused and in what is accepted. -/
theorem containsRange_partially_comm (left right : AddressRange) :
    (left.containsRange right true).result = (right.containsRange left true).result := by
  have answers := containsRange_answers left right true
  have swapped := containsRange_answers right left true
  rw [accepts_partially_iff] at answers swapped
  rw [or_comm, and_comm] at swapped
  exact answers.result_eq swapped

theorem meets_self (formed : range.WellFormed) : range.Meets range :=
  meets_iff.mpr ⟨formed, formed, range.location_le_exactStop, range.location_le_exactStop⟩

theorem Encloses.meets_of_meets
    (encloses : outer.Encloses inner) (meets : inner.Meets other) : outer.Meets other := by
  obtain ⟨outerFormed, _, start, stop⟩ := encloses_iff.mp encloses
  obtain ⟨_, otherFormed, innerBelow, otherBelow⟩ := meets_iff.mp meets
  exact meets_iff.mpr
    ⟨outerFormed, otherFormed, Nat.le_trans start innerBelow, Nat.le_trans otherBelow stop⟩

theorem Encloses.meets (encloses : outer.Encloses inner) : outer.Meets inner := by
  obtain ⟨_, innerFormed, _⟩ := encloses_iff.mp encloses
  exact encloses.meets_of_meets (meets_self innerFormed)

/-! ## The order of enclosure -/

theorem encloses_self (formed : range.WellFormed) : range.Encloses range :=
  encloses_iff.mpr ⟨formed, formed, Nat.le_refl _, Nat.le_refl _⟩

theorem Encloses.trans
    (first : outer.Encloses middle) (second : middle.Encloses inner) : outer.Encloses inner := by
  obtain ⟨outerFormed, _, outerStart, outerStop⟩ := encloses_iff.mp first
  obtain ⟨_, innerFormed, innerStart, innerStop⟩ := encloses_iff.mp second
  exact encloses_iff.mpr
    ⟨outerFormed, innerFormed, Nat.le_trans outerStart innerStart,
      Nat.le_trans innerStop outerStop⟩

theorem Encloses.antisymm
    (encloses : left.Encloses right) (enclosed : right.Encloses left) : left = right := by
  obtain ⟨_, _, leftStart, leftStop⟩ := encloses_iff.mp encloses
  obtain ⟨_, _, rightStart, rightStop⟩ := encloses_iff.mp enclosed
  exact eq_of_location_of_exactStop
    (Nat.le_antisymm leftStart rightStart) (Nat.le_antisymm rightStop leftStop)

theorem isPartialOrder_encloses :
    IsPartialOrder { range : AddressRange // range.WellFormed }
      fun inner outer => outer.val.Encloses inner.val where
  refl range := encloses_self range.property
  trans _ _ _ lower upper := upper.trans lower
  antisymm _ _ below above := Subtype.ext (above.antisymm below)

/-- Of any two ranges, the one lies in part in the other with the result with which the other lies
in part in it. Well-formed ranges are ordered by enclosure, and meet themselves. An outer range
meets what it encloses, meets all that an inner range meets, and accepts every address that the
inner range accepts, whatever the offset. -/
theorem enclosure_ordered :
    (∀ left right : AddressRange,
      (left.containsRange right true).result = (right.containsRange left true).result) ∧
    IsPartialOrder { range : AddressRange // range.WellFormed }
      (fun inner outer => outer.val.Encloses inner.val) ∧
    (∀ range : AddressRange, range.WellFormed → range.Meets range) ∧
    ∀ outer inner : AddressRange, outer.Encloses inner →
      outer.Meets inner ∧
      (∀ other, inner.Meets other → outer.Meets other) ∧
      ∀ offset address, (inner.containsAddress offset address).result = .ok () →
        (outer.containsAddress offset address).result = .ok () := by
  refine ⟨containsRange_partially_comm, isPartialOrder_encloses, fun _ => meets_self, ?_⟩
  intro outer inner encloses
  exact ⟨encloses.meets, fun _ => encloses.meets_of_meets,
    fun _ _ => containsAddress_of_containsRange encloses⟩

/-- The top range encloses its last seven addresses, and so it meets the empty range that these
meet, and accepts the address that they accept with an offset. With a range that runs past the
highest address, the question is refused either way round. -/
theorem enclosure_ordered_topRange :
    (topRange.WellFormed ∧ topRange.Encloses ⟨0xfffffffffffffff8, 7⟩) ∧
      topRange.Meets topRange ∧
      topRange.Meets ⟨addressMax, 0⟩ ∧
      (topRange.containsAddress 9 0xfffffffffffffff0).result = .ok () ∧
      (containsRange ⟨addressMax, 1⟩ topRange true).result = .error (.plain .overflow) := by
  have formed : topRange.WellFormed := by decide
  have encloses : topRange.Encloses ⟨0xfffffffffffffff8, 7⟩ := rfl
  obtain ⟨symmetric, _, meetsItself, enclosing⟩ := enclosure_ordered
  obtain ⟨_, meets_of_meets, accepts_of_accepts⟩ := enclosing _ _ encloses
  refine ⟨⟨formed, encloses⟩, meetsItself _ formed, meets_of_meets _ rfl,
    accepts_of_accepts _ _ rfl, ?_⟩
  rw [symmetric]
  rfl

end BinaryImage.AddressRange
