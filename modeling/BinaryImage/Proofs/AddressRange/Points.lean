import BinaryImage.Proofs.AddressRange.Queries

/-!
# Ranges as sets of addresses

A range contains the addresses that are accepted without an offset. Main statement: what is asked
of two ranges as wholes, by their ends, is what holds of their addresses one by one. An inner range
that is not empty lies in an outer one exactly if all its addresses do, and if its first and last
ones do; and two ranges meet if they have an address in common or the one ends where the other
starts.
-/

namespace BinaryImage.AddressRange

/-- The address is accepted as it is. -/
def Contains (range : AddressRange) (address : UInt64) : Prop :=
  (range.containsAddress 0 address).result = .ok ()

/-- The last address of a range that is well-formed and not empty. -/
def last (range : AddressRange) : UInt64 := range.location + range.length - 1

variable {range outer inner left right : AddressRange} {offset address : UInt64}

theorem containsAddress_result_eq_ok_iff :
    (range.containsAddress offset address).result = .ok () ↔
      range.WellFormed ∧ range.location.toNat ≤ address.toNat + offset.toNat ∧
        address.toNat + offset.toNat < range.exactStop := by
  rw [(containsAddress_answers range offset address).ok_iff, not_or, ← not_wellFormed_iff,
    Decidable.not_not]
  constructor
  · rintro ⟨⟨_, formed⟩, inside⟩
    exact ⟨formed, inside⟩
  · rintro ⟨formed, above, below⟩
    exact ⟨⟨Nat.not_le.mpr (Nat.lt_trans below formed), formed⟩, above, below⟩

theorem contains_iff :
    range.Contains address ↔
      range.WellFormed ∧ range.location.toNat ≤ address.toNat ∧ address.toNat < range.exactStop :=
  containsAddress_result_eq_ok_iff

theorem containsRange_result_eq_ok_iff {partially : Bool} :
    (outer.containsRange inner partially).result = .ok () ↔
      outer.WellFormed ∧ inner.WellFormed ∧ outer.Accepts inner partially := by
  rw [(containsRange_answers outer inner partially).ok_iff, not_or, ← not_wellFormed_iff,
    ← not_wellFormed_iff, Decidable.not_not, Decidable.not_not, and_assoc]

theorem stop_result_eq_ok_iff :
    range.stop.result = .ok address ↔ address.toNat = range.exactStop := by
  have bound := address.toNat_lt
  rw [stop, Address.add]
  by_cases formed : range.location.toNat + range.length.toNat < UInt64.size
  · rw [if_pos formed, Checked.pure_result, Except.ok.injEq, ← UInt64.toNat_inj,
      Checked.toNat_add_of_lt formed, exactStop]
    exact eq_comm
  · rw [if_neg formed, exactStop]
    constructor
    · intro stopped
      cases stopped
    · intro same
      exact absurd (same ▸ bound) formed

theorem stop_of_wellFormed (formed : range.WellFormed) :
    range.stop = pure (range.location + range.length) :=
  if_pos formed

theorem location_le_exactStop (range : AddressRange) : range.location.toNat ≤ range.exactStop :=
  Nat.le_add_right _ _

/-! ## First and last addresses -/

theorem last_toNat (formed : range.WellFormed) (nonempty : 0 < range.length) :
    range.last.toNat = range.exactStop - 1 := by
  have positive : 0 < range.length.toNat := nonempty
  have stop : (range.location + range.length).toNat = range.exactStop :=
    Checked.toNat_add_of_lt formed
  have above : (1 : UInt64).toNat ≤ (range.location + range.length).toNat := by
    rw [stop, exactStop]
    exact Nat.le_add_left_of_le positive
  rw [last, Checked.toNat_sub_of_le above, stop]
  rfl

theorem contains_location (formed : range.WellFormed) (nonempty : 0 < range.length) :
    range.Contains range.location := by
  have positive : 0 < range.length.toNat := nonempty
  rw [contains_iff, exactStop]
  exact ⟨formed, Nat.le_refl _, Nat.lt_add_of_pos_right positive⟩

theorem contains_last (formed : range.WellFormed) (nonempty : 0 < range.length) :
    range.Contains range.last := by
  have positive : 0 < range.length.toNat := nonempty
  rw [contains_iff, last_toNat formed nonempty, exactStop]
  exact ⟨formed, by omega, by omega⟩

/-! ## Inner ranges -/

theorem containsAddress_of_containsRange
    (enclosed : (outer.containsRange inner false).result = .ok ())
    (accepted : (inner.containsAddress offset address).result = .ok ()) :
    (outer.containsAddress offset address).result = .ok () := by
  obtain ⟨outerFormed, _, ordered⟩ := containsRange_result_eq_ok_iff.mp enclosed
  obtain ⟨_, above, below⟩ := containsAddress_result_eq_ok_iff.mp accepted
  obtain ⟨start, stop⟩ := accepts_fully_iff.mp ordered
  exact containsAddress_result_eq_ok_iff.mpr
    ⟨outerFormed, Nat.le_trans start above, Nat.lt_of_lt_of_le below stop⟩

theorem contains_of_containsRange
    (enclosed : (outer.containsRange inner false).result = .ok ())
    (member : inner.Contains address) : outer.Contains address :=
  containsAddress_of_containsRange enclosed member

/-- Between two addresses of a range, there are only addresses of the range. -/
theorem containsRange_of_ends
    (formed : inner.WellFormed) (nonempty : 0 < inner.length)
    (first : outer.Contains inner.location) (final : outer.Contains inner.last) :
    (outer.containsRange inner false).result = .ok () := by
  obtain ⟨outerFormed, above, _⟩ := contains_iff.mp first
  obtain ⟨_, _, below⟩ := contains_iff.mp final
  have positive : 0 < inner.length.toNat := nonempty
  have reaches : inner.exactStop ≤ outer.exactStop := by
    rw [last_toNat formed nonempty] at below
    exact Nat.le_of_pred_lt below
  exact containsRange_result_eq_ok_iff.mpr
    ⟨outerFormed, formed, accepts_fully_iff.mpr ⟨above, reaches⟩⟩

/-! ## Ranges that meet -/

theorem exists_contains_of_lt
    (leftFormed : left.WellFormed) (rightFormed : right.WellFormed)
    (leftNonempty : 0 < left.length) (rightNonempty : 0 < right.length)
    (leftFirst : left.location.toNat < right.exactStop)
    (rightFirst : right.location.toNat < left.exactStop) :
    ∃ address, left.Contains address ∧ right.Contains address := by
  -- The later of both locations is an address of both ranges.
  by_cases order : left.location.toNat ≤ right.location.toNat
  · refine ⟨right.location, ?_, contains_location rightFormed rightNonempty⟩
    exact contains_iff.mpr ⟨leftFormed, order, rightFirst⟩
  · refine ⟨left.location, contains_location leftFormed leftNonempty, ?_⟩
    exact contains_iff.mpr ⟨rightFormed, Nat.le_of_not_le order, leftFirst⟩

theorem containsRange_partially_iff
    (leftFormed : left.WellFormed) (rightFormed : right.WellFormed)
    (leftNonempty : 0 < left.length) (rightNonempty : 0 < right.length) :
    (left.containsRange right true).result = .ok () ↔
      (∃ address, left.Contains address ∧ right.Contains address) ∨
        left.stop.result = .ok right.location ∨ right.stop.result = .ok left.location := by
  have leftOrder := left.location_le_exactStop
  have rightOrder := right.location_le_exactStop
  rw [containsRange_result_eq_ok_iff, stop_result_eq_ok_iff, stop_result_eq_ok_iff,
    accepts_partially_iff]
  constructor
  · rintro ⟨_, _, leftBelow, rightBelow⟩
    rcases Nat.eq_or_lt_of_le leftBelow with touches | leftFirst
    · exact Or.inr (Or.inr touches)
    · rcases Nat.eq_or_lt_of_le rightBelow with touches | rightFirst
      · exact Or.inr (Or.inl touches)
      · exact Or.inl (exists_contains_of_lt leftFormed rightFormed leftNonempty rightNonempty
          leftFirst rightFirst)
  · rintro (⟨address, inLeft, inRight⟩ | touches | touches)
    · obtain ⟨_, leftAbove, leftBelow⟩ := contains_iff.mp inLeft
      obtain ⟨_, rightAbove, rightBelow⟩ := contains_iff.mp inRight
      exact ⟨leftFormed, rightFormed, by omega, by omega⟩
    · exact ⟨leftFormed, rightFormed, by omega, by omega⟩
    · exact ⟨leftFormed, rightFormed, by omega, by omega⟩

/-- Of an inner range that is well-formed and not empty, any outer range contains all addresses
exactly if it contains the first and the last of them, and exactly if it contains the inner range;
the two meet, if the outer is well-formed and not empty as well, exactly if they have an address
in common or one of them ends at the location of the other. -/
theorem containsRange_pointwise
    (outer : AddressRange) (formed : inner.WellFormed) (nonempty : 0 < inner.length) :
    ((outer.containsRange inner false).result = .ok () ↔
      ∀ address, inner.Contains address → outer.Contains address) ∧
    ((outer.containsRange inner false).result = .ok () ↔
      outer.Contains inner.location ∧ outer.Contains inner.last) ∧
    (outer.WellFormed → 0 < outer.length →
      ((outer.containsRange inner true).result = .ok () ↔
        (∃ address, outer.Contains address ∧ inner.Contains address) ∨
          outer.stop.result = .ok inner.location ∨ inner.stop.result = .ok outer.location)) := by
  have all_of_enclosed : (outer.containsRange inner false).result = .ok () →
      ∀ address, inner.Contains address → outer.Contains address :=
    fun enclosed _ => contains_of_containsRange enclosed
  have enclosed_of_ends : outer.Contains inner.location ∧ outer.Contains inner.last →
      (outer.containsRange inner false).result = .ok () :=
    fun ends => containsRange_of_ends formed nonempty ends.1 ends.2
  have ends_of_all : (∀ address, inner.Contains address → outer.Contains address) →
      outer.Contains inner.location ∧ outer.Contains inner.last := by
    intro all
    exact ⟨all _ (contains_location formed nonempty), all _ (contains_last formed nonempty)⟩
  refine ⟨⟨all_of_enclosed, enclosed_of_ends ∘ ends_of_all⟩,
    ⟨ends_of_all ∘ all_of_enclosed, enclosed_of_ends⟩, ?_⟩
  intro outerFormed outerNonempty
  exact containsRange_partially_iff outerFormed formed outerNonempty nonempty

/-- An empty range contains no address, and yet does not lie everywhere. -/
example : (containsRange ⟨0, 1⟩ ⟨5, 0⟩ false).result = .error (.plain .notFound) := rfl

/-- A range that ends at the highest address. -/
def topRange : AddressRange := ⟨0xfffffffffffffff0, 0xf⟩

/-- A longer range of the same end contains all addresses of the top range, as it contains the first
and the last. A range that ends where the top range starts meets it; and one of the same start,
the end of which is no address, does not even contain the addresses of both. -/
theorem containsRange_pointwise_topRange :
    (topRange.WellFormed ∧ 0 < topRange.length) ∧
      (∀ address, topRange.Contains address →
        Contains ⟨0xffffffffffffff00, 0xff⟩ address) ∧
      (containsRange ⟨0xffffffffffffffe0, 0x10⟩ topRange true).result = .ok () ∧
      ¬∀ address, topRange.Contains address → Contains ⟨0xfffffffffffffff0, 0x10⟩ address := by
  have formed : topRange.WellFormed := by decide
  have nonempty : 0 < topRange.length := by decide
  obtain ⟨all_iff, ends_iff, _⟩ :=
    containsRange_pointwise ⟨0xffffffffffffff00, 0xff⟩ formed nonempty
  obtain ⟨_, _, meets_iff⟩ :=
    containsRange_pointwise ⟨0xffffffffffffffe0, 0x10⟩ formed nonempty
  obtain ⟨malformed_iff, _, _⟩ :=
    containsRange_pointwise ⟨0xfffffffffffffff0, 0x10⟩ formed nonempty
  refine ⟨⟨formed, nonempty⟩, all_iff.mp (ends_iff.mpr ⟨rfl, rfl⟩), ?_, ?_⟩
  · exact (meets_iff (by decide) (by decide)).mpr (Or.inr (Or.inl rfl))
  · intro all
    cases malformed_iff.mpr all

end BinaryImage.AddressRange
