import BinaryImage.AddressRange.Containment
import BinaryImage.Proofs.Checked.Failures

/-!
# Exact answers of range queries

Range queries add up words, and are meant for sums of natural numbers. Main statement: a query is
refused exactly where a sum that it asks about is no address, and is otherwise answered by the
order of locations and ends. The sums that a query computes unchecked are addresses.
-/

namespace BinaryImage.AddressRange

open Checked

/-- The end of a range among the natural numbers, which need not be an address. -/
def exactStop (range : AddressRange) : Nat := range.location.toNat + range.length.toNat

theorem wellFormed_iff {range : AddressRange} :
    range.WellFormed ↔ range.exactStop < UInt64.size :=
  Iff.rfl

theorem not_wellFormed_iff {range : AddressRange} :
    ¬range.WellFormed ↔ UInt64.size ≤ range.exactStop :=
  Nat.not_lt

/-! ## Queries with three answers -/

/-- A query that overflows exactly where it is refused, and otherwise accepts or does not find
what it is asked about. -/
structure Answers (query : Checked Unit) (refused accepted : Prop) : Prop where
  overflow_iff : query.result = .error (.plain .overflow) ↔ refused
  ok_iff : query.result = .ok () ↔ ¬refused ∧ accepted
  notFound_iff : query.result = .error (.plain .notFound) ↔ ¬refused ∧ ¬accepted

namespace Answers

variable {query : Checked Unit} {refused accepted : Prop}

theorem of_cases
    (overflows : refused → query.result = .error (.plain .overflow))
    (accepts : ¬refused → accepted → query.result = .ok ())
    (misses : ¬refused → ¬accepted → query.result = .error (.plain .notFound)) :
    Answers query refused accepted := by
  by_cases isRefused : refused
  · constructor <;> simp [overflows isRefused, isRefused, Failure.plain]
  · by_cases isAccepted : accepted
    · constructor <;> simp [accepts isRefused isAccepted, isRefused, isAccepted]
    · constructor <;> simp [misses isRefused isAccepted, isRefused, isAccepted, Failure.plain]

/-- No third way to fail is left, so that a fault of a sum inside is ruled out. -/
theorem failsWithin (answers : Answers query refused accepted) :
    FailsWithin (fun failure => failure = .plain .overflow ∨ failure = .plain .notFound) query := by
  intro failure failed
  by_cases isRefused : refused
  · rw [answers.overflow_iff.mpr isRefused] at failed
    exact Or.inl (Except.error.inj failed).symm
  · by_cases isAccepted : accepted
    · rw [answers.ok_iff.mpr ⟨isRefused, isAccepted⟩] at failed
      cases failed
    · rw [answers.notFound_iff.mpr ⟨isRefused, isAccepted⟩] at failed
      exact Or.inr (Except.error.inj failed).symm

theorem unflagged (answers : Answers query refused accepted) :
    FailsWithin (fun failure => failure.flags = StatusFlags.empty) query := by
  intro failure failed
  rcases answers.failsWithin failure failed with rfl | rfl
  · rfl
  · rfl

theorem recoverable (answers : Answers query refused accepted) :
    FailsWithin (fun failure => failure.code ≠ .internalError) query := by
  intro failure failed
  rcases answers.failsWithin failure failed with rfl | rfl
  · exact fun internal => nomatch internal
  · exact fun internal => nomatch internal

theorem faultless (answers : Answers query refused accepted) :
    query.result ≠ (fault : Checked Unit).result :=
  fun faulty => answers.recoverable _ faulty rfl

/-- Queries with the same three answers have the same result. -/
theorem result_eq
    {other : Checked Unit} (answers : Answers query refused accepted)
    (alsoAnswers : Answers other refused accepted) : query.result = other.result := by
  by_cases isRefused : refused
  · rw [answers.overflow_iff.mpr isRefused, alsoAnswers.overflow_iff.mpr isRefused]
  · by_cases isAccepted : accepted
    · rw [answers.ok_iff.mpr ⟨isRefused, isAccepted⟩,
        alsoAnswers.ok_iff.mpr ⟨isRefused, isAccepted⟩]
    · rw [answers.notFound_iff.mpr ⟨isRefused, isAccepted⟩,
        alsoAnswers.notFound_iff.mpr ⟨isRefused, isAccepted⟩]

end Answers

/-! ## Answers of range queries -/

theorem containsAddress_answers (range : AddressRange) (offset address : UInt64) :
    Answers (range.containsAddress offset address)
      (UInt64.size ≤ address.toNat + offset.toNat ∨ UInt64.size ≤ range.exactStop)
      (range.location.toNat ≤ address.toNat + offset.toNat ∧
        address.toNat + offset.toNat < range.exactStop) := by
  rw [containsAddress_eq, exactStop]
  apply Answers.of_cases
  · rintro (wraps | malformed)
    · rw [if_pos wraps]
      rfl
    · rw [if_pos (not_wellFormed_iff.mpr malformed)]
      split
      · rfl
      · rfl
  · intro allowed inside
    obtain ⟨moves, formed⟩ := not_or.mp allowed
    rw [if_neg moves, if_neg (mt not_wellFormed_iff.mp formed), if_pos inside]
    rfl
  · intro allowed outside
    obtain ⟨moves, formed⟩ := not_or.mp allowed
    rw [if_neg moves, if_neg (mt not_wellFormed_iff.mp formed), if_neg outside]
    rfl

theorem containsRange_answers (outer inner : AddressRange) (partially : Bool) :
    Answers (outer.containsRange inner partially)
      (UInt64.size ≤ outer.exactStop ∨ UInt64.size ≤ inner.exactStop)
      (outer.Accepts inner partially) := by
  rw [containsRange_eq]
  apply Answers.of_cases
  · rintro (outerMalformed | innerMalformed)
    · rw [if_pos (not_wellFormed_iff.mpr outerMalformed)]
      rfl
    · rw [if_pos (not_wellFormed_iff.mpr innerMalformed)]
      split
      · rfl
      · rfl
  · intro allowed accepted
    obtain ⟨outerFormed, innerFormed⟩ := not_or.mp allowed
    rw [if_neg (mt not_wellFormed_iff.mp outerFormed),
      if_neg (mt not_wellFormed_iff.mp innerFormed), if_pos accepted]
    rfl
  · intro allowed rejected
    obtain ⟨outerFormed, innerFormed⟩ := not_or.mp allowed
    rw [if_neg (mt not_wellFormed_iff.mp outerFormed),
      if_neg (mt not_wellFormed_iff.mp innerFormed), if_neg rejected]
    rfl

theorem accepts_fully_iff {outer inner : AddressRange} :
    outer.Accepts inner false ↔
      outer.location.toNat ≤ inner.location.toNat ∧ inner.exactStop ≤ outer.exactStop :=
  Iff.rfl

theorem accepts_partially_iff {outer inner : AddressRange} :
    outer.Accepts inner true ↔
      outer.location.toNat ≤ inner.exactStop ∧ inner.location.toNat ≤ outer.exactStop :=
  Iff.rfl

/-- Ends included, the ranges have a point in common. -/
theorem accepts_partially_iff_exists_point {outer inner : AddressRange} :
    outer.Accepts inner true ↔
      ∃ point, (outer.location.toNat ≤ point ∧ point ≤ outer.exactStop) ∧
        (inner.location.toNat ≤ point ∧ point ≤ inner.exactStop) := by
  rw [accepts_partially_iff]
  simp only [exactStop]
  constructor
  · intro meet
    exact ⟨max outer.location.toNat inner.location.toNat, by omega, by omega⟩
  · rintro ⟨point, inOuter, inInner⟩
    omega

/-- A question about an address or a range is refused exactly if the moved address, or the end of
a range it involves, is no address. Otherwise an address has to lie in the half-open interval of a
range; an inner range has to lie between the ends of the outer, or, partially, only to meet it,
ends included. No failure carries a flag, and no sum that a question takes to be an address is out
of range. -/
theorem queries_exact (outer inner : AddressRange) (offset address : UInt64) :
    Answers (outer.containsAddress offset address)
      (UInt64.size ≤ address.toNat + offset.toNat ∨ UInt64.size ≤ outer.exactStop)
      (outer.location.toNat ≤ address.toNat + offset.toNat ∧
        address.toNat + offset.toNat < outer.exactStop) ∧
    Answers (outer.containsRange inner false)
      (UInt64.size ≤ outer.exactStop ∨ UInt64.size ≤ inner.exactStop)
      (outer.location.toNat ≤ inner.location.toNat ∧ inner.exactStop ≤ outer.exactStop) ∧
    Answers (outer.containsRange inner true)
      (UInt64.size ≤ outer.exactStop ∨ UInt64.size ≤ inner.exactStop)
      (outer.location.toNat ≤ inner.exactStop ∧ inner.location.toNat ≤ outer.exactStop) ∧
    (outer.location.toNat ≤ inner.exactStop ∧ inner.location.toNat ≤ outer.exactStop ↔
      ∃ point, (outer.location.toNat ≤ point ∧ point ≤ outer.exactStop) ∧
        (inner.location.toNat ≤ point ∧ point ≤ inner.exactStop)) ∧
    (FailsWithin (fun failure => failure.flags = StatusFlags.empty)
        (outer.containsAddress offset address) ∧
      (outer.containsAddress offset address).result ≠ (fault : Checked Unit).result) ∧
    ∀ partially,
      FailsWithin (fun failure => failure.flags = StatusFlags.empty)
        (outer.containsRange inner partially) ∧
      (outer.containsRange inner partially).result ≠ (fault : Checked Unit).result := by
  have ofAddress := containsAddress_answers outer offset address
  have ofRange := containsRange_answers outer inner
  refine ⟨ofAddress, ofRange false, ofRange true, accepts_partially_iff_exists_point,
    ⟨ofAddress.unflagged, ofAddress.faultless⟩, ?_⟩
  intro partially
  exact ⟨(ofRange partially).unflagged, (ofRange partially).faultless⟩

end BinaryImage.AddressRange
