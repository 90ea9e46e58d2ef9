import BinaryImage.Proofs.AddressRange.Points
import BinaryImage.Proofs.ByteOrder.ReadFailures
import BinaryImage.Proofs.Text.Intervals
import BinaryImage.Proofs.Trace.CallLog

/-!
# Texts of ranges

A range is shown as an interval that ends at the highest address where the range goes beyond it.
Main statement: the text of a range shows exactly its location and that end, so that it tells
well-formed ranges apart; and the record of a question of containment that found nothing tells
which ranges the question was about.
-/

namespace BinaryImage

open Checked

namespace AddressRange

variable {range other : AddressRange}

/-! ## What a text shows -/

/-- The location of a range and its end, or the highest address where the end lies beyond it. -/
def shownBounds (range : AddressRange) : Nat × Nat :=
  (range.location.toNat, min range.exactStop (UInt64.size - 1))

theorem text_eq_intervalText (range : AddressRange) :
    range.text = intervalText range.location.toNat (min range.exactStop (UInt64.size - 1)) := by
  rw [text, addressText, addressText, saturatedStop_toNat]
  rfl

theorem intervals_text_append (range : AddressRange) (rest : List Char) :
    Text.intervals (range.text.toList ++ rest) = range.shownBounds :: Text.intervals rest := by
  rw [text_eq_intervalText]
  exact Text.intervals_intervalText_append _ _ rest

theorem intervals_text (range : AddressRange) :
    Text.intervals range.text.toList = [range.shownBounds] := by
  have alone := range.intervals_text_append []
  rwa [List.append_nil] at alone

theorem text_eq_iff_shownBounds_eq :
    range.text = other.text ↔ range.shownBounds = other.shownBounds := by
  constructor
  · intro sameText
    have sameIntervals := congrArg (fun text => Text.intervals text.toList) sameText
    simp only [intervals_text] at sameIntervals
    exact List.singleton_inj.mp sameIntervals
  · intro sameBounds
    obtain ⟨sameStart, sameStop⟩ := Prod.mk.inj sameBounds
    rw [text_eq_intervalText, text_eq_intervalText, sameStart, sameStop]

theorem shownBounds_eq_iff :
    range.shownBounds = other.shownBounds ↔
      range.location = other.location ∧
        min range.exactStop (UInt64.size - 1) = min other.exactStop (UInt64.size - 1) := by
  rw [shownBounds, shownBounds, Prod.mk.injEq, UInt64.toNat_inj]

theorem shownBounds_of_wellFormed (formed : range.WellFormed) :
    range.shownBounds = (range.location.toNat, range.exactStop) := by
  have within : range.exactStop ≤ UInt64.size - 1 := Nat.le_sub_one_of_lt formed
  rw [shownBounds, Nat.min_eq_left within]

theorem shownBounds_of_not_wellFormed (malformed : ¬range.WellFormed) :
    range.shownBounds = (range.location.toNat, addressMax.toNat) := by
  have beyond : UInt64.size ≤ range.exactStop := not_wellFormed_iff.mp malformed
  rw [shownBounds, Nat.min_eq_right (Nat.le_trans (Nat.sub_le _ _) beyond), addressMax_toNat]

theorem eq_of_shownBounds_eq
    (formed : range.WellFormed) (otherFormed : other.WellFormed)
    (same : range.shownBounds = other.shownBounds) : range = other := by
  rw [shownBounds_of_wellFormed formed, shownBounds_of_wellFormed otherFormed] at same
  obtain ⟨sameStart, sameStop⟩ := Prod.mk.inj same
  have sameLength : range.length.toNat = other.length.toNat := by
    simp only [exactStop] at sameStop
    omega
  obtain ⟨location, length⟩ := range
  obtain ⟨otherLocation, otherLength⟩ := other
  rw [mk.injEq]
  exact ⟨UInt64.toNat_inj.mp sameStart, UInt64.toNat_inj.mp sameLength⟩

theorem eq_of_map_shownBounds_eq
    {ranges others : List AddressRange} (formed : ∀ range ∈ ranges, range.WellFormed)
    (othersFormed : ∀ other ∈ others, other.WellFormed)
    (same : ranges.map shownBounds = others.map shownBounds) : ranges = others := by
  induction ranges generalizing others with
  | nil => exact (List.map_eq_nil_iff.mp same.symm).symm
  | cons range rest inductionHypothesis =>
      cases others with
      | nil => cases same
      | cons other otherRest =>
          obtain ⟨sameBounds, sameRest⟩ := List.cons.inj same
          obtain ⟨rangeFormed, restFormed⟩ := List.forall_mem_cons.mp formed
          obtain ⟨otherFormed, otherRestFormed⟩ := List.forall_mem_cons.mp othersFormed
          rw [eq_of_shownBounds_eq rangeFormed otherFormed sameBounds,
            inductionHypothesis restFormed otherRestFormed sameRest]

theorem validate_result_eq_ok_iff : range.validate.result = .ok () ↔ range.WellFormed := by
  constructor
  · exact wellFormed_of_validate
  · intro formed
    rw [validate_of_wellFormed formed]
    rfl

theorem exists_stop_iff : (∃ stop, range.stop.result = .ok stop) ↔ range.WellFormed := by
  constructor
  · rintro ⟨stop, stopped⟩
    have bound := stop.toNat_lt
    rwa [stop_result_eq_ok_iff.mp stopped] at bound
  · intro formed
    rw [stop_of_wellFormed formed]
    exact ⟨_, rfl⟩

end AddressRange

/-! ## What a record shows -/

namespace Rejection

/-- The ranges that did not contain what was asked for, or were not contained. -/
def ranges : Rejection → List AddressRange
  | outsideRange _ range => [range]
  | outsideOuter inner outer _ => [inner, outer]
  | offsetOverflows .. | sumOverflows .. | differenceUnderflows .. | lengthOverflows ..
  | pastBuffer .. => []

theorem failure_eq_notFound_iff {rejection : Rejection} :
    rejection.failure = .plain .notFound ↔ rejection.ranges ≠ [] := by
  cases rejection <;> simp [failure, ranges, Failure.plain, Failure.memory]

theorem bracketless_message {rejection : Rejection} (rangeless : rejection.ranges = []) :
    Text.Bracketless rejection.message := by
  have shown (address : UInt64) : Text.Bracketless (addressText address) :=
    Text.bracketless_hexadecimal address.toNat
  cases rejection with
  | offsetOverflows offset address =>
      exact .append (.append (.append (by decide) (shown offset)) (by decide)) (shown address)
  | sumOverflows left right | differenceUnderflows left right =>
      exact .append (.append (.append (shown left) (by decide)) (shown right)) (by decide)
  | lengthOverflows length address =>
      exact .append (.append (.append (.append (by decide) (shown length)) (by decide))
        (shown address)) (by decide)
  | pastBuffer width cursor size =>
      exact .append (.append (.append (.append (.append (Text.bracketless_repr width) (by decide))
        (shown cursor)) (by decide)) (Text.bracketless_hexadecimal size)) (by decide)
  | outsideRange address range => cases rangeless
  | outsideOuter inner outer partially => cases rangeless

/-- The intervals in the message of a rejection are the texts of its ranges. -/
theorem intervals_message (rejection : Rejection) :
    Text.intervals rejection.message.toList = rejection.ranges.map AddressRange.shownBounds := by
  cases rejection with
  | outsideRange address range =>
      have before : Text.Bracketless (addressText address ++ " is outside ") :=
        .append (Text.bracketless_hexadecimal _) (by decide)
      rw [message, String.toList_append, Text.intervals_append_of_not_mem before,
        AddressRange.intervals_text]
      rfl
  | outsideOuter inner outer partially =>
      have behind : Text.Bracketless ((if partially then "true" else "false") ++ ")") := by
        cases partially <;> decide
      simp only [message, String.append_assoc]
      rw [String.toList_append, AddressRange.intervals_text_append, String.toList_append,
        Text.intervals_append_of_not_mem (by decide), String.toList_append,
        AddressRange.intervals_text_append,
        Text.intervals_of_bracketless (.append (by decide) behind)]
      rfl
  | _ => exact Text.intervals_of_bracketless (bracketless_message rfl)

theorem map_shownBounds_eq_of_record_eq
    {rejection other : Rejection} (same : rejection.record = other.record) :
    rejection.ranges.map AddressRange.shownBounds = other.ranges.map AddressRange.shownBounds := by
  have sameMessage : rejection.message = other.message := congrArg Record.message same
  rw [← intervals_message, ← intervals_message, sameMessage]

end Rejection

namespace Call

/-- The ranges of a question of containment, an inner range before the outer one. -/
def ranges : Call → List AddressRange
  | containsAddress range _ _ => [range]
  | containsRange outer inner _ => [inner, outer]
  | arithmetic .. | validate _ | stop _ | read .. => []

/-- Only questions of containment fail to find something, and they look for it in well-formed ranges
only. -/
theorem perform_of_notFound
    {call : Call} (missed : call.perform.result = .error (.plain .notFound)) :
    ∃ rejection, call.perform = reject rejection ∧ rejection.ranges = call.ranges ∧
      ∀ range ∈ call.ranges, range.WellFormed := by
  cases call with
  | arithmetic operation left right =>
      rw [perform, map_result_eq_error_iff, operation.run_eq] at missed
      split at missed
      · rw [reject_result, Address.Operation.failure_refusal] at missed
        cases operation <;> cases missed
      · cases missed
  | validate range =>
      rw [perform, AddressRange.validate_eq] at missed
      split at missed
      · cases missed
      · cases missed
  | stop range =>
      rw [perform, map_result_eq_error_iff, AddressRange.stop, Address.add] at missed
      split at missed
      · cases missed
      · cases missed
  | read order data cursor width =>
      rw [perform, map_result_eq_error_iff, ByteOrder.readField_result_eq_error_iff,
        ByteOrder.breachAt] at missed
      obtain ⟨_, breach⟩ := missed
      split at breach
      · cases breach
      · cases breach
  | containsAddress range offset address =>
      obtain ⟨allowed, outside⟩ :=
        (range.containsAddress_answers offset address).notFound_iff.mp missed
      obtain ⟨moves, within⟩ := not_or.mp allowed
      have formed := mt AddressRange.not_wellFormed_iff.mp within
      rw [AddressRange.exactStop] at outside
      refine ⟨.outsideRange (address + offset) range, ?_, rfl, ?_⟩
      · rw [perform, AddressRange.containsAddress_eq, if_neg moves, if_neg formed, if_neg outside]
      · simpa [ranges] using formed
  | containsRange outer inner partially =>
      obtain ⟨allowed, rejected⟩ :=
        (outer.containsRange_answers inner partially).notFound_iff.mp missed
      obtain ⟨outerWithin, innerWithin⟩ := not_or.mp allowed
      have outerFormed := mt AddressRange.not_wellFormed_iff.mp outerWithin
      have innerFormed := mt AddressRange.not_wellFormed_iff.mp innerWithin
      refine ⟨.outsideOuter inner outer partially, ?_, rfl, ?_⟩
      · rw [perform, AddressRange.containsRange_eq, if_neg outerFormed, if_neg innerFormed,
          if_neg rejected]
      · simpa [ranges] using And.intro (not_not.mp innerFormed) (not_not.mp outerFormed)

/-- A call that leaves the record of a question that found nothing is such a question itself, about
the same ranges. -/
theorem ranges_eq_of_records_eq
    {call other : Call} (missed : call.perform.result = .error (.plain .notFound))
    (same : call.perform.records = other.perform.records) : call.ranges = other.ranges := by
  obtain ⟨rejection, rejected, sameRanges, formed⟩ := perform_of_notFound missed
  have found : rejection.ranges ≠ [] := by
    rw [rejected, reject_result] at missed
    exact Rejection.failure_eq_notFound_iff.mp (Except.error.inj missed)
  rcases other.perform_stops with ⟨value, succeeded⟩ | ⟨otherRejection, otherRejected⟩
  · rw [rejected, succeeded] at same
    cases same
  · rw [rejected, otherRejected] at same
    have sameBounds :=
      Rejection.map_shownBounds_eq_of_record_eq (List.singleton_inj.mp same)
    have otherFound : otherRejection.ranges ≠ [] := by
      intro none
      rw [none, List.map_nil, List.map_eq_nil_iff] at sameBounds
      exact found sameBounds
    have otherMissed : other.perform.result = .error (.plain .notFound) := by
      rw [otherRejected, reject_result, Rejection.failure_eq_notFound_iff.mpr otherFound]
    obtain ⟨_, alsoRejected, sameOtherRanges, otherFormed⟩ := perform_of_notFound otherMissed
    rw [otherRejected] at alsoRejected
    cases congrArg Checked.trace alsoRejected
    rw [sameRanges, sameOtherRanges] at sameBounds
    exact AddressRange.eq_of_map_shownBounds_eq formed otherFormed sameBounds

end Call

namespace AddressRange

/-- A range is valid exactly if it has an end, and it is shown as the interval from its location to
that end, or to the highest address if it has none. The text is that of another range exactly if the
locations agree and the ends do up to the highest address, which makes well-formed ranges equal. A
call that looks for something in ranges and does not find it does so in well-formed ranges, and
leaves a record that no call about other ranges leaves. -/
theorem text_faithful (range other : AddressRange) :
    (range.validate.result = .ok () ↔ ∃ stop, range.stop.result = .ok stop) ∧
    range.text = intervalText range.location.toNat (min range.exactStop (UInt64.size - 1)) ∧
    (∀ stop, range.stop.result = .ok stop →
      Text.intervals range.text.toList = [(range.location.toNat, stop.toNat)]) ∧
    ((∀ stop, range.stop.result ≠ .ok stop) →
      Text.intervals range.text.toList = [(range.location.toNat, addressMax.toNat)]) ∧
    (range.text = other.text ↔
      range.location = other.location ∧
        min range.exactStop (UInt64.size - 1) = min other.exactStop (UInt64.size - 1)) ∧
    (range.WellFormed → other.WellFormed → range.text = other.text → range = other) ∧
    ∀ call otherCall : Call, call.perform.result = .error (.plain .notFound) →
      (∀ operand ∈ call.ranges, operand.WellFormed) ∧
        (call.perform.records = otherCall.perform.records → call.ranges = otherCall.ranges) := by
  refine ⟨validate_result_eq_ok_iff.trans exists_stop_iff.symm, text_eq_intervalText range,
    ?_, ?_, text_eq_iff_shownBounds_eq.trans shownBounds_eq_iff, ?_, ?_⟩
  · intro stop stopped
    have formed := exists_stop_iff.mp ⟨stop, stopped⟩
    rw [intervals_text, shownBounds_of_wellFormed formed, stop_result_eq_ok_iff.mp stopped]
  · intro endless
    have malformed : ¬range.WellFormed := by
      intro formed
      obtain ⟨stop, stopped⟩ := exists_stop_iff.mpr formed
      exact endless stop stopped
    rw [intervals_text, shownBounds_of_not_wellFormed malformed]
  · intro formed otherFormed sameText
    exact eq_of_shownBounds_eq formed otherFormed (text_eq_iff_shownBounds_eq.mp sameText)
  · intro call otherCall missed
    obtain ⟨_, _, _, formed⟩ := Call.perform_of_notFound missed
    exact ⟨formed, Call.ranges_eq_of_records_eq missed⟩

/-- The highest address and what lies behind it. -/
def fromTop (length : UInt64) : AddressRange := ⟨addressMax, length⟩

/-- Ranges that go beyond the highest address are not told apart, nor from an empty range there, but
ranges that end there are, and so are the ranges of two questions about one address. -/
theorem text_faithful_fromTop :
    (fromTop 1).text = (fromTop 2).text ∧
      Text.intervals (fromTop 1).text.toList = [(addressMax.toNat, addressMax.toNat)] ∧
      Text.intervals (fromTop 0).text.toList = [(addressMax.toNat, addressMax.toNat)] ∧
      (fromTop 0).text ≠ (⟨0, addressMax⟩ : AddressRange).text ∧
      (Call.containsAddress ⟨100, 50⟩ 0 150).perform.records ≠
        (Call.containsAddress ⟨100, 49⟩ 0 150).perform.records := by
  obtain ⟨_, _, _, malformed, sameText, _, _⟩ := text_faithful (fromTop 1) (fromTop 2)
  obtain ⟨_, _, shown, _, _, told, records⟩ := text_faithful (fromTop 0) ⟨0, addressMax⟩
  obtain ⟨_, distinct⟩ := records (.containsAddress ⟨100, 50⟩ 0 150)
    (.containsAddress ⟨100, 49⟩ 0 150) rfl
  refine ⟨sameText.mpr (by decide), malformed ?_, shown addressMax rfl, ?_, ?_⟩
  · intro stop stopped
    cases stopped
  · intro same
    exact absurd (told (by decide) (by decide) same) (by decide)
  · intro same
    exact absurd (distinct same) (by decide)

end AddressRange

end BinaryImage
