import BinaryImage.Proofs.ByteOrder.FieldRow
import BinaryImage.Proofs.Checked.Failures
import Mathlib.Data.List.Forall2

/-!
# Runs of a decoder

Where a decoder stands after a step, and how the step fails, depends on its cursor and on the size
of its buffer, but neither on the bytes nor on the byte order. Main statement: a read succeeds
exactly if all of its bytes are there, and moves the cursor behind them; one that fails leaves the
decoder as it was; and runs over buffers of one size that differ in bytes and byte orders only are
controlled alike.
-/

namespace BinaryImage

open Checked

namespace Decoder

variable {decoder left right : Decoder} {step other : Step} {width : Width}

/-! ## Reads -/

/-- The position behind a field of a given width at the cursor. -/
def stopOf (decoder : Decoder) (width : Width) : Nat :=
  decoder.cursor.toNat + width.byteCount

/-- The field that the bytes at the cursor stand for. -/
def fieldAt (decoder : Decoder) (width : Width) : Field :=
  (Field.ofNat
    (LittleEndian.decode ((decoder.data.drop decoder.cursor.toNat).take width.byteCount))
    width).swap decoder.order

theorem read_eq_demand (decoder : Decoder) (width : Width) :
    decoder.read width =
      (fun _ => ⟨decoder.fieldAt width, UInt64.ofNat (decoder.stopOf width)⟩) <$>
        demand width.byteCount decoder.cursor.toNat decoder.data.length := by
  have bytes := readBytes_ofNat width.byteCount_le decoder.cursor.toNat_lt decoder.data
  rw [UInt64.ofNat_toNat, bind_pure_comp] at bytes
  rw [read, readField_eq, bytes, ← comp_map]
  rfl

theorem outcome_read_eq_demand (decoder : Decoder) (width : Width) :
    decoder.outcome (.read width) =
      (fun _ => .field (decoder.fieldAt width)) <$>
        demand width.byteCount decoder.cursor.toNat decoder.data.length := by
  rw [outcome, read_eq_demand, ← comp_map]
  rfl

theorem next_read_of_inside (there : Inside decoder.data.length (decoder.stopOf width)) :
    decoder.next (.read width) =
      { decoder with cursor := UInt64.ofNat (decoder.stopOf width) } := by
  rw [next, read_eq_demand, demand_eq_pure there]
  rfl

theorem next_read_of_not_inside (missing : ¬Inside decoder.data.length (decoder.stopOf width)) :
    decoder.next (.read width) = decoder := by
  rw [next, read_eq_demand, map_result, demand_result_of_not_inside missing]
  rfl

/-! ## Single steps -/

theorem data_next_of_ne_swapWithin
    (other : ∀ start stop, step ≠ .swapWithin start stop) :
    (decoder.next step).data = decoder.data := by
  cases step with
  | read width =>
      by_cases there : Inside decoder.data.length (decoder.stopOf width)
      · rw [next_read_of_inside there]
      · rw [next_read_of_not_inside there]
  | swap field => rfl
  | seek cursor => rfl
  | select order => rfl
  | swapWithin start stop => exact absurd rfl (other start stop)

theorem next_swapWithin_of_inside
    {start stop : Nat} (inside : start ≤ stop ∧ stop ≤ decoder.data.length) :
    decoder.next (.swapWithin start stop) =
      { decoder with data := decoder.order.swapWithin decoder.data start stop } := by
  rw [next, slice_eq_pure inside.1 inside.2]
  rfl

theorem next_swapWithin_of_not_inside
    {start stop : Nat} (outside : ¬(start ≤ stop ∧ stop ≤ decoder.data.length)) :
    decoder.next (.swapWithin start stop) = decoder := by
  rw [next, slice, if_neg outside]
  rfl

theorem cursor_next_swapWithin (decoder : Decoder) (start stop : Nat) :
    (decoder.next (.swapWithin start stop)).cursor = decoder.cursor := by
  by_cases inside : start ≤ stop ∧ stop ≤ decoder.data.length
  · rw [next_swapWithin_of_inside inside]
  · rw [next_swapWithin_of_not_inside inside]

theorem length_data_next (decoder : Decoder) (step : Step) :
    (decoder.next step).data.length = decoder.data.length := by
  cases step with
  | read width => rw [data_next_of_ne_swapWithin (by simp)]
  | swap field => rfl
  | seek cursor => rfl
  | select order => rfl
  | swapWithin start stop =>
      by_cases inside : start ≤ stop ∧ stop ≤ decoder.data.length
      · rw [next_swapWithin_of_inside inside]
        exact decoder.order.swapWithin_length inside.1 inside.2
      · rw [next_swapWithin_of_not_inside inside]

/-- Nothing but a read fails, as long as slices are taken from inside the buffer. -/
theorem read_or_outside_of_failure
    {failure : Failure} (failed : (decoder.outcome step).result = .error failure) :
    (∃ width, step = .read width) ∨
      ∃ start stop, step = .swapWithin start stop ∧
        ¬(start ≤ stop ∧ stop ≤ decoder.data.length) := by
  cases step with
  | read width => exact .inl ⟨width, rfl⟩
  | swap field => cases failed
  | seek cursor => cases failed
  | select order => cases failed
  | swapWithin start stop =>
      refine .inr ⟨start, stop, rfl, ?_⟩
      intro inside
      rw [outcome, slice_eq_pure inside.1 inside.2] at failed
      cases failed

/-! ## Steps that are controlled alike -/

/-- Decoders that may differ in the bytes of their buffers and in their byte orders. -/
structure Alike (left right : Decoder) : Prop where
  length : left.data.length = right.data.length
  cursor : left.cursor = right.cursor

/-- Steps that may differ in the byte order that they select. -/
inductive Step.Alike : Step → Step → Prop
  | same (step : Step) : Alike step step
  | select (order other : ByteOrder) : Alike (.select order) (.select other)

theorem Alike.stopOf_eq (alike : Alike left right) (width : Width) :
    left.stopOf width = right.stopOf width := by
  rw [stopOf, stopOf, alike.cursor]

theorem Alike.outcome
    (alike : Alike left right) (steps : Step.Alike step other) :
    (left.outcome step).failure? = (right.outcome other).failure? ∧
      (left.outcome step).trace = (right.outcome other).trace := by
  cases steps with
  | select order other => exact ⟨rfl, rfl⟩
  | same =>
      cases step with
      | read width =>
          simp only [outcome_read_eq_demand, failure?_map, map_trace, alike.length, alike.cursor,
            and_self]
      | swap field => exact ⟨rfl, rfl⟩
      | seek cursor => exact ⟨rfl, rfl⟩
      | select order => exact ⟨rfl, rfl⟩
      | swapWithin start stop =>
          simp only [Decoder.outcome, failure?_map, map_trace]
          by_cases inside : start ≤ stop ∧ stop ≤ left.data.length
          · have alsoInside := inside
            rw [alike.length] at alsoInside
            rw [slice_eq_pure inside.1 inside.2, slice_eq_pure alsoInside.1 alsoInside.2]
            exact ⟨rfl, rfl⟩
          · have alsoOutside := inside
            rw [alike.length] at alsoOutside
            rw [slice, slice, if_neg inside, if_neg alsoOutside]
            exact ⟨rfl, rfl⟩

theorem Alike.cursor_next_eq
    (alike : Alike left right) (step : Step) :
    (left.next step).cursor = (right.next step).cursor := by
  cases step with
  | read width =>
      by_cases there : Inside left.data.length (left.stopOf width)
      · have alsoThere := there
        rw [alike.length, alike.stopOf_eq] at alsoThere
        rw [next_read_of_inside there, next_read_of_inside alsoThere, alike.stopOf_eq]
      · have alsoMissing := there
        rw [alike.length, alike.stopOf_eq] at alsoMissing
        rw [next_read_of_not_inside there, next_read_of_not_inside alsoMissing, alike.cursor]
  | swap field => exact alike.cursor
  | seek cursor => rfl
  | select order => exact alike.cursor
  | swapWithin start stop => rw [cursor_next_swapWithin, cursor_next_swapWithin, alike.cursor]

theorem Alike.next
    (alike : Alike left right) (steps : Step.Alike step other) :
    Alike (left.next step) (right.next other) := by
  refine ⟨?_, ?_⟩
  · rw [length_data_next, length_data_next, alike.length]
  · cases steps with
    | same step => exact alike.cursor_next_eq step
    | select order other => exact alike.cursor

/-! ## Runs -/

theorem length_data_run (decoder : Decoder) (steps : List Step) :
    (decoder.run steps).data.length = decoder.data.length := by
  induction steps generalizing decoder with
  | nil => rfl
  | cons step rest inductionHypothesis =>
      rw [run_cons, inductionHypothesis, length_data_next]

theorem getElem?_trajectory (decoder : Decoder) (before : List Step) (step : Step)
    (after : List Step) :
    (decoder.trajectory (before ++ step :: after))[before.length]? =
      some ((decoder.run before).outcome step, (decoder.run before).next step) := by
  induction before generalizing decoder with
  | nil => rfl
  | cons first rest inductionHypothesis =>
      rw [List.cons_append, trajectory, List.length_cons, List.getElem?_cons_succ, run_cons,
        inductionHypothesis]

/-- What a round shows without the bytes: how it failed, what it recorded, and where the cursor
stands after it. -/
def control (round : Checked Answer × Decoder) : Option Failure × List Rejection × UInt64 :=
  (round.1.failure?, round.1.trace, round.2.cursor)

theorem Alike.control_trajectory
    (alike : Alike left right) {steps others : List Step}
    (alikeSteps : List.Forall₂ Step.Alike steps others) :
    (left.trajectory steps).map control = (right.trajectory others).map control := by
  induction alikeSteps generalizing left right with
  | nil => rfl
  | cons first _ inductionHypothesis =>
      obtain ⟨sameFailure, sameTrace⟩ := alike.outcome first
      have further := alike.next first
      rw [trajectory, trajectory, List.map_cons, List.map_cons, inductionHypothesis further, control,
        control, sameFailure, sameTrace, further.cursor]

/-! ## Exact reads -/

/-- A read succeeds exactly if the buffer reaches to the end of the field, and then moves the cursor
there. Otherwise it leaves the decoder as it was, and fails by what the field exceeds: the address
space, or the buffer only. -/
structure ReadsExactly (decoder : Decoder) (width : Width) : Prop where
  succeeds_iff :
    (∃ field, (decoder.outcome (.read width)).result = .ok (.field field)) ↔
      decoder.cursor.toNat + width.byteCount ≤ decoder.data.length
  moves :
    decoder.cursor.toNat + width.byteCount ≤ decoder.data.length →
      ∃ stop : UInt64, stop.toNat = decoder.cursor.toNat + width.byteCount ∧
        decoder.next (.read width) = { decoder with cursor := stop }
  stays :
    decoder.data.length < decoder.cursor.toNat + width.byteCount →
      decoder.next (.read width) = decoder
  fails :
    decoder.data.length < decoder.cursor.toNat + width.byteCount →
      (decoder.outcome (.read width)).result =
        .error (if UInt64.size ≤ decoder.cursor.toNat + width.byteCount then .plain .overflow
          else .memory .outOfRange)

theorem readsExactly (sized : decoder.data.length < UInt64.size) (width : Width) :
    decoder.ReadsExactly width := by
  have inside_of_le : decoder.stopOf width ≤ decoder.data.length →
      Inside decoder.data.length (decoder.stopOf width) := fun within =>
    ⟨within, Nat.lt_of_le_of_lt within sized⟩
  have missing_of_lt : decoder.data.length < decoder.stopOf width →
      ¬Inside decoder.data.length (decoder.stopOf width) := fun past there =>
    Nat.not_le.mpr past there.1
  refine ⟨⟨?_, ?_⟩, ?_, ?_, ?_⟩
  · rintro ⟨field, answered⟩
    rw [outcome_read_eq_demand] at answered
    rcases map_result_eq_ok_iff.mp answered with ⟨_, demanded, _⟩
    exact (demand_result_eq_ok_iff.mp demanded).1
  · intro within
    refine ⟨decoder.fieldAt width, ?_⟩
    rw [outcome_read_eq_demand]
    exact map_result_eq_ok_iff.mpr
      ⟨(), demand_result_eq_ok_iff.mpr (inside_of_le within), rfl⟩
  · intro within
    have there := inside_of_le within
    exact ⟨_, UInt64.toNat_ofNat_of_lt' there.2, next_read_of_inside there⟩
  · intro past
    exact next_read_of_not_inside (missing_of_lt past)
  · intro past
    rw [outcome_read_eq_demand, map_result, demand_result_of_not_inside (missing_of_lt past)]
    rfl

/-- In every round of a run, the buffer has kept its size, and a read is exact. Nothing else fails
where slices are taken from inside the buffer, and nothing but the conversion of a slice changes a
byte. Runs that differ in the bytes and in the byte orders only go through the same cursors, fail
in the same rounds in the same way, and leave the same records. -/
theorem trajectory_controlled
    (decoder : Decoder) (steps : List Step) (sized : decoder.data.length < UInt64.size) :
    (∀ before step after, steps = before ++ step :: after →
      (decoder.trajectory steps)[before.length]? =
          some ((decoder.run before).outcome step, (decoder.run before).next step) ∧
        (decoder.run before).data.length = decoder.data.length ∧
        (∀ width, step = .read width → (decoder.run before).ReadsExactly width) ∧
        (∀ failure, ((decoder.run before).outcome step).result = .error failure →
          (∃ width, step = .read width) ∨
            ∃ start stop, step = .swapWithin start stop ∧
              ¬(start ≤ stop ∧ stop ≤ decoder.data.length)) ∧
        ((∀ start stop, step ≠ .swapWithin start stop) →
          ((decoder.run before).next step).data = (decoder.run before).data)) ∧
      ∀ (other : Decoder) (others : List Step),
        Alike decoder other → List.Forall₂ Step.Alike steps others →
          (decoder.trajectory steps).map control = (other.trajectory others).map control := by
  constructor
  · intro before step after split
    have sameLength := length_data_run decoder before
    refine ⟨?_, sameLength, ?_, ?_, data_next_of_ne_swapWithin⟩
    · rw [split]
      exact getElem?_trajectory decoder before step after
    · intro width _
      exact readsExactly (by rwa [sameLength]) width
    · intro failure failed
      rw [← sameLength]
      exact read_or_outside_of_failure failed
  · intro other others alike alikeSteps
    exact alike.control_trajectory alikeSteps

def fiveBytes : Decoder := ⟨[1, 2, 3, 4, 5], .direct, 0⟩

/-- Reads up to the end of five bytes, behind it, and behind the last address. -/
def outermostSteps (order : ByteOrder) : List Step :=
  [.read .four, .select order, .swapWithin 1 5, .read .two, .seek 0xfffffffffffffffe, .read .two,
    .swap (.bits16 0x1234), .seek 3, .read .two]

theorem outermostSteps_alike (order other : ByteOrder) :
    List.Forall₂ Step.Alike (outermostSteps order) (outermostSteps other) :=
  .cons (.same _) <| .cons (.select order other) <|
    List.forall₂_same.mpr fun step _ => .same step

/-- The last read succeeds after two others have failed, each in its own way; over other bytes, in
the other byte order, every round goes the same way. -/
theorem trajectory_controlled_outermostSteps :
    (∃ field, ((fiveBytes.run ((outermostSteps .swapped).take 8)).outcome (.read .two)).result =
        .ok (.field field)) ∧
      ((fiveBytes.run ((outermostSteps .swapped).take 3)).outcome (.read .two)).result =
        .error (.memory .outOfRange) ∧
      ((fiveBytes.run ((outermostSteps .swapped).take 5)).outcome (.read .two)).result =
        .error (.plain .overflow) ∧
      (fiveBytes.trajectory (outermostSteps .swapped)).map control =
        ((⟨[9, 9, 9, 9, 9], .swapped, 0⟩ : Decoder).trajectory (outermostSteps .direct)).map
          control := by
  obtain ⟨rounds, controlledAlike⟩ :=
    trajectory_controlled fiveBytes (outermostSteps .swapped) (by decide)
  obtain ⟨_, _, lastExact, _⟩ := rounds ((outermostSteps .swapped).take 8) (.read .two) [] rfl
  obtain ⟨_, _, pastExact, _⟩ :=
    rounds ((outermostSteps .swapped).take 3) (.read .two) ((outermostSteps .swapped).drop 4) rfl
  obtain ⟨_, _, wrapExact, _⟩ :=
    rounds ((outermostSteps .swapped).take 5) (.read .two) ((outermostSteps .swapped).drop 6) rfl
  refine ⟨(lastExact .two rfl).succeeds_iff.mpr (by decide), ?_, ?_, ?_⟩
  · exact (pastExact .two rfl).fails (by decide)
  · exact (wrapExact .two rfl).fails (by decide)
  · exact controlledAlike _ _ ⟨rfl, rfl⟩ (outermostSteps_alike .swapped .direct)

end Decoder

end BinaryImage
