import BinaryImage.AddressRange.Containment
import BinaryImage.ByteOrder.Reading
import BinaryImage.Proofs.Address.ExactResults
import Mathlib.Data.List.Forall2

/-!
# Logs of calls

The checked operations chain checks of which each records its own rejection. Main statement: a
sequence of calls leaves one trace record for each call that fails, in the order of the calls, and
none for the others; and the target of a record tells what kind of failure it stands for.
-/

namespace BinaryImage

namespace Checked

variable {α β : Type} {computation other : Checked α}

/-! ## Stopping at the first rejection -/

/-- The computation yields a value and records nothing, or stops at the first rejection. -/
def StopsAtRejection (computation : Checked α) : Prop :=
  (∃ value, computation = pure value) ∨ ∃ rejection, computation = reject rejection

namespace StopsAtRejection

theorem pure (value : α) : StopsAtRejection (pure value) :=
  .inl ⟨value, rfl⟩

theorem reject (rejection : Rejection) : StopsAtRejection (reject rejection : Checked α) :=
  .inr ⟨rejection, rfl⟩

theorem ite {condition : Prop} [Decidable condition]
    (first : StopsAtRejection computation) (second : StopsAtRejection other) :
    StopsAtRejection (if condition then computation else other) := by
  by_cases holds : condition
  · rwa [if_pos holds]
  · rwa [if_neg holds]

theorem map (view : α → β) (stops : StopsAtRejection computation) :
    StopsAtRejection (view <$> computation) := by
  rcases stops with ⟨value, rfl⟩ | ⟨rejection, rfl⟩
  · exact .inl ⟨view value, map_pure view value⟩
  · exact .inr ⟨rejection, rfl⟩

/-- No rejection is a fault, so an attempt loses the failure and nothing else. -/
theorem attempt_eq (stops : StopsAtRejection computation) :
    attempt computation = ⟨.ok computation.result.toOption, computation.trace⟩ := by
  rcases stops with ⟨value, rfl⟩ | ⟨rejection, rfl⟩
  · rfl
  · rw [attempt_reject]
    rfl

end StopsAtRejection

end Checked

open Checked

theorem Address.Operation.run_stops (operation : Address.Operation) (left right : UInt64) :
    StopsAtRejection (operation.run left right) := by
  rw [operation.run_eq]
  exact .ite (.reject _) (.pure _)

theorem AddressRange.validate_stops (range : AddressRange) : StopsAtRejection range.validate := by
  rw [validate_eq]
  exact .ite (.pure _) (.reject _)

theorem AddressRange.stop_stops (range : AddressRange) : StopsAtRejection range.stop :=
  .ite (.pure _) (.reject _)

theorem AddressRange.containsAddress_stops (range : AddressRange) (offset address : UInt64) :
    StopsAtRejection (range.containsAddress offset address) := by
  rw [containsAddress_eq]
  exact .ite (.reject _) (.ite (.reject _) (.ite (.pure _) (.reject _)))

theorem AddressRange.containsRange_stops (outer inner : AddressRange) (partially : Bool) :
    StopsAtRejection (outer.containsRange inner partially) := by
  rw [containsRange_eq]
  exact .ite (.reject _) (.ite (.reject _) (.ite (.pure _) (.reject _)))

theorem ByteOrder.readField_stops
    (order : ByteOrder) (data : List UInt8) (cursor : UInt64) (width : Width) :
    StopsAtRejection (order.readField data cursor width) := by
  rw [readField_eq, readBytes_eq data cursor width.byteCount_lt_size]
  exact .map _ (.ite (.reject _) (.ite (.reject _) (.pure _)))

/-! ## Calls -/

/-- A call of a checked operation, with its operands. -/
inductive Call where
  | arithmetic (operation : Address.Operation) (left right : UInt64)
  | validate (range : AddressRange)
  | stop (range : AddressRange)
  | containsAddress (range : AddressRange) (offset address : UInt64)
  | containsRange (outer inner : AddressRange) (partially : Bool)
  | read (order : ByteOrder) (data : List UInt8) (cursor : UInt64) (width : Width)
  deriving DecidableEq, Repr

namespace Call

/-- What a call comes to, but for the value that it yields. -/
def perform : Call → Checked Unit
  | arithmetic operation left right => (fun _ => ()) <$> operation.run left right
  | validate range => range.validate
  | stop range => (fun _ => ()) <$> range.stop
  | containsAddress range offset address => range.containsAddress offset address
  | containsRange outer inner partially => outer.containsRange inner partially
  | read order data cursor width => (fun _ => ()) <$> order.readField data cursor width

/-- Makes calls one after the other, whether they fail or not. -/
def performAll : List Call → Checked (List (Option Unit))
  | [] => pure []
  | call :: rest => do
    let answer ← attempt call.perform
    let others ← performAll rest
    return answer :: others

def fails (call : Call) : Bool := call.perform.failure?.isSome

theorem perform_stops (call : Call) : StopsAtRejection call.perform := by
  cases call with
  | arithmetic operation left right => exact .map _ (operation.run_stops left right)
  | validate range => exact range.validate_stops
  | stop range => exact .map _ range.stop_stops
  | containsAddress range offset address => exact range.containsAddress_stops offset address
  | containsRange outer inner partially => exact outer.containsRange_stops inner partially
  | read order data cursor width => exact .map _ (order.readField_stops data cursor width)

theorem performAll_eq (calls : List Call) :
    performAll calls =
      ⟨.ok (calls.map fun call => call.perform.result.toOption),
        calls.flatMap fun call => call.perform.trace⟩ := by
  induction calls with
  | nil => rfl
  | cons call rest inductionHypothesis =>
      rw [performAll, call.perform_stops.attempt_eq, inductionHypothesis]
      simp [bind]

/-! ## What records tell -/

/-- A record of a call that failed: a trace, of which the target tells the code of the failure. -/
def Reports (call : Call) (record : Record) : Prop :=
  ∃ failure, call.perform.result = .error failure ∧ record.level = .trace ∧
    (record.target = "machkit::vm" ↔ failure.code = .overflow ∨ failure.code = .underflow) ∧
    (record.target = "machkit::vm::range" ↔ failure.code = .notFound) ∧
    (record.target = "machkit::byteorder" ↔ failure.code = .outOfRange)

theorem Reports.fails {call : Call} {record : Record} (reports : call.Reports record) :
    call.fails = true := by
  rcases reports with ⟨failure, failed, _⟩
  simp [Call.fails, failure?, failed]

theorem target_iff_code (rejection : Rejection) :
    (rejection.target = "machkit::vm" ↔
        rejection.failure.code = .overflow ∨ rejection.failure.code = .underflow) ∧
      (rejection.target = "machkit::vm::range" ↔ rejection.failure.code = .notFound) ∧
      (rejection.target = "machkit::byteorder" ↔ rejection.failure.code = .outOfRange) := by
  cases rejection <;> simp [Rejection.target, Rejection.failure, Failure.plain, Failure.memory]

/-- A call that succeeds leaves no record, and one that fails leaves the one that reports it. -/
theorem records_perform (call : Call) :
    (∃ answer, call.perform.result = .ok answer ∧ call.perform.records = []) ∨
      ∃ record, call.perform.records = [record] ∧ call.Reports record := by
  rcases call.perform_stops with ⟨value, succeeded⟩ | ⟨rejection, rejected⟩
  · left
    rw [succeeded]
    exact ⟨value, rfl, rfl⟩
  · right
    have failed : call.perform.result = .error rejection.failure := by rw [rejected]; rfl
    rw [rejected]
    exact ⟨rejection.record, rfl, rejection.failure, failed, rfl, target_iff_code rejection⟩

theorem records_of_ok
    {call : Call} {answer : Unit} (succeeded : call.perform.result = .ok answer) :
    call.perform.records = [] := by
  rcases call.records_perform with ⟨_, _, silent⟩ | ⟨record, _, failure, failed, _⟩
  · exact silent
  · rw [succeeded] at failed
    cases failed

theorem records_of_error
    {call : Call} {failure : Failure} (failed : call.perform.result = .error failure) :
    ∃ record, call.perform.records = [record] ∧ call.Reports record := by
  rcases call.records_perform with ⟨answer, succeeded, _⟩ | recorded
  · rw [failed] at succeeded
    cases succeeded
  · exact recorded

theorem forall₂_reports (calls : List Call) :
    List.Forall₂ Reports (calls.filter fails) (calls.flatMap fun call => call.perform.records) := by
  induction calls with
  | nil => exact .nil
  | cons call rest inductionHypothesis =>
      rw [List.flatMap_cons]
      rcases call.records_perform with ⟨answer, succeeded, silent⟩ | ⟨record, recorded, reports⟩
      · have succeeds : call.fails = false := by simp [fails, failure?, succeeded]
        rw [List.filter_cons_of_neg (by simp [succeeds]), silent, List.nil_append]
        exact inductionHypothesis
      · rw [List.filter_cons_of_pos reports.fails, recorded]
        exact .cons reports inductionHypothesis

/-- Calls made one after the other go through whatever fails among them, and leave one trace record
for each that fails, in their order, with the target that goes with its code. Each record was left
by the call that it reports, and a call that succeeds leaves none. -/
theorem records_performAll (calls : List Call) :
    (performAll calls).result = .ok (calls.map fun call => call.perform.result.toOption) ∧
      (performAll calls).records = calls.flatMap (fun call => call.perform.records) ∧
      List.Forall₂ Reports (calls.filter fails) (performAll calls).records ∧
      ∀ call ∈ calls,
        (∀ answer, call.perform.result = .ok answer → call.perform.records = []) ∧
        ∀ failure, call.perform.result = .error failure →
          ∃ record, call.perform.records = [record] ∧ call.Reports record := by
  have recorded : (performAll calls).records =
      calls.flatMap fun call => call.perform.records := by
    rw [records, performAll_eq, List.map_flatMap]
    rfl
  refine ⟨by rw [performAll_eq], recorded, ?_, ?_⟩
  · rw [recorded]
    exact forall₂_reports calls
  · intro call _
    exact ⟨fun _ => records_of_ok, fun _ => records_of_error⟩

/-- Of a question that fails twice over only the first failure is recorded. -/
example :
    (performAll [.containsAddress ⟨addressMax, 2⟩ 2 addressMax, .arithmetic .add 3 10,
      .arithmetic .subtract 3 10]).records.map Record.message =
        ["offset 0x2 overflows address 0xffffffffffffffff", "0x3 - 0xa underflows"] := by
  decide +kernel

end Call

end BinaryImage
