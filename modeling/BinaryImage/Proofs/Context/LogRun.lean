import BinaryImage.Entity.Dispatch
import BinaryImage.Hierarchy.Map
import BinaryImage.Specimen.Behaviour
import Mathlib.Data.List.Flatten
import Mathlib.Data.List.Forall2

/-!
# Runs of log calls

Messages are logged on contexts, or on entities, which stand for the contexts that dispatch finds
for them. Main statement: the log of a run matches, one by one, the calls that their contexts let
through; where the contexts let more through, nothing is lost from the log and nothing changes
places; and where they let nothing through, it is empty.
-/

namespace BinaryImage

/-! ## Other limits -/

/-- Nothing is more verbose than a trace. -/
theorem LevelFilter.verbosity_le_trace (filter : LevelFilter) :
    filter.verbosity ≤ Level.trace.verbosity := by
  cases filter with
  | off => decide
  | upTo level => cases level <;> decide

namespace SharedContext

/-- The same context with another most verbose level. -/
def limited (limit : SharedContext → LevelFilter) (shared : SharedContext) : SharedContext :=
  { shared with
    context := { shared.context with
      config := { shared.context.config with maxLevel := limit shared } } }

variable {limit : SharedContext → LevelFilter} {shared : SharedContext}

/-- A message that passes still passes a limit that is no less verbose, with the same record. -/
theorem log_sublist_log_limited
    (wider : shared.context.config.maxLevel.verbosity ≤ (limit shared).verbosity)
    (level : Level) (message : String) :
    (shared.context.log level message).Sublist
      ((shared.limited limit).context.log level message) := by
  cases passing : shared.context.passes level with
  | false =>
      rw [Context.log_of_not_passes passing]
      exact List.nil_sublist _
  | true =>
      have stillPassing : (shared.limited limit).context.passes level = true :=
        LevelFilter.admits_of_le wider passing
      rw [Context.log_of_passes passing, Context.log_of_passes stillPassing]
      exact List.Sublist.refl _

theorem log_limited_off (off : limit shared = .off) (level : Level) (message : String) :
    (shared.limited limit).context.log level message = [] := by
  apply Context.log_of_not_passes
  rw [Context.passes, limited, off]
  exact LevelFilter.off_admits level

end SharedContext

namespace EntityHierarchy

variable {ε : Type} [TypedEntity ε]

/-- The hierarchy whose entities have the same contexts with other limits. -/
def limited (limit : SharedContext → LevelFilter) (hierarchy : EntityHierarchy ε) :
    EntityHierarchy ε :=
  hierarchy.map (fun slot entity => (slot entity).map (SharedContext.limited limit)) id id

theorem contextOf_limited
    (limit : SharedContext → LevelFilter) (hierarchy : EntityHierarchy ε) (entity : ε) :
    (hierarchy.limited limit).contextOf entity =
      (hierarchy.contextOf entity).map (SharedContext.limited limit) := by
  have resolved := Hierarchy.map_resolveContext
    (fun (slot : ContextSlot ε) entity => (slot entity).map (SharedContext.limited limit))
    id id hierarchy (TypedEntity.type entity)
  rw [contextOf, limited, resolved, contextOf]
  cases hierarchy.resolveContext (TypedEntity.type entity) <;> rfl

end EntityHierarchy

/-! ## Calls -/

/-- A message that is logged on a context, or on the context that an entity has, if any. -/
inductive LogCall (ε : Type) where
  | direct (shared : SharedContext) (level : Level) (message : String)
  | through (entity : ε) (level : Level) (message : String)

namespace LogCall

variable {ε : Type} [TypedEntity ε]

def level : LogCall ε → Level
  | direct _ level _ | through _ level _ => level

def message : LogCall ε → String
  | direct _ _ message | through _ _ message => message

/-- The context that a message is logged on. -/
def context? (hierarchy : EntityHierarchy ε) : LogCall ε → Option SharedContext
  | direct shared _ _ => some shared
  | through entity _ _ => hierarchy.contextOf entity

/-- The records that a call leaves. -/
def records (hierarchy : EntityHierarchy ε) : LogCall ε → List Record
  | direct shared level message => shared.context.log level message
  | through entity level message => hierarchy.log entity level message

/-- The same call where contexts have other limits. -/
def limited (limit : SharedContext → LevelFilter) : LogCall ε → LogCall ε
  | direct shared level message => direct (shared.limited limit) level message
  | through entity level message => through entity level message

/-- The call has a context of which the most verbose level is at least as verbose as the message. -/
def Passes (hierarchy : EntityHierarchy ε) (call : LogCall ε) : Prop :=
  ∃ shared ∈ call.context? hierarchy,
    call.level.verbosity ≤ shared.context.config.maxLevel.verbosity

instance (hierarchy : EntityHierarchy ε) : DecidablePred (Passes hierarchy) := fun call =>
  inferInstanceAs (Decidable (∃ shared ∈ call.context? hierarchy, _))

/-- The record is at the level of the call, for the target of its context, and the name of the
context stands before the message. -/
def Leaves (hierarchy : EntityHierarchy ε) (call : LogCall ε) (record : Record) : Prop :=
  ∃ shared ∈ call.context? hierarchy,
    record = ⟨call.level, shared.context.config.target,
      "[" ++ shared.context.name ++ "] " ++ call.message⟩

variable {hierarchy : EntityHierarchy ε} {call : LogCall ε} {limit : SharedContext → LevelFilter}

/-- A call leaves what its context does with the message, and nothing where there is none. -/
theorem records_eq (hierarchy : EntityHierarchy ε) (call : LogCall ε) :
    call.records hierarchy =
      (call.context? hierarchy).elim [] fun shared =>
        shared.context.log call.level call.message := by
  cases call with
  | direct shared level message => rfl
  | through entity level message =>
      rw [records, context?, EntityHierarchy.log]
      cases hierarchy.contextOf entity <;> rfl

theorem context?_limited
    (limit : SharedContext → LevelFilter) (hierarchy : EntityHierarchy ε) (call : LogCall ε) :
    (call.limited limit).context? (hierarchy.limited limit) =
      (call.context? hierarchy).map (SharedContext.limited limit) := by
  cases call with
  | direct shared level message => rfl
  | through entity level message => exact hierarchy.contextOf_limited limit entity

theorem records_limited
    (limit : SharedContext → LevelFilter) (hierarchy : EntityHierarchy ε) (call : LogCall ε) :
    (call.limited limit).records (hierarchy.limited limit) =
      (call.context? hierarchy).elim [] fun shared =>
        (shared.limited limit).context.log call.level call.message := by
  have sameLevel : (call.limited limit).level = call.level := by cases call <;> rfl
  have sameMessage : (call.limited limit).message = call.message := by cases call <;> rfl
  rw [records_eq, context?_limited, sameLevel, sameMessage]
  cases call.context? hierarchy <;> rfl

theorem records_of_passes (passes : call.Passes hierarchy) :
    ∃ record, call.records hierarchy = [record] ∧ call.Leaves hierarchy record := by
  obtain ⟨shared, found, admitted⟩ := passes
  have passing : shared.context.passes call.level = true := decide_eq_true admitted
  rw [records_eq, Option.mem_def.mp found, Option.elim_some, Context.log_of_passes passing]
  exact ⟨_, rfl, shared, found, rfl⟩

theorem records_of_not_passes (filtered : ¬call.Passes hierarchy) :
    call.records hierarchy = [] := by
  rw [records_eq]
  cases found : call.context? hierarchy with
  | none => rfl
  | some shared =>
      apply Context.log_of_not_passes
      exact decide_eq_false fun admitted => filtered ⟨shared, found, admitted⟩

theorem records_sublist_records_limited
    (wider : ∀ shared : SharedContext,
      shared.context.config.maxLevel.verbosity ≤ (limit shared).verbosity)
    (hierarchy : EntityHierarchy ε) (call : LogCall ε) :
    (call.records hierarchy).Sublist
      ((call.limited limit).records (hierarchy.limited limit)) := by
  rw [records_eq, records_limited]
  cases call.context? hierarchy with
  | none => exact List.Sublist.refl []
  | some shared =>
      exact SharedContext.log_sublist_log_limited (wider shared) call.level call.message

theorem records_limited_off
    (off : ∀ shared, limit shared = .off) (hierarchy : EntityHierarchy ε) (call : LogCall ε) :
    (call.limited limit).records (hierarchy.limited limit) = [] := by
  rw [records_limited]
  cases call.context? hierarchy with
  | none => rfl
  | some shared => exact SharedContext.log_limited_off (off shared) call.level call.message

/-! ## Runs -/

/-- The log behind calls that are made one after the other. -/
def logAfter (hierarchy : EntityHierarchy ε) (log : List Record) (calls : List (LogCall ε)) :
    List Record :=
  calls.foldl (fun earlier call => earlier ++ call.records hierarchy) log

/-- A run leaves the earlier log as it is, and adds to it call by call. -/
theorem logAfter_eq (hierarchy : EntityHierarchy ε) (log : List Record)
    (calls : List (LogCall ε)) :
    logAfter hierarchy log calls = log ++ calls.flatMap (records hierarchy) := by
  induction calls generalizing log with
  | nil => exact (List.append_nil log).symm
  | cons call rest inductionHypothesis =>
      have step : logAfter hierarchy log (call :: rest) =
          logAfter hierarchy (log ++ call.records hierarchy) rest :=
        rfl
      rw [step, inductionHypothesis, List.flatMap_cons, List.append_assoc]

theorem forall₂_leaves (hierarchy : EntityHierarchy ε) (calls : List (LogCall ε)) :
    List.Forall₂ (Leaves hierarchy) (calls.filter fun call => call.Passes hierarchy)
      (calls.flatMap (records hierarchy)) := by
  induction calls with
  | nil => exact .nil
  | cons call rest inductionHypothesis =>
      rw [List.flatMap_cons]
      by_cases passes : call.Passes hierarchy
      · obtain ⟨record, recorded, leaves⟩ := records_of_passes passes
        rw [List.filter_cons_of_pos (by simpa using passes), recorded]
        exact .cons leaves inductionHypothesis
      · rw [List.filter_cons_of_neg (by simpa using passes), records_of_not_passes passes,
          List.nil_append]
        exact inductionHypothesis

/-- The log of a run has one record for each call whose context lets the level through, in the order
of the calls, with the level, the target and the name that go with it, and no other records. Where
contexts get other limits, entities have the same contexts but for those limits. If no limit is less
verbose than before, the log goes on containing the earlier one in its order, and if nothing is let
through any more, the log is empty. -/
theorem logAfter_filtered (hierarchy : EntityHierarchy ε) (calls : List (LogCall ε)) :
    List.Forall₂ (Leaves hierarchy) (calls.filter fun call => call.Passes hierarchy)
      (logAfter hierarchy [] calls) ∧
    (∀ (limit : SharedContext → LevelFilter) (entity : ε),
      (hierarchy.limited limit).contextOf entity =
        (hierarchy.contextOf entity).map (SharedContext.limited limit)) ∧
    (∀ limit : SharedContext → LevelFilter,
      (∀ shared, shared.context.config.maxLevel.verbosity ≤ (limit shared).verbosity) →
        (logAfter hierarchy [] calls).Sublist
          (logAfter (hierarchy.limited limit) [] (calls.map (limited limit)))) ∧
    logAfter (hierarchy.limited fun _ => .off) [] (calls.map (limited fun _ => .off)) = [] := by
  simp only [logAfter_eq, List.nil_append, List.flatMap_map]
  refine ⟨forall₂_leaves hierarchy calls, fun limit => hierarchy.contextOf_limited limit, ?_, ?_⟩
  · intro limit wider
    exact List.Sublist.flatMap_right calls fun call _ =>
      records_sublist_records_limited wider hierarchy call
  · rw [List.flatMap_eq_nil_iff]
    exact fun call _ => records_limited_off (fun _ => rfl) hierarchy call

/-- Images with contexts of their own, and debris without any. -/
def imageHierarchy : EntityHierarchy Specimen :=
  RuleHierarchy.toEntities <|
    Hierarchy.empty.declare (.build .base [.named "image", .withContext .own]) (by decide)

def verboseImage : Specimen :=
  .node 0 (.declared 0)
    ⟨[], "image", ⟨0, 0⟩, some ⟨"b.out", ContextConfig.verbose.withTarget "machkit::image"⟩⟩

/-- Messages that pass, that are too verbose, and that have no context to go to. -/
def imageCalls : List (LogCall Specimen) :=
  [.direct ⟨1, ⟨"a.out", .standard⟩⟩ .warn "cut short",
    .direct ⟨1, ⟨"a.out", .standard⟩⟩ .debug "no symbols",
    .through (.node 2 .base ⟨[], "debris", ⟨0, 0⟩, some ⟨"c.out", .verbose⟩⟩) .error "lost",
    .through verboseImage .trace "two segments"]

def traced : SharedContext → LevelFilter := fun _ => .upTo .trace

theorem logAfter_filtered_imageCalls :
    logAfter imageHierarchy [] imageCalls =
        [⟨.warn, "machkit", "[a.out] cut short"⟩,
          ⟨.trace, "machkit::image", "[b.out] two segments"⟩] ∧
      (logAfter imageHierarchy [] imageCalls).Sublist
        (logAfter (imageHierarchy.limited traced) [] (imageCalls.map (limited traced))) ∧
      logAfter (imageHierarchy.limited traced) [] (imageCalls.map (limited traced)) =
        [⟨.warn, "machkit", "[a.out] cut short"⟩, ⟨.debug, "machkit", "[a.out] no symbols"⟩,
          ⟨.trace, "machkit::image", "[b.out] two segments"⟩] := by
  obtain ⟨_, _, kept, _⟩ := logAfter_filtered imageHierarchy imageCalls
  exact ⟨by decide +kernel, kept traced fun _ => LevelFilter.verbosity_le_trace _, by decide +kernel⟩

end LogCall

end BinaryImage
