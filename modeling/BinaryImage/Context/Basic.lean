import BinaryImage.Text.Layout
import BinaryImage.Text.Quoted
import BinaryImage.Trace.Record

/-!
# Diagnostic contexts

A context names the input that diagnostics are about, and says where they go: records carry its
target, and those above its most verbose level are dropped.
-/

namespace BinaryImage

/-- Where the records of a context go, and which of them pass. -/
structure ContextConfig where
  target : String
  maxLevel : LevelFilter
  deriving DecidableEq, Repr

namespace ContextConfig

def standard : ContextConfig := ⟨"machkit", .upTo .info⟩

def quiet : ContextConfig := { standard with maxLevel := .off }

def verbose : ContextConfig := { standard with maxLevel := .upTo .trace }

/-- The same records, sent to another target. -/
def withTarget (config : ContextConfig) (target : String) : ContextConfig :=
  { config with target := target }

def layout (config : ContextConfig) : Text.Layout :=
  .record "ContextConfig"
    [("log_target", .atom (Text.quoted config.target)),
      ("max_level", .atom config.maxLevel.name)]

end ContextConfig

/-- The name of an input, and the configuration of its diagnostics. -/
structure Context where
  name : String
  config : ContextConfig
  deriving DecidableEq, Repr

namespace Context

def passes (context : Context) (level : Level) : Bool := context.config.maxLevel.admits level

/-- The record of a message, which names the input first. -/
def record (context : Context) (level : Level) (message : String) : Record :=
  ⟨level, context.config.target, "[" ++ context.name ++ "] " ++ message⟩

/-- The records that a message leaves: one if its level passes, and none otherwise. -/
def log (context : Context) (level : Level) (message : String) : List Record :=
  if context.passes level then [context.record level message] else []

def layout (context : Context) : Text.Layout :=
  .record "Context" [("name", .atom (Text.quoted context.name)), ("config", context.config.layout)]

theorem log_of_passes {context : Context} {level : Level} (passing : context.passes level = true)
    (message : String) : context.log level message = [context.record level message] :=
  if_pos passing

theorem log_of_not_passes {context : Context} {level : Level}
    (filtered : context.passes level = false) (message : String) :
    context.log level message = [] := by
  simp [log, filtered]

end Context

end BinaryImage
