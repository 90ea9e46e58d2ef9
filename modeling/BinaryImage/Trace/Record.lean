/-!
# Diagnostic records

A record is a message with a level and a target. Levels run from errors to traces; a filter
lets through the levels up to a limit, or none at all.
-/

namespace BinaryImage

/-- How verbose a record is. -/
inductive Level where
  | error
  | warn
  | info
  | debug
  | trace
  deriving DecidableEq, Repr

/-- The most verbose level that passes; `off` lets nothing pass. -/
inductive LevelFilter where
  | off
  | upTo (level : Level)
  deriving DecidableEq, Repr

namespace Level

/-- The position of a level, counted from one for the least verbose. -/
def verbosity : Level → Nat
  | error => 1
  | warn => 2
  | info => 3
  | debug => 4
  | trace => 5

def name : Level → String
  | error => "Error"
  | warn => "Warn"
  | info => "Info"
  | debug => "Debug"
  | trace => "Trace"

def label : Level → String
  | error => "ERROR"
  | warn => "WARN"
  | info => "INFO"
  | debug => "DEBUG"
  | trace => "TRACE"

/-- Every level, from the least verbose. -/
def all : List Level := [error, warn, info, debug, trace]

def ofLabel? (label : String) : Option Level :=
  all.find? fun level => level.label == label

end Level

namespace LevelFilter

/-- The verbosity of the most verbose level that passes, and zero where none does. -/
def verbosity : LevelFilter → Nat
  | off => 0
  | upTo level => level.verbosity

def admits (filter : LevelFilter) (level : Level) : Bool := level.verbosity ≤ filter.verbosity

def name : LevelFilter → String
  | off => "Off"
  | upTo level => level.name

def label : LevelFilter → String
  | off => "OFF"
  | upTo level => level.label

def ofLabel? (label : String) : Option LevelFilter :=
  if label = off.label then some off else (Level.ofLabel? label).map upTo

theorem off_admits (level : Level) : off.admits level = false := by
  cases level <;> rfl

theorem admits_of_le {filter wider : LevelFilter} {level : Level}
    (order : filter.verbosity ≤ wider.verbosity) (admitted : filter.admits level = true) :
    wider.admits level = true := by
  simp only [admits, decide_eq_true_eq] at admitted ⊢
  exact Nat.le_trans admitted order

end LevelFilter

/-- A diagnostic message, with its level and its target. -/
structure Record where
  level : Level
  target : String
  message : String
  deriving DecidableEq, Repr

end BinaryImage
