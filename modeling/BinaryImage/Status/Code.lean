/-!
# Status codes

The closed set of outcomes that an operation on a binary image can report. Each code has a
numeric value, a name and a fixed diagnostic text; zero is success.
-/

namespace BinaryImage

inductive StatusCode where
  | success
  | clientError
  | invalidClientResult
  | internalError
  | invalidArgument
  | invalidData
  | notFound
  | unavailable
  | outOfRange
  | overflow
  | underflow
  | badAccess
  deriving DecidableEq, Repr, Inhabited

namespace StatusCode

/-- Every code, in the order of the numeric values. -/
def all : List StatusCode :=
  [success, clientError, invalidClientResult, internalError, invalidArgument, invalidData,
    notFound, unavailable, outOfRange, overflow, underflow, badAccess]

/-- The numeric value of a code, which never uses the top bit. -/
def raw : StatusCode → UInt32
  | success => 0
  | clientError => 1
  | invalidClientResult => 2
  | internalError => 3
  | invalidArgument => 4
  | invalidData => 5
  | notFound => 6
  | unavailable => 7
  | outOfRange => 8
  | overflow => 9
  | underflow => 10
  | badAccess => 11

def ofRaw? (raw : UInt32) : Option StatusCode :=
  all.find? fun code => code.raw == raw

def name : StatusCode → String
  | success => "Success"
  | clientError => "ClientError"
  | invalidClientResult => "InvalidClientResult"
  | internalError => "InternalError"
  | invalidArgument => "InvalidArgument"
  | invalidData => "InvalidData"
  | notFound => "NotFound"
  | unavailable => "Unavailable"
  | outOfRange => "OutOfRange"
  | overflow => "Overflow"
  | underflow => "Underflow"
  | badAccess => "BadAccess"

def ofName? (name : String) : Option StatusCode :=
  all.find? fun code => code.name == name

def text : StatusCode → String
  | success => "SUCCESS"
  | clientError => "CLIENT ERROR"
  | invalidClientResult => "INVALID CLIENT RESULT"
  | internalError => "INTERNAL ERROR"
  | invalidArgument => "BAD INPUT"
  | invalidData => "INVALID DATA"
  | notFound => "NOT FOUND"
  | unavailable => "UNAVAILABLE"
  | outOfRange => "OUT OF RANGE"
  | overflow => "OVERFLOW"
  | underflow => "UNDERFLOW"
  | badAccess => "BAD ACCESS"

/-- The bounds and arithmetic outcomes, which a reader of memory marks as memory failures. -/
def isMemoryCategory : StatusCode → Bool
  | outOfRange | overflow | underflow | notFound | badAccess => true
  | _ => false

theorem ofRaw?_raw (code : StatusCode) : ofRaw? code.raw = some code := by
  cases code <;> decide

theorem raw_eq_of_ofRaw? {raw : UInt32} {code : StatusCode} (found : ofRaw? raw = some code) :
    code.raw = raw := by
  simpa using List.find?_some found

theorem ofRaw?_eq_some_iff {raw : UInt32} {code : StatusCode} :
    ofRaw? raw = some code ↔ code.raw = raw :=
  ⟨raw_eq_of_ofRaw?, fun equality => equality ▸ ofRaw?_raw code⟩

end StatusCode

end BinaryImage
