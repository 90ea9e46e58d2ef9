/-!
# UTF-8

Texts as bytes, and bytes as text. Reading never fails: wherever the bytes are not well-formed,
the longest run that could still have begun a character, or else one byte, is read as a single
replacement character.
-/

namespace BinaryImage.Text.Utf8

/-! ## Writing -/

def encode (characters : List Char) : List UInt8 := characters.flatMap String.utf8EncodeChar

def bytes (text : String) : List UInt8 := encode text.toList

theorem bytes_append (left right : String) : bytes (left ++ right) = bytes left ++ bytes right := by
  simp [bytes, encode]

/-! ## Reading -/

/-- Stands for bytes that are no character. -/
def replacement : Char := '\ufffd'

/-- A character of which some bytes are still to come: the next one has to lie between `low` and
`high`, and `owed` more follow it. -/
structure Pending where
  value : Nat
  owed : Nat
  low : Nat
  high : Nat
  deriving DecidableEq, Repr

/-- What the bytes of a character read so far amount to. -/
inductive Reading where
  | complete (character : Char)
  | partway (pending : Pending)
  | invalid
  deriving DecidableEq, Repr

/-- The meaning of a byte at the start of a character. The bounds on the second byte leave out
overlong forms, surrogates and values above the last scalar value. -/
def start (byte : UInt8) : Reading :=
  let value := byte.toNat
  if value < 0x80 then .complete (Char.ofNat value)
  else if value < 0xc2 then .invalid
  else if value < 0xe0 then .partway ⟨value % 0x20, 0, 0x80, 0xbf⟩
  else if value < 0xf0 then
    .partway ⟨value % 0x10, 1, if value = 0xe0 then 0xa0 else 0x80,
      if value = 0xed then 0x9f else 0xbf⟩
  else if value < 0xf5 then
    .partway ⟨value % 0x08, 2, if value = 0xf0 then 0x90 else 0x80,
      if value = 0xf4 then 0x8f else 0xbf⟩
  else .invalid

namespace Pending

def accepts (pending : Pending) (byte : UInt8) : Bool :=
  pending.low ≤ byte.toNat && byte.toNat ≤ pending.high

def continued (pending : Pending) (byte : UInt8) : Reading :=
  let value := pending.value * 0x40 + byte.toNat % 0x40
  match pending.owed with
  | 0 => .complete (Char.ofNat value)
  | owed + 1 => .partway ⟨value, owed, 0x80, 0xbf⟩

end Pending

/-- The characters that a reading settles. -/
def Reading.settled : Reading → List Char
  | .complete character => [character]
  | .partway _ => []
  | .invalid => [replacement]

/-- The character that a reading leaves unfinished. -/
def Reading.pending? : Reading → Option Pending
  | .partway pending => some pending
  | _ => none

/-- One byte, after an unfinished character if there is one. A byte that does not continue it
replaces it, and is then read as the start of the next character. -/
def step (pending? : Option Pending) (byte : UInt8) : List Char × Option Pending :=
  match pending? with
  | none => ((start byte).settled, (start byte).pending?)
  | some pending =>
    if pending.accepts byte then
      ((pending.continued byte).settled, (pending.continued byte).pending?)
    else (replacement :: (start byte).settled, (start byte).pending?)

/-- The characters read from bytes that follow an unfinished character, if there is one. -/
def decodeFrom (pending? : Option Pending) : List UInt8 → List Char
  | [] => if pending?.isSome then [replacement] else []
  | byte :: rest => (step pending? byte).1 ++ decodeFrom (step pending? byte).2 rest

def decode (bytes : List UInt8) : List Char := decodeFrom none bytes

/-- The text that a sequence of bytes is read as. -/
def text (bytes : List UInt8) : String := String.ofList (decode bytes)

theorem decodeFrom_of_complete {pending : Pending} {byte : UInt8} {rest : List UInt8}
    {character : Char} (accepted : pending.accepts byte = true)
    (completed : pending.continued byte = .complete character) :
    decodeFrom (some pending) (byte :: rest) = character :: decodeFrom none rest := by
  simp [decodeFrom, step, accepted, completed, Reading.settled, Reading.pending?]

theorem decodeFrom_of_partway {pending next : Pending} {byte : UInt8} {rest : List UInt8}
    (accepted : pending.accepts byte = true)
    (continues : pending.continued byte = .partway next) :
    decodeFrom (some pending) (byte :: rest) = decodeFrom (some next) rest := by
  simp [decodeFrom, step, accepted, continues, Reading.settled, Reading.pending?]

theorem decodeFrom_of_start_complete {byte : UInt8} {rest : List UInt8} {character : Char}
    (completed : start byte = .complete character) :
    decodeFrom none (byte :: rest) = character :: decodeFrom none rest := by
  simp [decodeFrom, step, completed, Reading.settled, Reading.pending?]

theorem decodeFrom_of_start_partway {byte : UInt8} {rest : List UInt8} {pending : Pending}
    (continues : start byte = .partway pending) :
    decodeFrom none (byte :: rest) = decodeFrom (some pending) rest := by
  simp [decodeFrom, step, continues, Reading.settled, Reading.pending?]

theorem decodeFrom_of_start_invalid {byte : UInt8} {rest : List UInt8}
    (invalid : start byte = .invalid) :
    decodeFrom none (byte :: rest) = replacement :: decodeFrom none rest := by
  simp [decodeFrom, step, invalid, Reading.settled, Reading.pending?]

end BinaryImage.Text.Utf8
