import BinaryImage.Text.Hexadecimal

/-!
# Status flags

The modifier bits that may accompany a status code in its numeric form. One bit is known, the
memory bit; a set of flags may still hold bits that have no name.
-/

namespace BinaryImage

/-- A set of modifier bits. -/
structure StatusFlags where
  bits : UInt32
  deriving DecidableEq, Repr

namespace StatusFlags

def empty : StatusFlags := ⟨0⟩

/-- The failure happened while reading or writing memory. -/
def memory : StatusFlags := ⟨0x80000000⟩

/-- All bits that have a name. -/
def all : StatusFlags := memory

/-- The set with exactly these bits, unless one of them has no name. -/
def ofBits? (bits : UInt32) : Option StatusFlags :=
  if bits &&& ~~~all.bits = 0 then some ⟨bits⟩ else none

def ofNamedBits (bits : UInt32) : StatusFlags := ⟨bits &&& all.bits⟩

def isEmpty (flags : StatusFlags) : Bool := flags.bits == 0

def isAll (flags : StatusFlags) : Bool := flags.bits ||| all.bits == flags.bits

def contains (flags other : StatusFlags) : Bool := flags.bits &&& other.bits == other.bits

def intersects (flags other : StatusFlags) : Bool := flags.bits &&& other.bits != 0

def union (flags other : StatusFlags) : StatusFlags := ⟨flags.bits ||| other.bits⟩

def intersection (flags other : StatusFlags) : StatusFlags := ⟨flags.bits &&& other.bits⟩

def difference (flags other : StatusFlags) : StatusFlags := ⟨flags.bits &&& ~~~other.bits⟩

def symmetricDifference (flags other : StatusFlags) : StatusFlags := ⟨flags.bits ^^^ other.bits⟩

def complement (flags : StatusFlags) : StatusFlags := ofNamedBits (~~~flags.bits)

/-- The members of a set as text: the names first, then the nameless bits as one number. -/
def members (flags : StatusFlags) : List String :=
  let named := if flags.contains memory then ["MEMORY"] else []
  let rest := flags.bits &&& ~~~all.bits
  if rest = 0 then named else named ++ [Text.hexadecimal rest.toNat]

/-- The diagnostic text of a set of flags; an empty set is written as zero. -/
def text (flags : StatusFlags) : String :=
  let shown := if flags.isEmpty then Text.hexadecimal 0 else " | ".intercalate flags.members
  "ErrorFlags(" ++ shown ++ ")"

end StatusFlags

end BinaryImage
