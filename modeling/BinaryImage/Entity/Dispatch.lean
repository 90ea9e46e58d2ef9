import BinaryImage.Entity.Basic

/-!
# Dispatch

Questions about an entity are answered by what its type resolves the slot to. Of two entities
that are compared, the type of the first decides.
-/

namespace BinaryImage.EntityHierarchy

open TypedEntity

variable {ε : Type} [TypedEntity ε] (hierarchy : EntityHierarchy ε)

def isExactly (entity : ε) (type : TypeId) : Bool := TypedEntity.type entity == type

def isKindOf (entity : ε) (type : TypeId) : Bool :=
  hierarchy.inheritsFrom (TypedEntity.type entity) type

def nameOf (entity : ε) : String := hierarchy.resolveName (TypedEntity.type entity)

def contextOf (entity : ε) : Option SharedContext :=
  (hierarchy.resolveContext (TypedEntity.type entity)).orRoot (fun _ => none) entity

def equal (entity other : ε) : Bool :=
  (hierarchy.resolveEquality (TypedEntity.type entity)).orRoot identical entity other

/-- Describes an entity into a buffer, and answers with the length that the whole needs. -/
def copyDescription (entity : ε) (buffer : List UInt8) : Checked Text.Written :=
  (hierarchy.resolveDescription (TypedEntity.type entity)).orRoot
    (fun entity buffer =>
      Text.formatBounded buffer (rootDescription (hierarchy.nameOf entity) (shownAddress entity)))
    entity buffer

/-- The whole description of an entity. A first pass finds the length; a second fills a new buffer
of that length and a terminator, of which no more is read than both passes announced. -/
def description (entity : ε) : Checked String := do
  let announced ← hierarchy.copyDescription entity []
  let capacity ← Checked.exactAdd announced.length 1
  let place ← Checked.allocate capacity
  let written ← hierarchy.copyDescription entity place
  Text.readText (written.buffer.take (min written.length.toNat announced.length.toNat))

/-- An entity is shown by its description, for diagnosis too. -/
def text (entity : ε) : Checked String := hierarchy.description entity

def layout (entity : ε) : Checked Text.Layout := .verbatim <$> hierarchy.description entity

/-- Whether both entities have a context, and it is the same object. -/
def sameContext (entity other : ε) : Bool :=
  match hierarchy.contextOf entity, hierarchy.contextOf other with
  | some left, some right => left.serial == right.serial
  | _, _ => false

def log (entity : ε) (level : Level) (message : String) : List Record :=
  match hierarchy.contextOf entity with
  | none => []
  | some shared => shared.context.log level message

end BinaryImage.EntityHierarchy
