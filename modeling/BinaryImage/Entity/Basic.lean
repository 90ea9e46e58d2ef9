import BinaryImage.Context.Basic
import BinaryImage.Hierarchy.Resolution
import BinaryImage.Text.Bounded

/-!
# Entities

An entity is a value at an address, of a concrete kind, with a type in a hierarchy. Types say how
their entities are named, compared, described and connected to a diagnostic context.
-/

namespace BinaryImage

/-- What the library asks of entities. -/
class TypedEntity (ε : Type) where
  Kind : Type
  [decidableKind : DecidableEq Kind]
  type : ε → TypeId
  /-- Where an entity is stored. Parts of one entity may share its address. -/
  address : ε → Nat
  kind : ε → Kind
  /-- The address of an entity as it is shown. -/
  shownAddress : ε → String

attribute [reducible, instance] TypedEntity.decidableKind

/-- A context as an object of its own: two equal contexts are the same object only if they have
the same serial number. -/
structure SharedContext where
  serial : Nat
  context : Context
  deriving DecidableEq, Repr

abbrev ContextSlot (ε : Type) := ε → Option SharedContext

abbrev EqualitySlot (ε : Type) := ε → ε → Bool

abbrev DescriptionSlot (ε : Type) := ε → List UInt8 → Checked Text.Written

abbrev EntityHierarchy (ε : Type) := Hierarchy (ContextSlot ε) (EqualitySlot ε) (DescriptionSlot ε)

/-- A behaviour, given what the base type does. -/
def Behaviour.orRoot {α : Type} (root : α) : Behaviour α → α
  | .root => root
  | .custom behaviour => behaviour

namespace TypedEntity

variable {ε : Type} [TypedEntity ε]

/-- Whether two entities are one: they share the address and the kind. A part at the start of an
entity has its address, but another kind. -/
def identical (entity other : ε) : Bool :=
  address entity == address other && kind entity == kind other

theorem identical_iff {entity other : ε} :
    identical entity other = true ↔ address entity = address other ∧ kind entity = kind other := by
  simp [identical]

end TypedEntity

/-- The description that the base type gives: the name and the address in angle brackets. -/
def rootDescription (name address : String) : List Text.Piece :=
  [.text "<", .text name, .text " ", .text address, .text ">"]

end BinaryImage
