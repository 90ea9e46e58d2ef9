import BinaryImage.Proofs.Entity.Description
import BinaryImage.Proofs.Hierarchy.Locality

/-!
# Descriptions left to the base type

An entity that no type below the base type describes is described at the end of its chain, by its
name and its address. The name is looked up anew from the entity's own type, and so is found on the
way there. Main statement: whatever the buffer, such an entity is described by the text of the
name that its nearest ancestor with a name declares, and of its address.
-/

namespace BinaryImage

open Checked Text

namespace Hierarchy

variable {κ η δ : Type} {hierarchy : Hierarchy κ η δ} {type : TypeId} {name : String}

/-- The nearest ancestor of a type that declares a name declares this one. -/
def NearestName (hierarchy : Hierarchy κ η δ) (type : TypeId) (name : String) : Prop :=
  ∃ nearer supplier farther, hierarchy.ancestors type = nearer ++ supplier :: farther ∧
    hierarchy.ownName supplier = some name ∧
      ∀ ancestor ∈ nearer, hierarchy.ownName ancestor = none

theorem nearestName_iff : hierarchy.NearestName type name ↔ hierarchy.resolveName type = name := by
  have resolved : hierarchy.resolve? Slots.name type = some (hierarchy.resolveName type) :=
    SlotKind.name.resolve?_content hierarchy type
  have nearest_iff : hierarchy.resolve? Slots.name type = some name ↔
      hierarchy.NearestName type name :=
    hierarchy.resolve?_eq_some_iff Slots.name
  rw [← nearest_iff, resolved, Option.some.injEq]

end Hierarchy

/-- A name and an address in angle brackets. -/
def rootDescriptionText (name address : String) : String := "<" ++ name ++ " " ++ address ++ ">"

theorem bytes_rootDescription (name address : String) :
    Piece.bytes (rootDescription name address) =
      Utf8.bytes (rootDescriptionText name address) := by
  simp only [rootDescription, rootDescriptionText, Piece.bytes, Utf8.bytes_append,
    List.append_assoc, List.append_nil]

namespace EntityHierarchy

variable {ε : Type} [TypedEntity ε] {hierarchy : EntityHierarchy ε} {entity : ε}

theorem copyDescription_of_leftToBase
    (left : hierarchy.LeftToBase .description (TypedEntity.type entity)) (buffer : List UInt8) :
    hierarchy.copyDescription entity buffer =
      formatBounded buffer [.text (rootDescriptionText (hierarchy.nameOf entity)
        (TypedEntity.shownAddress entity))] := by
  obtain ⟨nearer, farther, chain, inherited⟩ := left.unshielded
  rw [copyDescription_of_nearest chain inherited rfl, Behaviour.orRoot]
  apply formatBounded_congr
  rw [bytes_rootDescription, Piece.bytes, Piece.bytes, List.append_nil]

/-- An entity that no type below the base type describes is described by a text of its name and its
address: every buffer is left as it is by formatting this text, and answered with its length, which
is a word for any name that there is a place for, and the description is the whole of it, unless
it is too long for a buffer. The name is the one declared by the nearest ancestor with a name, be
it empty. -/
theorem description_from_base
    (entity : ε) (left : hierarchy.LeftToBase .description (TypedEntity.type entity)) :
    ∃ name, hierarchy.NearestName (TypedEntity.type entity) name ∧
      (∀ buffer,
        hierarchy.copyDescription entity buffer =
          formatBounded buffer
            [.text (rootDescriptionText name (TypedEntity.shownAddress entity))]) ∧
      ((Utf8.bytes (rootDescriptionText name (TypedEntity.shownAddress entity))).length <
          UInt64.size →
        ∀ buffer, ∃ written, hierarchy.copyDescription entity buffer = pure written ∧
          written.length.toNat =
            (Utf8.bytes (rootDescriptionText name (TypedEntity.shownAddress entity))).length) ∧
      hierarchy.description entity =
        if (Utf8.bytes (rootDescriptionText name (TypedEntity.shownAddress entity))).length + 1 ≤
            allocationLimit then
          pure (rootDescriptionText name (TypedEntity.shownAddress entity))
        else fault := by
  have copied := copyDescription_of_leftToBase left
  have formats : DescriptionSlot.Formats hierarchy.copyDescription entity
      (rootDescriptionText (hierarchy.nameOf entity) (TypedEntity.shownAddress entity)) := by
    intro buffer
    refine ⟨_, ?_, copied buffer⟩
    rw [Piece.bytes, Piece.bytes, List.append_nil]
  refine ⟨hierarchy.nameOf entity, Hierarchy.nearestName_iff.mpr rfl, copied, ?_,
    description_of_formats formats⟩
  intro counted buffer
  exact ⟨_, formats.eq_pure counted buffer, Written.toNat_length_ofText counted buffer⟩

/-- Images, a child without a name, and a child of that whose name is empty. -/
def unnamedHierarchy : EntityHierarchy Specimen :=
  ((Hierarchy.empty.declare (.build .base [.named "image"]) (by decide)).declare
    (.build (.declared 0) [.withEquality fun _ _ => false]) (by decide)).declare
      (.build (.declared 1) [.named ""]) (by decide)

/-- The child is described by the name of its parent, of which a buffer of four bytes holds the
start, and the grandchild by the empty name, which hides that of the image. -/
theorem description_from_base_unnamedHierarchy :
    unnamedHierarchy.copyDescription (Specimen.leaf 0 (.declared 1)) [7, 7, 7, 7] =
        pure ⟨22, Utf8.bytes "<im\x00"⟩ ∧
      unnamedHierarchy.description (Specimen.leaf 0 (.declared 1)) =
        pure "<image 0x????????????>" ∧
      unnamedHierarchy.description (Specimen.leaf 0 (.declared 2)) =
        pure "< 0x????????????>" := by
  have childLeft : unnamedHierarchy.LeftToBase .description (.declared 1) := by decide +kernel
  have grandchildLeft : unnamedHierarchy.LeftToBase .description (.declared 2) := by
    decide +kernel
  obtain ⟨name, nearest, copied, _, described⟩ :=
    description_from_base (Specimen.leaf 0 (.declared 1)) childLeft
  obtain ⟨emptyName, nearestEmpty, _, _, hidden⟩ :=
    description_from_base (Specimen.leaf 0 (.declared 2)) grandchildLeft
  have named : unnamedHierarchy.resolveName (.declared 1) = "image" := by decide +kernel
  have namedEmpty : unnamedHierarchy.resolveName (.declared 2) = "" := by decide +kernel
  have sameName : "image" = name := named.symm.trans (Hierarchy.nearestName_iff.mp nearest)
  have sameEmpty : "" = emptyName :=
    namedEmpty.symm.trans (Hierarchy.nearestName_iff.mp nearestEmpty)
  rw [← sameName] at copied described
  rw [← sameEmpty] at hidden
  have partly : Written.ofText [7, 7, 7, 7] (Utf8.bytes "<image 0x????????????>") =
      ⟨22, Utf8.bytes "<im\x00"⟩ := by decide
  refine ⟨(copied _).trans ?_, described.trans (if_pos (by decide)),
    hidden.trans (if_pos (by decide))⟩
  rw [formatBounded_of_counted (by decide)]
  exact congrArg pure partly

end EntityHierarchy

end BinaryImage
