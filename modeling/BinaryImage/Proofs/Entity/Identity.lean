import BinaryImage.Entity.Dispatch
import BinaryImage.Proofs.Hierarchy.Locality
import BinaryImage.Specimen.Basic

/-!
# Identity of entities

Entities that no type below the base type compares are compared by identity: by their address and
their kind. Addresses alone do not tell entities apart, as the first part of an entity lies at the
address of the whole, and entities without a size may all lie at one. Main statement: the first
of two entities alone decides that they are compared by identity, which is an equivalence; and it
tells apart what are two entities in memory, unless they take up no space.
-/

namespace BinaryImage

open TypedEntity

variable {ε : Type} [TypedEntity ε]

/-! ## Entities in memory -/

/-- The byte is one of those that an entity takes up, if kinds have the given sizes. -/
def TypedEntity.Occupies (size : Kind ε → Nat) (entity : ε) (byte : Nat) : Prop :=
  address entity ≤ byte ∧ byte < address entity + size (kind entity)

/-- Entities that live at one time, and how they lie in memory. Where two of them share a byte,
one is a part of the other. Kinds are nested in each other to a finite depth, as every kind has a
size. -/
structure MemoryLayout (ε : Type) [TypedEntity ε] where
  Lives : ε → Prop
  size : Kind ε → Nat
  depth : Kind ε → Nat
  IsPart : ε → ε → Prop
  depth_lt : ∀ part whole, IsPart part whole → depth (kind part) < depth (kind whole)
  nested : ∀ left right byte, Lives left → Lives right →
    Occupies size left byte → Occupies size right byte →
    left = right ∨ IsPart left right ∨ IsPart right left

namespace MemoryLayout

variable (layout : MemoryLayout ε) {left right part whole : ε}

theorem kind_ne_of_isPart (inside : layout.IsPart part whole) : kind part ≠ kind whole := by
  intro same
  have deeper := layout.depth_lt part whole inside
  rw [same] at deeper
  exact Nat.lt_irrefl _ deeper

/-- Entities that start at the same byte are one or have different kinds. -/
theorem eq_of_address_of_kind
    (leftLives : layout.Lives left) (rightLives : layout.Lives right)
    (sized : 0 < layout.size (kind left))
    (sameAddress : address left = address right) (sameKind : kind left = kind right) :
    left = right := by
  have leftFirst : Occupies layout.size left (address left) :=
    ⟨Nat.le_refl _, Nat.lt_add_of_pos_right sized⟩
  have rightFirst : Occupies layout.size right (address left) := by
    rw [Occupies, ← sameAddress, ← sameKind]
    exact leftFirst
  rcases layout.nested left right _ leftLives rightLives leftFirst rightFirst with
    same | leftInside | rightInside
  · exact same
  · exact absurd sameKind (layout.kind_ne_of_isPart leftInside)
  · exact absurd sameKind.symm (layout.kind_ne_of_isPart rightInside)

end MemoryLayout

namespace EntityHierarchy

variable {hierarchy : EntityHierarchy ε} {entity other : ε}

/-- The type of an entity resolves equality to that of the base type. -/
def ComparesByIdentity (hierarchy : EntityHierarchy ε) (entity : ε) : Prop :=
  hierarchy.resolveEquality (type entity) = .root

theorem comparesByIdentity_of_leftToBase
    (left : hierarchy.LeftToBase .equality (type entity)) :
    hierarchy.ComparesByIdentity entity :=
  Option.some.inj left.resolve_eq

theorem ComparesByIdentity.equal_eq (compares : hierarchy.ComparesByIdentity entity) :
    hierarchy.equal entity other = identical entity other := by
  rw [equal, compares, Behaviour.orRoot]

theorem ComparesByIdentity.equal_iff (compares : hierarchy.ComparesByIdentity entity) :
    hierarchy.equal entity other = true ↔
      address entity = address other ∧ kind entity = kind other := by
  rw [compares.equal_eq, identical_iff]

/-- Of the entities only the places and the kinds are looked at. -/
theorem ComparesByIdentity.equal_congr
    {changed : EntityHierarchy ε} {sameEntity sameOther : ε}
    (compares : hierarchy.ComparesByIdentity entity)
    (comparesChanged : changed.ComparesByIdentity sameEntity)
    (entityKept : identical sameEntity entity = true)
    (otherKept : identical sameOther other = true) :
    changed.equal sameEntity sameOther = hierarchy.equal entity other := by
  obtain ⟨entityAddress, entityKind⟩ := identical_iff.mp entityKept
  obtain ⟨otherAddress, otherKind⟩ := identical_iff.mp otherKept
  rw [Bool.eq_iff_iff, compares.equal_iff, comparesChanged.equal_iff, entityAddress, entityKind,
    otherAddress, otherKind]

theorem equivalence_equal (hierarchy : EntityHierarchy ε) :
    Equivalence fun left right : { entity : ε // hierarchy.ComparesByIdentity entity } =>
      hierarchy.equal left.val right.val = true where
  refl entity := entity.property.equal_iff.mpr ⟨rfl, rfl⟩
  symm := by
    intro left right equality
    obtain ⟨sameAddress, sameKind⟩ := left.property.equal_iff.mp equality
    exact right.property.equal_iff.mpr ⟨sameAddress.symm, sameKind.symm⟩
  trans := by
    intro left middle right first second
    obtain ⟨firstAddress, firstKind⟩ := left.property.equal_iff.mp first
    obtain ⟨secondAddress, secondKind⟩ := middle.property.equal_iff.mp second
    exact left.property.equal_iff.mpr
      ⟨firstAddress.trans secondAddress, firstKind.trans secondKind⟩

theorem ComparesByIdentity.equal_eq_false_of_ne
    (compares : hierarchy.ComparesByIdentity entity) (layout : MemoryLayout ε)
    (lives : layout.Lives entity) (otherLives : layout.Lives other) (distinct : entity ≠ other)
    (sized : 0 < layout.size (kind entity)) :
    hierarchy.equal entity other = false := by
  rw [Bool.eq_false_iff]
  intro equality
  obtain ⟨sameAddress, sameKind⟩ := compares.equal_iff.mp equality
  exact distinct (layout.eq_of_address_of_kind lives otherLives sized sameAddress sameKind)

theorem ComparesByIdentity.equal_eq_false_of_kind_ne
    (compares : hierarchy.ComparesByIdentity entity) (apart : kind entity ≠ kind other) :
    hierarchy.equal entity other = false := by
  rw [Bool.eq_false_iff]
  intro equality
  exact apart (compares.equal_iff.mp equality).2

/-- If no type below the base type compares an entity, it equals what has its address and its kind,
whatever the type of the other side fills its slots with, and whatever else either side holds. Among
entities that are compared so, this is an equivalence. It tells any two living entities apart of
which one takes up space, and an entity from its parts, the one at its own address included. -/
theorem equal_by_identity (hierarchy : EntityHierarchy ε) (layout : MemoryLayout ε) :
    (∀ entity, hierarchy.LeftToBase .equality (type entity) →
      hierarchy.ComparesByIdentity entity ∧
      (∀ other, hierarchy.equal entity other = true ↔
        address entity = address other ∧ kind entity = kind other) ∧
      ∀ (changed : EntityHierarchy ε) (sameEntity other sameOther : ε),
        changed.LeftToBase .equality (type sameEntity) →
        identical sameEntity entity = true → identical sameOther other = true →
        changed.equal sameEntity sameOther = hierarchy.equal entity other) ∧
    (Equivalence fun left right : { entity : ε // hierarchy.ComparesByIdentity entity } =>
      hierarchy.equal left.val right.val = true) ∧
    (∀ entity other, hierarchy.ComparesByIdentity entity →
      layout.Lives entity → layout.Lives other → entity ≠ other →
      0 < layout.size (kind entity) → hierarchy.equal entity other = false) ∧
    (∀ part whole, layout.IsPart part whole →
      (hierarchy.ComparesByIdentity whole → hierarchy.equal whole part = false) ∧
      (hierarchy.ComparesByIdentity part → hierarchy.equal part whole = false)) := by
  refine ⟨?_, hierarchy.equivalence_equal, ?_, ?_⟩
  · intro entity left
    have compares := comparesByIdentity_of_leftToBase left
    refine ⟨compares, fun other => compares.equal_iff, ?_⟩
    intro changed sameEntity other sameOther leftChanged entityKept otherKept
    exact compares.equal_congr (comparesByIdentity_of_leftToBase leftChanged) entityKept otherKept
  · intro entity other compares lives otherLives distinct sized
    exact compares.equal_eq_false_of_ne layout lives otherLives distinct sized
  · intro part whole inside
    have apart := layout.kind_ne_of_isPart inside
    exact ⟨fun compares => compares.equal_eq_false_of_kind_ne apart.symm,
      fun compares => compares.equal_eq_false_of_kind_ne apart⟩

end EntityHierarchy

/-! ## Specimens in memory -/

namespace Specimen

/-- One byte for everything but markers. -/
def byteCount : Kind → Nat
  | .markerA | .markerB => 0
  | .node | .leaf | .framed => 1

/-- Frames have a header inside, and the others have nothing inside. -/
def nesting : Kind → Nat
  | .framed => 1
  | .node | .leaf | .markerA | .markerB => 0

/-- Specimens live together if none but a frame and its header share an address that is not the
one of the markers. -/
def memoryLayout (specimens : List Specimen)
    (placed : ∀ left ∈ specimens, ∀ right ∈ specimens, left.address = right.address →
      0 < byteCount left.kind → left = right ∨ right.header? = some left ∨
        left.header? = some right) : MemoryLayout Specimen where
  Lives specimen := specimen ∈ specimens
  size := byteCount
  depth := nesting
  IsPart part whole := whole.header? = some part
  depth_lt part whole inside := by
    cases whole with
    | framed serial type headerType =>
        have same : header serial headerType = part := Option.some.inj inside
        rw [← same]
        exact Nat.lt_succ_self 0
    | _ => cases inside
  nested left right byte leftLives rightLives leftTakes rightTakes := by
    have small : ∀ kind, byteCount kind ≤ 1 := by
      intro kind
      cases kind <;> decide
    have leftSmall := small left.kind
    have rightSmall := small right.kind
    obtain ⟨leftStart, leftStop⟩ := leftTakes
    obtain ⟨rightStart, rightStop⟩ := rightTakes
    change left.address ≤ byte at leftStart
    change byte < left.address + byteCount left.kind at leftStop
    change right.address ≤ byte at rightStart
    change byte < right.address + byteCount right.kind at rightStop
    exact placed left leftLives right rightLives (by omega) (by omega)

end Specimen

namespace EntityHierarchy

/-- Markers, frames, and a type of frames that takes everything for equal. -/
def frameHierarchy : EntityHierarchy Specimen :=
  ((Hierarchy.empty.declare (.build .base [.named "marker"]) (by decide)).declare
    (.build .base [.named "frame"]) (by decide)).declare
      (.build (.declared 1) [.withEquality fun _ _ => true]) (by decide)

/-- A frame whose header takes everything for equal. -/
def lenientFrame : Specimen := .framed 0 (.declared 1) (.declared 2)

def lenientHeader : Specimen := .header 0 (.declared 2)

def plainFrame : Specimen := .framed 1 (.declared 1) (.declared 1)

def plainHeader : Specimen := .header 1 (.declared 1)

def framedSpecimens : List Specimen :=
  [lenientFrame, lenientHeader, plainFrame, plainHeader, .markerA, .markerB]

/-- A frame differs from its header, even from one that takes everything for equal, and the plain
header differs from its frame. The two frames differ, and so do the two kinds of marker, which lie
at one address. -/
theorem equal_by_identity_frameHierarchy :
    (frameHierarchy.equal lenientFrame lenientHeader = false ∧
      frameHierarchy.equal lenientHeader lenientFrame = true) ∧
    (frameHierarchy.equal plainFrame plainHeader = false ∧
      frameHierarchy.equal plainHeader plainFrame = false) ∧
    frameHierarchy.equal lenientFrame plainFrame = false ∧
    frameHierarchy.equal .markerA .markerA = true ∧
    frameHierarchy.equal .markerA .markerB = false := by
  obtain ⟨decided, _, distinct, parts⟩ :=
    equal_by_identity frameHierarchy (Specimen.memoryLayout framedSpecimens (by decide))
  have frameLeft : frameHierarchy.LeftToBase .equality (.declared 1) := by decide +kernel
  have markerLeft : frameHierarchy.LeftToBase .equality (.declared 0) := by decide +kernel
  have compares : frameHierarchy.resolveEquality (.declared 1) = .root :=
    Option.some.inj frameLeft.resolve_eq
  have lenient := parts lenientHeader lenientFrame rfl
  have plain := parts plainHeader plainFrame rfl
  have frameLives : lenientFrame ∈ framedSpecimens := by decide
  have otherLives : plainFrame ∈ framedSpecimens := by decide
  obtain ⟨_, marker_iff, _⟩ := decided .markerA markerLeft
  refine ⟨⟨lenient.1 compares, by decide +kernel⟩, ⟨plain.1 compares, plain.2 compares⟩, ?_,
    (marker_iff .markerA).mpr ⟨rfl, rfl⟩, ?_⟩
  · exact distinct lenientFrame plainFrame compares frameLives otherLives (by decide) (by decide)
  · rw [Bool.eq_false_iff]
    intro same
    cases ((marker_iff .markerB).mp same).2

end EntityHierarchy

end BinaryImage
