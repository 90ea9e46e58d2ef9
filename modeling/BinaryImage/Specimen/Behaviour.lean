import BinaryImage.Entity.Dispatch
import BinaryImage.Hierarchy.Map
import BinaryImage.Specimen.Rules

/-!
# Hierarchies of rules

A hierarchy whose slots hold rules determines one whose slots act on specimens. A rule that asks
the owner asks it through the same hierarchy, which ends because every owner is part of the
specimen it owns. Main statements: dispatch in the second hierarchy answers as the rules say.
-/

namespace BinaryImage

open TypedEntity

abbrev RuleDeclaration := Declaration ContextRule EqualityRule DescriptionRule

abbrev RuleHierarchy := Hierarchy ContextRule EqualityRule DescriptionRule

namespace RuleHierarchy

def markerDeclaration : RuleDeclaration := .build .base [.named "marker"]

/-- The hierarchy of the marker type and further declarations. -/
def ofDeclarations? (declarations : List RuleDeclaration) : Option RuleHierarchy :=
  Hierarchy.ofDeclarations? (markerDeclaration :: declarations)

variable (rules : RuleHierarchy)

def nameOf (specimen : Specimen) : String := rules.resolveName specimen.type

/-- The context of a specimen, given that of its owner. -/
def contextFrom (specimen : Specimen) (ofOwner : Option SharedContext) : Option SharedContext :=
  match rules.resolveContext specimen.type with
  | .root => none
  | .custom rule => rule.answer specimen ofOwner

/-- Whether a specimen equals another, given how its owner compares. -/
def equalFrom (specimen other : Specimen) (ofOwner : Option (Specimen → Bool)) : Bool :=
  match rules.resolveEquality specimen.type with
  | .root => identical specimen other
  | .custom rule => rule.answer (nameOf rules) specimen other ofOwner

/-- The description of a specimen, given that of its owner. -/
def describeFrom (specimen : Specimen) (ofOwner : Option (List UInt8 → Checked Text.Written))
    (buffer : List UInt8) : Checked Text.Written :=
  match rules.resolveDescription specimen.type with
  | .root =>
    Text.formatBounded buffer (rootDescription (nameOf rules specimen) (shownAddress specimen))
  | .custom rule => rule.answer (nameOf rules specimen) specimen ofOwner buffer

def contextOf : Specimen → Option SharedContext
  | .owned serial type features owner =>
    contextFrom rules (.owned serial type features owner) (contextOf owner)
  | specimen => contextFrom rules specimen none

def equal : Specimen → Specimen → Bool
  | .owned serial type features owner, other =>
    equalFrom rules (.owned serial type features owner) other (some (equal owner))
  | specimen, other => equalFrom rules specimen other none

def describe : Specimen → List UInt8 → Checked Text.Written
  | .owned serial type features owner, buffer =>
    describeFrom rules (.owned serial type features owner) (some (describe owner)) buffer
  | specimen, buffer => describeFrom rules specimen none buffer

def contextSlot (rule : ContextRule) : ContextSlot Specimen := fun specimen =>
  rule.answer specimen (specimen.owner?.bind (contextOf rules))

def equalitySlot (rule : EqualityRule) : EqualitySlot Specimen := fun specimen other =>
  rule.answer (nameOf rules) specimen other (specimen.owner?.map (equal rules))

def descriptionSlot (rule : DescriptionRule) : DescriptionSlot Specimen := fun specimen buffer =>
  rule.answer (nameOf rules specimen) specimen (specimen.owner?.map (describe rules)) buffer

/-- The hierarchy whose slots act on specimens as the rules say. -/
def toEntities : EntityHierarchy Specimen :=
  rules.map (contextSlot rules) (equalitySlot rules) (descriptionSlot rules)

/-! ## Dispatch follows the rules -/

theorem contextOf_eq (specimen : Specimen) :
    contextOf rules specimen =
      contextFrom rules specimen (specimen.owner?.bind (contextOf rules)) := by
  cases specimen <;> rfl

theorem equal_eq (specimen other : Specimen) :
    equal rules specimen other =
      equalFrom rules specimen other (specimen.owner?.map (equal rules)) := by
  cases specimen <;> rfl

theorem describe_eq (specimen : Specimen) (buffer : List UInt8) :
    describe rules specimen buffer =
      describeFrom rules specimen (specimen.owner?.map (describe rules)) buffer := by
  cases specimen <;> rfl

theorem toEntities_nameOf (specimen : Specimen) :
    (toEntities rules).nameOf specimen = nameOf rules specimen :=
  Hierarchy.map_resolveName _ _ _ rules specimen.type

theorem toEntities_contextOf (specimen : Specimen) :
    (toEntities rules).contextOf specimen = contextOf rules specimen := by
  have resolved : (toEntities rules).resolveContext (TypedEntity.type specimen) =
      (rules.resolveContext specimen.type).map (contextSlot rules) :=
    Hierarchy.map_resolveContext _ _ _ rules specimen.type
  rw [EntityHierarchy.contextOf, resolved, contextOf_eq, contextFrom]
  cases rules.resolveContext specimen.type <;> rfl

theorem toEntities_equal (specimen other : Specimen) :
    (toEntities rules).equal specimen other = equal rules specimen other := by
  have resolved : (toEntities rules).resolveEquality (TypedEntity.type specimen) =
      (rules.resolveEquality specimen.type).map (equalitySlot rules) :=
    Hierarchy.map_resolveEquality _ _ _ rules specimen.type
  rw [EntityHierarchy.equal, resolved, equal_eq, equalFrom]
  cases rules.resolveEquality specimen.type <;> rfl

theorem toEntities_copyDescription (specimen : Specimen) (buffer : List UInt8) :
    (toEntities rules).copyDescription specimen buffer = describe rules specimen buffer := by
  have resolved : (toEntities rules).resolveDescription (TypedEntity.type specimen) =
      (rules.resolveDescription specimen.type).map (descriptionSlot rules) :=
    Hierarchy.map_resolveDescription _ _ _ rules specimen.type
  rw [EntityHierarchy.copyDescription, resolved, describe_eq, describeFrom, ← toEntities_nameOf]
  cases rules.resolveDescription specimen.type with
  | root => rfl
  | custom rule =>
      rw [Behaviour.map, Behaviour.orRoot, descriptionSlot, toEntities_nameOf]

end RuleHierarchy

end BinaryImage
