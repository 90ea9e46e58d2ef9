import BinaryImage.Proofs.Entity.Description
import BinaryImage.Specimen.Behaviour

/-!
# Questions left to owners

A slot may leave a question about an entity to the owner of the entity, and so enter dispatch
again, with another type. Main statement: along owners of which each leaves the question to the
next, the first is described as the last, has the very context of the last, and equals what starts
another row of owners exactly if the last ones of both rows are equal.
-/

namespace BinaryImage

namespace EntityHierarchy

variable {ε : Type} [TypedEntity ε] {hierarchy : EntityHierarchy ε} {owner? : ε → Option ε}
  {entity other owner otherOwner : ε}

/-! ## Types that leave a question to the owner -/

/-- The type of an entity resolves descriptions to a slot that describes the owner. -/
def DescribesOwner
    (hierarchy : EntityHierarchy ε) (owner? : ε → Option ε) (entity : ε) : Prop :=
  ∃ slot, hierarchy.resolveDescription (TypedEntity.type entity) = .custom slot ∧
    ∀ owner, owner? entity = some owner →
      ∀ buffer, slot entity buffer = hierarchy.copyDescription owner buffer

/-- The type of an entity resolves contexts to a slot that asks for the owner's. -/
def SharesContextOfOwner
    (hierarchy : EntityHierarchy ε) (owner? : ε → Option ε) (entity : ε) : Prop :=
  ∃ slot, hierarchy.resolveContext (TypedEntity.type entity) = .custom slot ∧
    ∀ owner, owner? entity = some owner → slot entity = hierarchy.contextOf owner

/-- The type of an entity resolves equality to a slot that compares owners where both sides have
one. What the type of the other side resolves to does not matter. -/
def ComparesOwners
    (hierarchy : EntityHierarchy ε) (owner? : ε → Option ε) (entity : ε) : Prop :=
  ∃ slot, hierarchy.resolveEquality (TypedEntity.type entity) = .custom slot ∧
    ∀ other owner otherOwner, owner? entity = some owner → owner? other = some otherOwner →
      slot entity other = hierarchy.equal owner otherOwner

theorem DescribesOwner.copyDescription_eq
    (describes : hierarchy.DescribesOwner owner? entity) (owned : owner? entity = some owner) :
    hierarchy.copyDescription entity = hierarchy.copyDescription owner := by
  obtain ⟨slot, resolved, answers⟩ := describes
  funext buffer
  rw [copyDescription, resolved, Behaviour.orRoot]
  exact answers owner owned buffer

theorem SharesContextOfOwner.contextOf_eq
    (shares : hierarchy.SharesContextOfOwner owner? entity)
    (owned : owner? entity = some owner) :
    hierarchy.contextOf entity = hierarchy.contextOf owner := by
  obtain ⟨slot, resolved, answers⟩ := shares
  rw [contextOf, resolved, Behaviour.orRoot]
  exact answers owner owned

theorem ComparesOwners.equal_eq
    (compares : hierarchy.ComparesOwners owner? entity)
    (owned : owner? entity = some owner) (otherOwned : owner? other = some otherOwner) :
    hierarchy.equal entity other = hierarchy.equal owner otherOwner := by
  obtain ⟨slot, resolved, answers⟩ := compares
  rw [equal, resolved, Behaviour.orRoot]
  exact answers other owner otherOwner owned otherOwned

/-! ## Rows of owners -/

/-- Entities of which each, up to a count, is owned by the next. -/
def OwnedInTurn (owner? : ε → Option ε) (count : Nat) (entities : Nat → ε) : Prop :=
  ∀ level < count, owner? (entities level) = some (entities (level + 1))

/-- What is the same at each level and the next is the same at the first level and the last. -/
theorem answer_eq_last
    {α : Type} (answer : Nat → α) {count : Nat}
    (handedOn : ∀ level < count, answer level = answer (level + 1)) :
    answer 0 = answer count := by
  induction count with
  | zero => rfl
  | succ count inductionHypothesis =>
      have before := inductionHypothesis fun level within => handedOn level (Nat.lt_succ_of_lt within)
      exact before.trans (handedOn count (Nat.lt_succ_self count))

theorem sameContext_eq_isSome
    (same : hierarchy.contextOf entity = hierarchy.contextOf other) :
    hierarchy.sameContext entity other = (hierarchy.contextOf other).isSome := by
  rw [sameContext, same]
  cases hierarchy.contextOf other with
  | none => rfl
  | some shared => exact beq_self_eq_true _

/-- Along owners of which each leaves the question to the next, every buffer is answered for the
first as for the last, which so have one description; the first has the context of the last as the
same object, or none if the last has none; and the comparison with a second row of owners, of
whatever types, comes down to that of the last ones. -/
theorem dispatch_through_owners
    (hierarchy : EntityHierarchy ε) (owner? : ε → Option ε) {count : Nat} {entities : Nat → ε}
    (owned : OwnedInTurn owner? count entities) :
    ((∀ level < count, hierarchy.DescribesOwner owner? (entities level)) →
      (∀ buffer, hierarchy.copyDescription (entities 0) buffer =
        hierarchy.copyDescription (entities count) buffer) ∧
      hierarchy.description (entities 0) = hierarchy.description (entities count)) ∧
    ((∀ level < count, hierarchy.SharesContextOfOwner owner? (entities level)) →
      (hierarchy.contextOf (entities 0) = none ↔ hierarchy.contextOf (entities count) = none) ∧
      hierarchy.contextOf (entities 0) = hierarchy.contextOf (entities count) ∧
      hierarchy.sameContext (entities 0) (entities count) =
        (hierarchy.contextOf (entities count)).isSome) ∧
    ((∀ level < count, hierarchy.ComparesOwners owner? (entities level)) →
      ∀ others : Nat → ε, OwnedInTurn owner? count others →
        hierarchy.equal (entities 0) (others 0) =
          hierarchy.equal (entities count) (others count)) := by
  refine ⟨?_, ?_, ?_⟩
  · intro describes
    have copied : hierarchy.copyDescription (entities 0) =
        hierarchy.copyDescription (entities count) :=
      answer_eq_last (fun level => hierarchy.copyDescription (entities level))
        fun level within => (describes level within).copyDescription_eq (owned level within)
    exact ⟨congrFun copied, by rw [description, description, copied]⟩
  · intro shares
    have same : hierarchy.contextOf (entities 0) = hierarchy.contextOf (entities count) :=
      answer_eq_last (fun level => hierarchy.contextOf (entities level))
        fun level within => (shares level within).contextOf_eq (owned level within)
    exact ⟨by rw [same], same, sameContext_eq_isSome same⟩
  · intro compares others othersOwned
    exact answer_eq_last (fun level => hierarchy.equal (entities level) (others level))
      fun level within =>
        (compares level within).equal_eq (owned level within) (othersOwned level within)

end EntityHierarchy

/-! ## Rules that ask the owner -/

namespace RuleHierarchy

variable {rules : RuleHierarchy} {specimen : Specimen}

theorem toEntities_describesOwner
    (resolved : rules.resolveDescription specimen.type = .custom .owner) :
    (toEntities rules).DescribesOwner Specimen.owner? specimen := by
  refine ⟨descriptionSlot rules .owner, ?_, ?_⟩
  · have mapped := Hierarchy.map_resolveDescription (contextSlot rules) (equalitySlot rules)
      (descriptionSlot rules) rules specimen.type
    rw [resolved] at mapped
    exact mapped
  · intro owner owned buffer
    rw [toEntities_copyDescription, descriptionSlot, owned]
    rfl

theorem toEntities_sharesContextOfOwner
    (resolved : rules.resolveContext specimen.type = .custom .owner) :
    (toEntities rules).SharesContextOfOwner Specimen.owner? specimen := by
  refine ⟨contextSlot rules .owner, ?_, ?_⟩
  · have mapped := Hierarchy.map_resolveContext (contextSlot rules) (equalitySlot rules)
      (descriptionSlot rules) rules specimen.type
    rw [resolved] at mapped
    exact mapped
  · intro owner owned
    rw [toEntities_contextOf, contextSlot, owned]
    rfl

theorem toEntities_comparesOwners
    (resolved : rules.resolveEquality specimen.type = .custom .owner) :
    (toEntities rules).ComparesOwners Specimen.owner? specimen := by
  refine ⟨equalitySlot rules .owner, ?_, ?_⟩
  · have mapped := Hierarchy.map_resolveEquality (contextSlot rules) (equalitySlot rules)
      (descriptionSlot rules) rules specimen.type
    rw [resolved] at mapped
    exact mapped
  · intro other owner otherOwner owned otherOwned
    simp only [toEntities_equal, equalitySlot, EqualityRule.answer, owned, otherOwned,
      Option.map_some]

/-- Parts of sections of images. Parts and sections leave all questions to their owners. -/
def partRules : RuleHierarchy :=
  ((Hierarchy.empty.declare
    (.build .base [.named "part", .withContext .owner, .withEquality .owner,
      .withDescription .owner]) (by decide)).declare
    (.build (.declared 0) [.named "section"]) (by decide)).declare
      (.build .base [.named "image", .withContext .own, .withEquality .payload,
        .withDescription .label]) (by decide)

def imageSpecimen (serial : Nat) (label : String) : Specimen :=
  .node serial (.declared 2) ⟨[7], label, ⟨0, 0⟩, some ⟨label, ContextConfig.quiet⟩⟩

/-- A part, the section that owns it, and the image that owns the section. -/
def partSpecimens (label : String) (partType sectionType : TypeId) : Nat → Specimen
  | 0 => .owned 2 partType ⟨[2], "part", ⟨0, 0⟩, none⟩
      (.owned 1 sectionType ⟨[1], "section", ⟨0, 0⟩, none⟩ (imageSpecimen 0 label))
  | 1 => .owned 1 sectionType ⟨[1], "section", ⟨0, 0⟩, none⟩ (imageSpecimen 0 label)
  | _ => imageSpecimen 0 label

/-- The part and the section are what has an owner. -/
theorem forall_owned_level
    {property : Nat → Prop} (first : property 0) (second : property 1) :
    ∀ level < 2, property level
  | 0, _ => first
  | 1, _ => second
  | _ + 2, beyond => absurd beyond (by omega)

theorem partSpecimens_ownedInTurn (label : String) (partType sectionType : TypeId) :
    EntityHierarchy.OwnedInTurn Specimen.owner? 2 (partSpecimens label partType sectionType) :=
  forall_owned_level rfl rfl

theorem imageSpecimen_formats :
    DescriptionSlot.Formats (toEntities partRules).copyDescription (imageSpecimen 0 "left")
      "<image left>" := by
  have resolved : partRules.resolveDescription (imageSpecimen 0 "left").type = .custom .label := by
    decide +kernel
  have named : nameOf partRules (imageSpecimen 0 "left") = "image" := by decide +kernel
  intro buffer
  refine ⟨DescriptionRule.bracketed ["image", "left"], by decide, ?_⟩
  rw [toEntities_copyDescription, describe_eq, describeFrom, resolved, named]
  rfl

/-- The part is described as the image is and has its context, and it equals a part of another
image, whatever the types on that side. -/
theorem dispatch_through_owners_partSpecimens :
    (toEntities partRules).description (partSpecimens "left" (.declared 0) (.declared 1) 0) =
        pure "<image left>" ∧
      (toEntities partRules).sameContext
        (partSpecimens "left" (.declared 0) (.declared 1) 0) (imageSpecimen 0 "left") = true ∧
      (toEntities partRules).equal
        (partSpecimens "left" (.declared 0) (.declared 1) 0)
        (partSpecimens "right" .base (.declared 2) 0) = true := by
  obtain ⟨described, shared, compared⟩ :=
    EntityHierarchy.dispatch_through_owners (toEntities partRules) Specimen.owner?
      (partSpecimens_ownedInTurn "left" (.declared 0) (.declared 1))
  have description := (described <| forall_owned_level
    (toEntities_describesOwner (by decide +kernel))
    (toEntities_describesOwner (by decide +kernel))).2
  have context := (shared <| forall_owned_level
    (toEntities_sharesContextOfOwner (by decide +kernel))
    (toEntities_sharesContextOfOwner (by decide +kernel))).2.2
  have equality := compared
    (forall_owned_level
      (toEntities_comparesOwners (by decide +kernel))
      (toEntities_comparesOwners (by decide +kernel)))
    (partSpecimens "right" .base (.declared 2))
    (partSpecimens_ownedInTurn "right" .base (.declared 2))
  exact ⟨description.trans (EntityHierarchy.description_of_room imageSpecimen_formats (by decide)),
    context.trans (by decide +kernel),
    equality.trans (by decide +kernel)⟩

end RuleHierarchy

end BinaryImage
