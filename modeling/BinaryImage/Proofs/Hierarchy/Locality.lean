import BinaryImage.Proofs.Hierarchy.Composition
import BinaryImage.Proofs.Hierarchy.TreeOrder

/-!
# Locality of overrides

Two hierarchies may differ in what one slot of one type holds, and in nothing else. Main statement:
both have the same chains, and every other slot resolves alike in both. The slot itself resolves
alike for all types but those that no nearer override shields from the difference, and for these
it resolves as for the type that differs.
-/

namespace BinaryImage

variable {κ η δ : Type}

/-! ## Slots by kind -/

namespace SlotKind

/-- What a slot of a given kind holds. -/
def Content (κ η δ : Type) : SlotKind → Type
  | name => String
  | context => Behaviour κ
  | equality => Behaviour η
  | description => Behaviour δ

def content : (kind : SlotKind) → Slots κ η δ → Option (kind.Content κ η δ)
  | name => Slots.name
  | context => Slots.context
  | equality => Slots.equality
  | description => Slots.description

/-- What a type resolves a slot of a given kind to. -/
def resolve (hierarchy : Hierarchy κ η δ) (type : TypeId) :
    (kind : SlotKind) → kind.Content κ η δ
  | name => hierarchy.resolveName type
  | context => hierarchy.resolveContext type
  | equality => hierarchy.resolveEquality type
  | description => hierarchy.resolveDescription type

theorem resolve?_content (kind : SlotKind) (hierarchy : Hierarchy κ η δ) (type : TypeId) :
    hierarchy.resolve? kind.content type = some (kind.resolve hierarchy type) := by
  cases kind with
  | name => exact SlotView.name.resolve?_eq_some hierarchy type
  | context => exact SlotView.context.resolve?_eq_some hierarchy type
  | equality => exact SlotView.equality.resolve?_eq_some hierarchy type
  | description => exact SlotView.description.resolve?_eq_some hierarchy type

end SlotKind

namespace Hierarchy

/-! ## Ancestors that no nearer override shields from -/

/-- An ancestor of a type such that no nearer one fills the slot. -/
def Unshielded
    (hierarchy : Hierarchy κ η δ) (slot : SlotKind) (type ancestor : TypeId) : Prop :=
  ∃ nearer farther, hierarchy.ancestors type = nearer ++ ancestor :: farther ∧
    ∀ between ∈ nearer, slot.content (hierarchy.slots between) = none

theorem Unshielded.resolve_eq
    {hierarchy : Hierarchy κ η δ} {slot : SlotKind} {type ancestor : TypeId}
    (unshielded : hierarchy.Unshielded slot type ancestor) :
    slot.resolve hierarchy type = slot.resolve hierarchy ancestor := by
  obtain ⟨nearer, farther, split, empty⟩ := unshielded
  apply Option.some.inj
  rw [← slot.resolve?_content, ← slot.resolve?_content, resolve?, resolve?,
    ancestors_of_split split, split, List.findSome?_append,
    List.findSome?_eq_none_iff.mpr empty, Option.none_or]

/-! ## Slots left to the base type -/

/-- No type below the base type fills the slot, on the way up from a type. -/
def LeftToBase (hierarchy : Hierarchy κ η δ) (slot : SlotKind) (type : TypeId) : Prop :=
  ∀ ancestor ∈ hierarchy.ancestors type, ancestor ≠ .base →
    slot.content (hierarchy.slots ancestor) = none

instance (hierarchy : Hierarchy κ η δ) (slot : SlotKind) (type : TypeId) :
    Decidable (hierarchy.LeftToBase slot type) :=
  inferInstanceAs (Decidable (∀ ancestor ∈ _, _ → _))

theorem LeftToBase.unshielded
    {hierarchy : Hierarchy κ η δ} {slot : SlotKind} {type : TypeId}
    (left : hierarchy.LeftToBase slot type) : hierarchy.Unshielded slot type .base := by
  obtain ⟨nearer, split⟩ :=
    List.getLast?_eq_some_iff.mp (hierarchy.ancestors_getLast? type)
  refine ⟨nearer, [], split, ?_⟩
  intro between member
  refine left between ?_ (ne_of_mem_nearer split member)
  rw [split]
  exact List.mem_append_left _ member

theorem LeftToBase.resolve_eq
    {hierarchy : Hierarchy κ η δ} {slot : SlotKind} {type : TypeId}
    (left : hierarchy.LeftToBase slot type) :
    some (slot.resolve hierarchy type) = slot.content Slots.root := by
  rw [left.unshielded.resolve_eq, ← slot.resolve?_content, resolve?_base]

/-! ## Hierarchies that differ in one slot -/

/-- The same declarations, but for what one slot of one of them holds. -/
structure DifferOnlyIn
    (left right : Hierarchy κ η δ) (index : Nat) (slot : SlotKind) : Prop where
  elsewhere : ∀ other, other ≠ index → left.declaration other = right.declaration other
  parent : (left.declaration index).parent = (right.declaration index).parent
  slots : ∀ kind, kind ≠ slot →
    kind.content (left.declaration index).slots = kind.content (right.declaration index).slots

namespace DifferOnlyIn

variable {left right : Hierarchy κ η δ} {index : Nat} {slot : SlotKind}

theorem symm (differ : DifferOnlyIn left right index slot) :
    DifferOnlyIn right left index slot where
  elsewhere other apart := (differ.elsewhere other apart).symm
  parent := differ.parent.symm
  slots kind apart := (differ.slots kind apart).symm

theorem parent?_eq (differ : DifferOnlyIn left right index slot) (type : TypeId) :
    left.parent? type = right.parent? type := by
  cases type with
  | base => rfl
  | declared other =>
      by_cases same : other = index
      · rw [same, parent?, parent?, differ.parent]
      · rw [parent?, parent?, differ.elsewhere other same]

theorem ancestors_eq (differ : DifferOnlyIn left right index slot) (type : TypeId) :
    left.ancestors type = right.ancestors type :=
  ancestors_congr differ.parent?_eq type

theorem content_eq_of_ne
    (differ : DifferOnlyIn left right index slot) {type : TypeId}
    (apart : type ≠ .declared index) (kind : SlotKind) :
    kind.content (left.slots type) = kind.content (right.slots type) := by
  cases type with
  | base => rfl
  | declared other =>
      have elsewhere : other ≠ index := fun same => apart (congrArg TypeId.declared same)
      rw [Hierarchy.slots, Hierarchy.slots, differ.elsewhere other elsewhere]

theorem content_eq_of_kind
    (differ : DifferOnlyIn left right index slot) {kind : SlotKind} (apart : kind ≠ slot)
    (type : TypeId) :
    kind.content (left.slots type) = kind.content (right.slots type) := by
  by_cases same : type = .declared index
  · rw [same]
    exact differ.slots kind apart
  · exact differ.content_eq_of_ne same kind

theorem resolve_eq_of_kind
    (differ : DifferOnlyIn left right index slot) {kind : SlotKind} (apart : kind ≠ slot)
    (type : TypeId) :
    kind.resolve left type = kind.resolve right type := by
  have sameContent := funext (differ.content_eq_of_kind apart)
  apply Option.some.inj
  rw [← kind.resolve?_content, ← kind.resolve?_content, resolve?, resolve?,
    differ.ancestors_eq, sameContent]

/-- As a chain has no repetition, what is nearer than the type that differs does not differ. -/
theorem unshielded_right
    (differ : DifferOnlyIn left right index slot) {type : TypeId}
    (unshielded : left.Unshielded slot type (.declared index)) :
    right.Unshielded slot type (.declared index) := by
  obtain ⟨nearer, farther, split, empty⟩ := unshielded
  refine ⟨nearer, farther, (differ.ancestors_eq type).symm.trans split, ?_⟩
  intro between member
  rw [← differ.content_eq_of_ne (ne_of_mem_nearer split member)]
  exact empty between member

theorem unshielded_iff (differ : DifferOnlyIn left right index slot) (type : TypeId) :
    left.Unshielded slot type (.declared index) ↔
      right.Unshielded slot type (.declared index) :=
  ⟨differ.unshielded_right, differ.symm.unshielded_right⟩

/-- Where an override shields from the difference, the walk up the chain ends before it. -/
theorem resolve_eq_of_shielded
    (differ : DifferOnlyIn left right index slot) {type : TypeId}
    (shielded : ¬ left.Unshielded slot type (.declared index)) :
    slot.resolve left type = slot.resolve right type := by
  obtain ⟨nearer, supplier, farther, split, filled, empty⟩ :=
    (left.resolve?_eq_some_iff _).mp (slot.resolve?_content left type)
  have supplierApart : supplier ≠ .declared index := by
    intro same
    rw [same] at split
    exact shielded ⟨nearer, farther, split, empty⟩
  have nearerApart : ∀ between ∈ nearer, between ≠ .declared index := by
    intro between member same
    obtain ⟨before, after, cut⟩ := List.append_of_mem (same ▸ member)
    rw [cut, List.append_assoc] at split
    refine shielded ⟨before, after ++ supplier :: farther, split, ?_⟩
    intro nearest first
    exact empty nearest (cut ▸ List.mem_append_left _ first)
  have resolved : right.resolve? slot.content type = some (slot.resolve left type) := by
    refine (right.resolve?_eq_some_iff _).mpr
      ⟨nearer, supplier, farther, (differ.ancestors_eq type).symm.trans split, ?_, ?_⟩
    · rw [← differ.content_eq_of_ne supplierApart]
      exact filled
    · intro between member
      rw [← differ.content_eq_of_ne (nearerApart between member)]
      exact empty between member
  rw [slot.resolve?_content] at resolved
  exact (Option.some.inj resolved).symm

end DifferOnlyIn

/-- Hierarchies that differ in one slot of one type have the same chains, and resolve every other
slot alike. The slot resolves alike for each type unless it inherits from the type that differs and
no nearer ancestor fills the slot; if so, it resolves as for that type in each of the two. -/
theorem override_local
    {left right : Hierarchy κ η δ} {index : Nat} {slot : SlotKind}
    (differ : DifferOnlyIn left right index slot) (type : TypeId) :
    left.parent? type = right.parent? type ∧
      left.ancestors type = right.ancestors type ∧
      left.depth type = right.depth type ∧
      (∀ other, left.inheritsFrom type other = right.inheritsFrom type other) ∧
      (∀ kind, kind ≠ slot → kind.resolve left type = kind.resolve right type) ∧
      (left.Unshielded slot type (.declared index) ↔
        right.Unshielded slot type (.declared index)) ∧
      (¬ left.Unshielded slot type (.declared index) →
        slot.resolve left type = slot.resolve right type) ∧
      (left.Unshielded slot type (.declared index) →
        slot.resolve left type = slot.resolve left (.declared index) ∧
          slot.resolve right type = slot.resolve right (.declared index)) := by
  have chains := differ.ancestors_eq type
  refine ⟨differ.parent?_eq type, chains, ?_, ?_, ?_, differ.unshielded_iff type,
    differ.resolve_eq_of_shielded, ?_⟩
  · rw [depth, depth, chains]
  · intro other
    rw [inheritsFrom, inheritsFrom, chains]
  · intro kind apart
    exact differ.resolve_eq_of_kind apart type
  · intro unshielded
    exact ⟨unshielded.resolve_eq, (differ.unshielded_right unshielded).resolve_eq⟩

/-- A type with a given name, a child without a name, and a named child of that. -/
def labelledHierarchy (label : String) : Hierarchy Nat Nat Nat :=
  ((empty.declare (.build .base [.named label]) (Nat.zero_le _)).declare
    (.build (.declared 0) [.withContext 1]) (Nat.le_refl 1)).declare
      (.build (.declared 1) [.named "header"]) (Nat.le_refl 2)

theorem labelledHierarchy_differ (label other : String) :
    DifferOnlyIn (labelledHierarchy label) (labelledHierarchy other) 0 .name where
  elsewhere
    | 0, apart => absurd rfl apart
    | 1, _ => rfl
    | 2, _ => rfl
    | _ + 3, _ => rfl
  parent := rfl
  slots
    | .name, apart => absurd rfl apart
    | .context, _ => rfl
    | .equality, _ => rfl
    | .description, _ => rfl

theorem labelledHierarchy_resolveName (label : String) :
    (labelledHierarchy label).resolveName (.declared 0) = label := by
  rw [resolveName, resolve?_declared]
  rfl

/-- The child takes over the name that differs, and the named grandchild does not. -/
theorem override_local_labelledHierarchy :
    DifferOnlyIn (labelledHierarchy "image") (labelledHierarchy "slice") 0 .name ∧
      (labelledHierarchy "image").resolveName (.declared 1) = "image" ∧
      (labelledHierarchy "slice").resolveName (.declared 1) = "slice" ∧
      (labelledHierarchy "image").resolveName (.declared 2) =
        (labelledHierarchy "slice").resolveName (.declared 2) := by
  have differ := labelledHierarchy_differ "image" "slice"
  obtain ⟨_, _, _, _, _, _, _, taken⟩ := override_local differ (.declared 1)
  obtain ⟨_, _, _, _, _, _, kept, _⟩ := override_local differ (.declared 2)
  have exposed : (labelledHierarchy "image").Unshielded .name (.declared 1) (.declared 0) := by
    refine ⟨[.declared 1], [.base], by decide +kernel, ?_⟩
    intro between member
    rw [List.mem_singleton.mp member]
    rfl
  have shielded :
      ¬ (labelledHierarchy "image").Unshielded .name (.declared 2) (.declared 0) := by
    rintro ⟨nearer, farther, split, empty⟩
    have head := (labelledHierarchy "image").ancestors_head? (.declared 2)
    rw [split] at head
    cases nearer with
    | nil => cases head
    | cons nearest rest =>
        cases head
        exact nomatch empty (.declared 2) List.mem_cons_self
  obtain ⟨image, slice⟩ := taken exposed
  exact ⟨differ, image.trans (labelledHierarchy_resolveName "image"),
    slice.trans (labelledHierarchy_resolveName "slice"), kept shielded⟩

end Hierarchy

end BinaryImage
