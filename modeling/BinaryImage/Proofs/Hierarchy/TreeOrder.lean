import BinaryImage.Entity.Dispatch
import BinaryImage.Specimen.Basic

/-!
# Types as a rooted tree

What lies on the chain of a type has the rest of that chain for its own. So one type inherits from
another exactly when its chain ends with the other's, and what is known of the ends of a list
carries over. Main statement: inheritance is the order of a tree with the base type as its root,
and depths tell where on a chain an ancestor is found.
-/

namespace BinaryImage

/-- An order in which everything lies below a root, and what lies above one thing is in a row. -/
structure IsTreeOrder {α : Type} (root : α) (below : α → α → Prop) : Prop where
  refl : ∀ item, below item item
  trans : ∀ lower middle upper, below lower middle → below middle upper → below lower upper
  antisymm : ∀ left right, below left right → below right left → left = right
  below_root : ∀ item, below item root
  comparable : ∀ item left right,
    below item left → below item right → below left right ∨ below right left

namespace Hierarchy

variable {κ η δ : Type} {hierarchy : Hierarchy κ η δ} {type other : TypeId}

/-- A list of types that leads from a type to the base type along the links to parents, and meets
none of them twice. -/
structure LeadsToBase
    (hierarchy : Hierarchy κ η δ) (type : TypeId) (chain : List TypeId) : Prop where
  head : chain.head? = some type
  last : chain.getLast? = some .base
  links : ∀ position member,
    chain[position]? = some member → chain[position + 1]? = hierarchy.parent? member
  nodup : chain.Nodup

/-! ## Chains -/

theorem mem_ancestors_self (hierarchy : Hierarchy κ η δ) (type : TypeId) :
    type ∈ hierarchy.ancestors type :=
  List.mem_of_mem_head? (hierarchy.ancestors_head? type)

theorem ancestors_injective (same : hierarchy.ancestors type = hierarchy.ancestors other) :
    type = other := by
  have heads := congrArg List.head? same
  rw [ancestors_head?, ancestors_head?] at heads
  exact Option.some.inj heads

/-- Chains are made of links alone, whatever fills the slots. -/
theorem ancestors_congr
    {κ' η' δ' : Type} {right : Hierarchy κ' η' δ'}
    (links : ∀ type, hierarchy.parent? type = right.parent? type) (type : TypeId) :
    hierarchy.ancestors type = right.ancestors type := by
  fun_induction hierarchy.ancestors type with
  | case1 => exact (ancestors_base right).symm
  | case2 index inductionHypothesis =>
      have child := links (.declared index)
      rw [ancestors_of_parent child.symm, inductionHypothesis]

/-- From any of its members on, a chain is that member's own. -/
theorem ancestors_of_split
    {ancestor : TypeId} {nearer farther : List TypeId}
    (split : hierarchy.ancestors type = nearer ++ ancestor :: farther) :
    hierarchy.ancestors ancestor = ancestor :: farther := by
  induction nearer generalizing type with
  | nil =>
      have head := hierarchy.ancestors_head? type
      rw [split] at head
      have same : ancestor = type := Option.some.inj head
      rw [same] at split ⊢
      exact split
  | cons nearest rest inductionHypothesis =>
      cases type with
      | base =>
          rw [ancestors_base, List.cons_append, List.cons.injEq] at split
          exact absurd split.2.symm (by simp)
      | declared index =>
          rw [ancestors_declared, List.cons_append, List.cons.injEq] at split
          exact inductionHypothesis split.2

theorem ancestors_nodup (hierarchy : Hierarchy κ η δ) (type : TypeId) :
    (hierarchy.ancestors type).Nodup := by
  fun_induction hierarchy.ancestors type with
  | case1 => exact List.pairwise_singleton _ _
  | case2 index inductionHypothesis =>
      refine List.nodup_cons.mpr ⟨?_, inductionHypothesis⟩
      intro above
      have order : index + 1 ≤ (hierarchy.declaration index).parent.rank :=
        rank_le_of_mem_ancestors above
      have earlier := hierarchy.declaration_parent_rank_le index
      omega

theorem ne_of_mem_nearer
    {ancestor nearest : TypeId} {nearer farther : List TypeId}
    (split : hierarchy.ancestors type = nearer ++ ancestor :: farther)
    (member : nearest ∈ nearer) : nearest ≠ ancestor := by
  have nodup := hierarchy.ancestors_nodup type
  rw [split] at nodup
  exact (List.nodup_append.mp nodup).2.2 nearest member _ List.mem_cons_self

theorem getElem?_succ_ancestors
    {position : Nat} {member : TypeId}
    (found : (hierarchy.ancestors type)[position]? = some member) :
    (hierarchy.ancestors type)[position + 1]? = hierarchy.parent? member := by
  fun_induction hierarchy.ancestors type generalizing position with
  | case1 =>
      have same : TypeId.base = member := List.mem_singleton.mp (List.mem_of_getElem? found) |>.symm
      rw [← same]
      rfl
  | case2 index inductionHypothesis =>
      cases position with
      | zero =>
          have same : TypeId.declared index = member := Option.some.inj found
          rw [← same, List.getElem?_cons_succ, ← List.head?_eq_getElem?, ancestors_head?]
          rfl
      | succ position => exact inductionHypothesis found

theorem ancestors_leadsToBase (hierarchy : Hierarchy κ η δ) (type : TypeId) :
    hierarchy.LeadsToBase type (hierarchy.ancestors type) where
  head := hierarchy.ancestors_head? type
  last := hierarchy.ancestors_getLast? type
  links _ _ := getElem?_succ_ancestors
  nodup := hierarchy.ancestors_nodup type

theorem length_ancestors (hierarchy : Hierarchy κ η δ) (type : TypeId) :
    (hierarchy.ancestors type).length = hierarchy.depth type + 1 := by
  have positive := List.length_pos_of_mem (hierarchy.mem_ancestors_self type)
  rw [depth]
  omega

/-! ## Inheritance as a chain at the end of another -/

theorem inheritsFrom_iff_mem :
    hierarchy.inheritsFrom type other = true ↔ other ∈ hierarchy.ancestors type := by
  simp [inheritsFrom]

theorem inheritsFrom_iff_suffix :
    hierarchy.inheritsFrom type other = true ↔
      hierarchy.ancestors other <:+ hierarchy.ancestors type := by
  rw [inheritsFrom_iff_mem]
  constructor
  · intro member
    obtain ⟨nearer, farther, split⟩ := List.append_of_mem member
    exact ⟨nearer, by rw [ancestors_of_split split, split]⟩
  · intro suffix
    exact suffix.subset (hierarchy.mem_ancestors_self other)

theorem inheritsFrom_isTreeOrder (hierarchy : Hierarchy κ η δ) :
    IsTreeOrder .base fun type other => hierarchy.inheritsFrom type other = true where
  refl _ := inheritsFrom_iff_suffix.mpr List.suffix_rfl
  trans _ _ _ lower upper :=
    inheritsFrom_iff_suffix.mpr <|
      (inheritsFrom_iff_suffix.mp upper).trans (inheritsFrom_iff_suffix.mp lower)
  antisymm left right below above := by
    have shorter := inheritsFrom_iff_suffix.mp below
    have longer := inheritsFrom_iff_suffix.mp above
    exact (ancestors_injective (shorter.eq_of_length_le longer.length_le)).symm
  below_root type :=
    inheritsFrom_iff_mem.mpr (List.mem_of_getLast? (hierarchy.ancestors_getLast? type))
  comparable type left right first second := by
    rcases List.suffix_or_suffix_of_suffix (inheritsFrom_iff_suffix.mp first)
        (inheritsFrom_iff_suffix.mp second) with leftEnds | rightEnds
    · exact Or.inr (inheritsFrom_iff_suffix.mpr leftEnds)
    · exact Or.inl (inheritsFrom_iff_suffix.mpr rightEnds)

/-! ## Depths -/

theorem depth_le_of_inheritsFrom (inherits : hierarchy.inheritsFrom type other = true) :
    hierarchy.depth other ≤ hierarchy.depth type := by
  have order := (inheritsFrom_iff_suffix.mp inherits).length_le
  rw [length_ancestors, length_ancestors] at order
  omega

theorem eq_of_inheritsFrom_of_depth
    (inherits : hierarchy.inheritsFrom type other = true)
    (level : hierarchy.depth other = hierarchy.depth type) : other = type := by
  apply ancestors_injective
  apply (inheritsFrom_iff_suffix.mp inherits).eq_of_length
  rw [length_ancestors, length_ancestors, level]

/-- An ancestor lies as many links up the chain as it is less deep. -/
theorem getElem?_ancestors_of_inheritsFrom
    (inherits : hierarchy.inheritsFrom type other = true) :
    (hierarchy.ancestors type)[hierarchy.depth type - hierarchy.depth other]? = some other := by
  obtain ⟨nearer, split⟩ := inheritsFrom_iff_suffix.mp inherits
  have lengths := congrArg List.length split
  rw [List.length_append, length_ancestors, length_ancestors] at lengths
  have links : hierarchy.depth type - hierarchy.depth other = nearer.length := by omega
  rw [links, ← split, List.getElem?_append_right (Nat.le_refl _), Nat.sub_self,
    ← List.head?_eq_getElem?, ancestors_head?]

theorem inheritsFrom_iff_depth :
    hierarchy.inheritsFrom type other = true ↔
      hierarchy.depth other ≤ hierarchy.depth type ∧
        (hierarchy.ancestors type)[hierarchy.depth type - hierarchy.depth other]? =
          some other := by
  constructor
  · intro inherits
    exact ⟨depth_le_of_inheritsFrom inherits, getElem?_ancestors_of_inheritsFrom inherits⟩
  · rintro ⟨_, found⟩
    exact inheritsFrom_iff_mem.mpr (List.mem_of_getElem? found)

end Hierarchy

/-! ## Entities of a type -/

namespace EntityHierarchy

variable {ε : Type} [TypedEntity ε]

/-- To be exactly of a type is to be of its kind without lying deeper. -/
theorem isExactly_iff
    (hierarchy : EntityHierarchy ε) (entity : ε) (type : TypeId) :
    isExactly entity type = true ↔
      hierarchy.isKindOf entity type = true ∧
        hierarchy.depth type = hierarchy.depth (TypedEntity.type entity) := by
  rw [isExactly, beq_iff_eq]
  constructor
  · intro same
    rw [← same]
    exact ⟨hierarchy.inheritsFrom_isTreeOrder.refl _, rfl⟩
  · rintro ⟨kind, level⟩
    exact (Hierarchy.eq_of_inheritsFrom_of_depth kind level).symm

/-- The chain of every type leads to the base type by links alone and without repetition, and is
longer by one than the type is deep. Inheritance is the order of a tree with the base type as its
root; proper ancestors are less deep, and depths tell where on a chain an ancestor is found. An
entity is of a kind as its type inherits, and exactly of a type if neither is deeper. -/
theorem inheritance_rooted (hierarchy : EntityHierarchy ε) :
    (∀ type,
      hierarchy.LeadsToBase type (hierarchy.ancestors type) ∧
        (hierarchy.ancestors type).length = hierarchy.depth type + 1) ∧
      (∀ other : EntityHierarchy ε, (∀ type, hierarchy.parent? type = other.parent? type) →
        ∀ type, hierarchy.ancestors type = other.ancestors type) ∧
      IsTreeOrder .base (fun type other => hierarchy.inheritsFrom type other = true) ∧
      (∀ type other, hierarchy.inheritsFrom type other = true → other ≠ type →
        hierarchy.depth other < hierarchy.depth type) ∧
      (∀ type other,
        (hierarchy.inheritsFrom type other = true ↔ other ∈ hierarchy.ancestors type) ∧
        (hierarchy.inheritsFrom type other = true ↔
          hierarchy.depth other ≤ hierarchy.depth type ∧
            (hierarchy.ancestors type)[hierarchy.depth type - hierarchy.depth other]? =
              some other)) ∧
      ∀ (entity : ε) (type : TypeId),
        (hierarchy.isKindOf entity type =
          hierarchy.inheritsFrom (TypedEntity.type entity) type) ∧
        (isExactly entity type = true ↔
          hierarchy.isKindOf entity type = true ∧
            hierarchy.depth type = hierarchy.depth (TypedEntity.type entity)) := by
  refine ⟨?_, ?_, hierarchy.inheritsFrom_isTreeOrder, ?_, ?_, ?_⟩
  · intro type
    exact ⟨hierarchy.ancestors_leadsToBase type, hierarchy.length_ancestors type⟩
  · intro other links
    exact Hierarchy.ancestors_congr links
  · intro type other inherits proper
    have order := Hierarchy.depth_le_of_inheritsFrom inherits
    apply Nat.lt_of_le_of_ne order
    intro level
    exact proper (Hierarchy.eq_of_inheritsFrom_of_depth inherits level)
  · intro type other
    exact ⟨Hierarchy.inheritsFrom_iff_mem, Hierarchy.inheritsFrom_iff_depth⟩
  · intro entity type
    exact ⟨rfl, hierarchy.isExactly_iff entity type⟩

/-- Two types that are declared alike, and a child of the second. -/
def twinHierarchy : EntityHierarchy Specimen :=
  ((Hierarchy.empty.declare (.build .base [.named "twin"]) (by decide)).declare
    (.build .base [.named "twin"]) (by decide)).declare (.build (.declared 1) []) (by decide)

theorem inheritance_rooted_twinHierarchy :
    twinHierarchy.declaration 0 = twinHierarchy.declaration 1 ∧
      twinHierarchy.isKindOf (Specimen.leaf 0 (.declared 2)) (.declared 1) = true ∧
      ¬ twinHierarchy.isKindOf (Specimen.leaf 0 (.declared 2)) (.declared 0) = true := by
  obtain ⟨_, _, _, _, position, _⟩ := inheritance_rooted twinHierarchy
  refine ⟨rfl, (position (.declared 2) (.declared 1)).2.mpr (by decide +kernel), ?_⟩
  intro inherits
  have found := ((position (.declared 2) (.declared 0)).2.mp inherits).2
  exact absurd found (by decide +kernel)

end EntityHierarchy

end BinaryImage
