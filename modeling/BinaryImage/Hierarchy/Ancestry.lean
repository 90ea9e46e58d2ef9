import BinaryImage.Hierarchy.Basic

/-!
# Ancestors

The ancestors of a type are the type itself, its parent, the parent of that, and so on up to the
base type.
-/

namespace BinaryImage.Hierarchy

variable {κ η δ : Type}

/-- A type and its ancestors, from itself up to the base type. -/
def ancestors (hierarchy : Hierarchy κ η δ) (type : TypeId) : List TypeId :=
  match type with
  | .base => [.base]
  | .declared index =>
    .declared index :: hierarchy.ancestors (hierarchy.declaration index).parent
termination_by type.rank
decreasing_by exact Nat.lt_succ_of_le (hierarchy.declaration_parent_rank_le index)

/-- Whether the second type is the first or one of its ancestors. -/
def inheritsFrom (hierarchy : Hierarchy κ η δ) (type other : TypeId) : Bool :=
  (hierarchy.ancestors type).any fun ancestor => ancestor == other

/-- How many links lie between a type and the base type. -/
def depth (hierarchy : Hierarchy κ η δ) (type : TypeId) : Nat :=
  (hierarchy.ancestors type).length - 1

theorem ancestors_base (hierarchy : Hierarchy κ η δ) : hierarchy.ancestors .base = [.base] := by
  rw [ancestors]

theorem ancestors_declared (hierarchy : Hierarchy κ η δ) (index : Nat) :
    hierarchy.ancestors (.declared index) =
      .declared index :: hierarchy.ancestors (hierarchy.declaration index).parent := by
  rw [ancestors]

theorem ancestors_of_parent {hierarchy : Hierarchy κ η δ} {type parent : TypeId}
    (child : hierarchy.parent? type = some parent) :
    hierarchy.ancestors type = type :: hierarchy.ancestors parent := by
  cases type with
  | base => simp [parent?] at child
  | declared index =>
      have equality : (hierarchy.declaration index).parent = parent := by
        simpa [parent?] using child
      rw [ancestors_declared, equality]

theorem ancestors_head? (hierarchy : Hierarchy κ η δ) (type : TypeId) :
    (hierarchy.ancestors type).head? = some type := by
  cases type with
  | base => rw [ancestors_base]; rfl
  | declared index => rw [ancestors_declared]; rfl

theorem ancestors_getLast? (hierarchy : Hierarchy κ η δ) (type : TypeId) :
    (hierarchy.ancestors type).getLast? = some .base := by
  fun_induction hierarchy.ancestors type with
  | case1 => rfl
  | case2 index inductionHypothesis =>
      rw [List.getLast?_cons, inductionHypothesis]
      rfl

/-- No type is an ancestor of one that was known before it. -/
theorem rank_le_of_mem_ancestors {hierarchy : Hierarchy κ η δ} {type ancestor : TypeId}
    (member : ancestor ∈ hierarchy.ancestors type) : ancestor.rank ≤ type.rank := by
  fun_induction hierarchy.ancestors type with
  | case1 => simp_all
  | case2 index inductionHypothesis =>
      rcases List.mem_cons.mp member with equality | above
      · exact equality ▸ Nat.le_refl _
      · have order := inductionHypothesis above
        have parentOrder := hierarchy.declaration_parent_rank_le index
        simp only [TypeId.rank] at *
        omega

end BinaryImage.Hierarchy
