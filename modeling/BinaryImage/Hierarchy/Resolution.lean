import BinaryImage.Hierarchy.Ancestry
import BinaryImage.Text.Layout
import BinaryImage.Text.Quoted

/-!
# Slot resolution

A slot of a type is resolved by the nearest ancestor that fills it. As the base type fills every
slot, there always is one.
-/

namespace BinaryImage.Hierarchy

variable {κ η δ : Type}

/-- What the nearest ancestor that fills a slot fills it with. -/
def resolve? {α : Type} (hierarchy : Hierarchy κ η δ) (slot : Slots κ η δ → Option α)
    (type : TypeId) : Option α :=
  (hierarchy.ancestors type).findSome? fun ancestor => slot (hierarchy.slots ancestor)

/-- The name of a type. A declared name hides those of all ancestors, even if it is empty. -/
def resolveName (hierarchy : Hierarchy κ η δ) (type : TypeId) : String :=
  (hierarchy.resolve? Slots.name type).getD ""

def resolveContext (hierarchy : Hierarchy κ η δ) (type : TypeId) : Behaviour κ :=
  (hierarchy.resolve? Slots.context type).getD .root

def resolveEquality (hierarchy : Hierarchy κ η δ) (type : TypeId) : Behaviour η :=
  (hierarchy.resolve? Slots.equality type).getD .root

def resolveDescription (hierarchy : Hierarchy κ η δ) (type : TypeId) : Behaviour δ :=
  (hierarchy.resolve? Slots.description type).getD .root

/-- The layout of a type for diagnosis: its own name, that of its parent, and the slots it fills. -/
def layout (hierarchy : Hierarchy κ η δ) (type : TypeId) : Text.Layout :=
  let slots := hierarchy.slots type
  let nameLayout (name : Option String) : Text.Layout :=
    .optional (name.map fun text => .atom (Text.quoted text))
  .record "TypeDescriptor"
    [("name", nameLayout slots.name),
      ("parent",
        .optional ((hierarchy.parent? type).map fun parent => nameLayout (hierarchy.ownName parent))),
      ("get_context", .bool slots.context.isSome),
      ("equal", .bool slots.equality.isSome),
      ("describe", .bool slots.description.isSome)]

variable {α : Type} (hierarchy : Hierarchy κ η δ) (slot : Slots κ η δ → Option α)

theorem resolve?_base : hierarchy.resolve? slot .base = slot Slots.root := by
  rw [resolve?, ancestors_base, List.findSome?_singleton]
  rfl

/-- A type that leaves a slot empty takes over what its parent resolves it to. -/
theorem resolve?_declared (index : Nat) :
    hierarchy.resolve? slot (.declared index) =
      (slot (hierarchy.declaration index).slots <|>
        hierarchy.resolve? slot (hierarchy.declaration index).parent) := by
  rw [resolve?, ancestors_declared, List.findSome?_cons]
  change (match slot (hierarchy.declaration index).slots with
    | some value => some value
    | none => hierarchy.resolve? slot (hierarchy.declaration index).parent) = _
  cases slot (hierarchy.declaration index).slots <;> rfl

/-- The ancestor that resolves a slot fills it, and all nearer ones leave it empty. -/
theorem resolve?_eq_some_iff {type : TypeId} {value : α} :
    hierarchy.resolve? slot type = some value ↔
      ∃ nearer supplier farther, hierarchy.ancestors type = nearer ++ supplier :: farther ∧
        slot (hierarchy.slots supplier) = some value ∧
          ∀ ancestor ∈ nearer, slot (hierarchy.slots ancestor) = none :=
  List.findSome?_eq_some_iff

theorem resolve?_isSome (filled : (slot Slots.root).isSome) (type : TypeId) :
    (hierarchy.resolve? slot type).isSome := by
  rw [resolve?, List.findSome?_isSome_iff]
  exact ⟨.base, List.mem_of_getLast? (hierarchy.ancestors_getLast? type), filled⟩

/-- A further declaration does not change what known types resolve a slot to. -/
theorem resolve?_declare_of_knows
    {declaration : Declaration κ η δ} (allowed : declaration.parent.rank ≤ hierarchy.size)
    {type : TypeId} (known : hierarchy.Knows type) :
    (hierarchy.declare declaration allowed).resolve? slot type = hierarchy.resolve? slot type := by
  -- Along the ancestors of a known type, all types are known.
  fun_induction hierarchy.ancestors type with
  | case1 => rw [resolve?_base, resolve?_base]
  | case2 index inductionHypothesis =>
      rw [resolve?_declared, resolve?_declared, declaration_declare_of_lt allowed known,
        inductionHypothesis known.parent]

end BinaryImage.Hierarchy
