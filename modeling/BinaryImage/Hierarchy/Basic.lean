/-!
# Type hierarchies

Every type but the base type is declared as a child of an earlier one. A declaration may fill
four slots: a name, a way to find the diagnostic context of an entity, an equality and a
description. The base type fills all of them with its own behaviour. What fills the last three is
left open here; a slot only tells the base type's behaviour from a declared one.
-/

namespace BinaryImage

/-- The identity of a type: the base type, or the declaration at an index. -/
inductive TypeId where
  | base
  | declared (index : Nat)
  deriving DecidableEq, Repr, Inhabited

/-- How many declarations come before a type is known. -/
def TypeId.rank : TypeId → Nat
  | base => 0
  | declared index => index + 1

/-- What fills a slot: the behaviour of the base type, or a declared one. -/
inductive Behaviour (α : Type) where
  | root
  | custom (behaviour : α)
  deriving DecidableEq, Repr

/-- The slots of a type. An empty slot is inherited. -/
structure Slots (κ η δ : Type) where
  name : Option String
  context : Option (Behaviour κ)
  equality : Option (Behaviour η)
  description : Option (Behaviour δ)

namespace Slots

variable {κ η δ : Type}

def inherited : Slots κ η δ := ⟨none, none, none, none⟩

def root : Slots κ η δ := ⟨some "", some .root, some .root, some .root⟩

end Slots

/-- A type as it is declared: its parent, and the slots it fills itself. -/
structure Declaration (κ η δ : Type) where
  parent : TypeId
  slots : Slots κ η δ

inductive SlotCall (κ η δ : Type) where
  | named (name : String)
  | withContext (behaviour : κ)
  | withEquality (behaviour : η)
  | withDescription (behaviour : δ)
  deriving DecidableEq, Repr

namespace Declaration

variable {κ η δ : Type}

def subclass (parent : TypeId) : Declaration κ η δ := ⟨parent, Slots.inherited⟩

def fill (declaration : Declaration κ η δ) : SlotCall κ η δ → Declaration κ η δ
  | .named name => { declaration with slots.name := some name }
  | .withContext behaviour => { declaration with slots.context := some (.custom behaviour) }
  | .withEquality behaviour => { declaration with slots.equality := some (.custom behaviour) }
  | .withDescription behaviour =>
    { declaration with slots.description := some (.custom behaviour) }

/-- A type declared by filling slots one after the other. -/
def build (parent : TypeId) (calls : List (SlotCall κ η δ)) : Declaration κ η δ :=
  calls.foldl fill (subclass parent)

theorem fill_parent (declaration : Declaration κ η δ) (call : SlotCall κ η δ) :
    (declaration.fill call).parent = declaration.parent := by
  cases call <;> rfl

theorem build_parent (parent : TypeId) (calls : List (SlotCall κ η δ)) :
    (build parent calls).parent = parent := by
  suffices kept : ∀ declaration : Declaration κ η δ,
      (calls.foldl fill declaration).parent = declaration.parent from kept (subclass parent)
  induction calls with
  | nil => exact fun _ => rfl
  | cons call rest inductionHypothesis =>
      intro declaration
      rw [List.foldl_cons, inductionHypothesis, fill_parent]

end Declaration

/-- A sequence of declarations in which every parent comes before its children. -/
structure Hierarchy (κ η δ : Type) where
  declarations : List (Declaration κ η δ)
  parent_rank_le : ∀ (index : Nat) (declaration : Declaration κ η δ),
    declarations[index]? = some declaration → declaration.parent.rank ≤ index

namespace Hierarchy

variable {κ η δ : Type}

def empty : Hierarchy κ η δ := ⟨[], by simp⟩

def size (hierarchy : Hierarchy κ η δ) : Nat := hierarchy.declarations.length

def declare (hierarchy : Hierarchy κ η δ) (declaration : Declaration κ η δ)
    (known : declaration.parent.rank ≤ hierarchy.size) : Hierarchy κ η δ where
  declarations := hierarchy.declarations ++ [declaration]
  parent_rank_le := by
    intro index found present
    by_cases earlier : index < hierarchy.declarations.length
    · rw [List.getElem?_append_left earlier] at present
      exact hierarchy.parent_rank_le index found present
    · rw [List.getElem?_append_right (by omega)] at present
      have last : index - hierarchy.declarations.length = 0 ∧ declaration = found := by
        simpa [List.getElem?_singleton] using present
      rw [← last.2]
      exact Nat.le_trans known (by simp only [size]; omega)

/-- Declares types in order; there is no hierarchy if a parent is not yet known. -/
def ofDeclarations? (declarations : List (Declaration κ η δ)) : Option (Hierarchy κ η δ) :=
  declarations.foldlM
    (fun hierarchy declaration =>
      if known : declaration.parent.rank ≤ hierarchy.size then
        some (hierarchy.declare declaration known)
      else none)
    empty

/-- Whether a type is the base type or declared. -/
def Knows (hierarchy : Hierarchy κ η δ) (type : TypeId) : Prop := type.rank ≤ hierarchy.size

instance (hierarchy : Hierarchy κ η δ) (type : TypeId) : Decidable (hierarchy.Knows type) :=
  inferInstanceAs (Decidable (_ ≤ _))

/-- The declaration at an index. What is not declared counts as an empty child of the base type. -/
def declaration (hierarchy : Hierarchy κ η δ) (index : Nat) : Declaration κ η δ :=
  hierarchy.declarations[index]?.getD (.subclass .base)

/-- The parent of a type; only the base type has none. -/
def parent? (hierarchy : Hierarchy κ η δ) : TypeId → Option TypeId
  | .base => none
  | .declared index => some (hierarchy.declaration index).parent

def slots (hierarchy : Hierarchy κ η δ) : TypeId → Slots κ η δ
  | .base => Slots.root
  | .declared index => (hierarchy.declaration index).slots

def ownName (hierarchy : Hierarchy κ η δ) (type : TypeId) : Option String :=
  (hierarchy.slots type).name

theorem declaration_parent_rank_le (hierarchy : Hierarchy κ η δ) (index : Nat) :
    (hierarchy.declaration index).parent.rank ≤ index := by
  rw [declaration]
  cases present : hierarchy.declarations[index]? with
  | none => exact Nat.zero_le index
  | some found => exact hierarchy.parent_rank_le index found present

/-! ## One more declaration -/

variable {hierarchy : Hierarchy κ η δ}

theorem declaration_declare_of_lt
    {declaration : Declaration κ η δ} (known : declaration.parent.rank ≤ hierarchy.size)
    {index : Nat} (earlier : index < hierarchy.size) :
    (hierarchy.declare declaration known).declaration index = hierarchy.declaration index := by
  rw [Hierarchy.declaration, declare, List.getElem?_append_left earlier]
  rfl

theorem declaration_declare_size
    {declaration : Declaration κ η δ} (known : declaration.parent.rank ≤ hierarchy.size) :
    (hierarchy.declare declaration known).declaration hierarchy.size = declaration := by
  rw [Hierarchy.declaration, declare, size, List.getElem?_concat_length]
  rfl

theorem knows_base (hierarchy : Hierarchy κ η δ) : hierarchy.Knows .base := Nat.zero_le _

theorem Knows.parent {index : Nat} (known : hierarchy.Knows (.declared index)) :
    hierarchy.Knows (hierarchy.declaration index).parent := by
  have order := hierarchy.declaration_parent_rank_le index
  exact Nat.le_trans order (Nat.le_of_succ_le known)

end Hierarchy

end BinaryImage
