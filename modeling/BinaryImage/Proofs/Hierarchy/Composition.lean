import BinaryImage.Hierarchy.Resolution

/-!
# Composition of slots

A type is declared by calls that fill slots, one after the other. Main statement: every slot of
such a type resolves to the argument of the last call for it, and to what its parent resolves the
slot to if there was none; so the order of calls for different slots does not matter.
-/

namespace BinaryImage

variable {κ η δ α : Type}

/-! ## The four slots -/

/-- A slot: what it holds, what a call puts into it, and what the base type does. -/
structure SlotView (κ η δ α : Type) where
  content : Slots κ η δ → Option α
  argument? : SlotCall κ η δ → Option α
  atRoot : α
  content_root : content Slots.root = some atRoot
  content_inherited : content Slots.inherited = none
  content_fill : ∀ (declaration : Declaration κ η δ) (call : SlotCall κ η δ),
    content (declaration.fill call).slots = (argument? call).or (content declaration.slots)

namespace SlotView

def name : SlotView κ η δ String where
  content := Slots.name
  argument?
    | .named name => some name
    | _ => none
  atRoot := ""
  content_root := rfl
  content_inherited := rfl
  content_fill _ call := by cases call <;> rfl

def context : SlotView κ η δ (Behaviour κ) where
  content := Slots.context
  argument?
    | .withContext behaviour => some (.custom behaviour)
    | _ => none
  atRoot := .root
  content_root := rfl
  content_inherited := rfl
  content_fill _ call := by cases call <;> rfl

def equality : SlotView κ η δ (Behaviour η) where
  content := Slots.equality
  argument?
    | .withEquality behaviour => some (.custom behaviour)
    | _ => none
  atRoot := .root
  content_root := rfl
  content_inherited := rfl
  content_fill _ call := by cases call <;> rfl

def description : SlotView κ η δ (Behaviour δ) where
  content := Slots.description
  argument?
    | .withDescription behaviour => some (.custom behaviour)
    | _ => none
  atRoot := .root
  content_root := rfl
  content_inherited := rfl
  content_fill _ call := by cases call <;> rfl

variable (view : SlotView κ η δ α)

/-- The argument of the last call for a slot. -/
def last? (calls : List (SlotCall κ η δ)) : Option α := calls.reverse.findSome? view.argument?

theorem last?_cons (call : SlotCall κ η δ) (calls : List (SlotCall κ η δ)) :
    view.last? (call :: calls) = (view.last? calls).or (view.argument? call) := by
  rw [last?, List.reverse_cons, List.findSome?_append, List.findSome?_singleton]
  rfl

theorem content_foldl_fill
    (calls : List (SlotCall κ η δ)) (declaration : Declaration κ η δ) :
    view.content (calls.foldl Declaration.fill declaration).slots =
      (view.last? calls).or (view.content declaration.slots) := by
  induction calls generalizing declaration with
  | nil => rfl
  | cons call rest inductionHypothesis =>
      rw [List.foldl_cons, inductionHypothesis, view.content_fill, last?_cons, Option.or_assoc]

/-- Of the calls for a slot, the last one decides; without one the slot is left empty. -/
theorem content_build (parent : TypeId) (calls : List (SlotCall κ η δ)) :
    view.content (Declaration.build parent calls).slots = view.last? calls := by
  rw [Declaration.build, content_foldl_fill, Declaration.subclass, view.content_inherited,
    Option.or_none]

/-- What a type does, where the base type settles what is settled by no other. -/
def resolve (hierarchy : Hierarchy κ η δ) (type : TypeId) : α :=
  (hierarchy.resolve? view.content type).getD view.atRoot

theorem resolve?_eq_some (hierarchy : Hierarchy κ η δ) (type : TypeId) :
    hierarchy.resolve? view.content type = some (view.resolve hierarchy type) := by
  have filled : (view.content Slots.root).isSome := by
    rw [view.content_root]
    rfl
  obtain ⟨value, resolved⟩ :=
    Option.isSome_iff_exists.mp (hierarchy.resolve?_isSome view.content filled type)
  rw [resolve, resolved, Option.getD_some]

theorem resolve_declared (hierarchy : Hierarchy κ η δ) (index : Nat) :
    view.resolve hierarchy (.declared index) =
      (view.content (hierarchy.declaration index).slots).getD
        (view.resolve hierarchy (hierarchy.declaration index).parent) := by
  rw [resolve, hierarchy.resolve?_declared, view.resolve?_eq_some]
  cases view.content (hierarchy.declaration index).slots <;> rfl

end SlotView

/-! ## Calls for different slots -/

inductive SlotKind where
  | name
  | context
  | equality
  | description
  deriving DecidableEq, Repr

def SlotCall.kind : SlotCall κ η δ → SlotKind
  | .named _ => .name
  | .withContext _ => .context
  | .withEquality _ => .equality
  | .withDescription _ => .description

namespace Declaration

theorem fill_comm
    (declaration : Declaration κ η δ) {first second : SlotCall κ η δ}
    (differ : first.kind ≠ second.kind) :
    (declaration.fill first).fill second = (declaration.fill second).fill first := by
  cases first <;> cases second <;> first | rfl | exact absurd rfl differ

theorem build_swap
    (parent : TypeId) (before after : List (SlotCall κ η δ)) {first second : SlotCall κ η δ}
    (differ : first.kind ≠ second.kind) :
    build parent (before ++ first :: second :: after) =
      build parent (before ++ second :: first :: after) := by
  rw [build, build, List.foldl_append, List.foldl_append, List.foldl_cons, List.foldl_cons,
    fill_comm _ differ, List.foldl_cons, List.foldl_cons]

end Declaration

/-! ## Types declared by calls -/

namespace Hierarchy

variable {hierarchy : Hierarchy κ η δ}

def declareBuilt
    (hierarchy : Hierarchy κ η δ) {parent : TypeId} (known : hierarchy.Knows parent)
    (calls : List (SlotCall κ η δ)) : Hierarchy κ η δ :=
  hierarchy.declare (.build parent calls) (by rw [Declaration.build_parent]; exact known)

theorem declaration_declareBuilt
    {parent : TypeId} (known : hierarchy.Knows parent) (calls : List (SlotCall κ η δ)) :
    (hierarchy.declareBuilt known calls).declaration hierarchy.size = .build parent calls :=
  declaration_declare_size _

theorem resolve_declareBuilt
    (view : SlotView κ η δ α) {parent : TypeId} (known : hierarchy.Knows parent)
    (calls : List (SlotCall κ η δ)) :
    view.resolve (hierarchy.declareBuilt known calls) (.declared hierarchy.size) =
      (view.last? calls).getD (view.resolve hierarchy parent) := by
  rw [view.resolve_declared, declaration_declareBuilt, view.content_build,
    Declaration.build_parent, SlotView.resolve, declareBuilt,
    hierarchy.resolve?_declare_of_knows view.content _ known]
  rfl

/-- Of a type that is declared by calls, every slot resolves to the argument of the last call for
it, also if that is the empty name, and to what the parent resolves it to if there is none. Calls
for different slots can be exchanged. No type of any hierarchy leaves a slot unsettled. -/
theorem declareBuilt_composes
    (hierarchy : Hierarchy κ η δ) {parent : TypeId} (known : hierarchy.Knows parent)
    (calls : List (SlotCall κ η δ)) :
    (hierarchy.declareBuilt known calls).parent? (.declared hierarchy.size) = some parent ∧
      (hierarchy.declareBuilt known calls).ownName (.declared hierarchy.size) =
        SlotView.name.last? calls ∧
      (hierarchy.declareBuilt known calls).resolveName (.declared hierarchy.size) =
        (SlotView.name.last? calls).getD (hierarchy.resolveName parent) ∧
      (hierarchy.declareBuilt known calls).resolveContext (.declared hierarchy.size) =
        (SlotView.context.last? calls).getD (hierarchy.resolveContext parent) ∧
      (hierarchy.declareBuilt known calls).resolveEquality (.declared hierarchy.size) =
        (SlotView.equality.last? calls).getD (hierarchy.resolveEquality parent) ∧
      (hierarchy.declareBuilt known calls).resolveDescription (.declared hierarchy.size) =
        (SlotView.description.last? calls).getD (hierarchy.resolveDescription parent) ∧
      (∀ before first second after,
        calls = before ++ first :: second :: after → first.kind ≠ second.kind →
        Declaration.build parent calls =
          .build parent (before ++ second :: first :: after)) ∧
      ∀ type,
        hierarchy.resolve? Slots.name type = some (hierarchy.resolveName type) ∧
        hierarchy.resolve? Slots.context type = some (hierarchy.resolveContext type) ∧
        hierarchy.resolve? Slots.equality type = some (hierarchy.resolveEquality type) ∧
        hierarchy.resolve? Slots.description type = some (hierarchy.resolveDescription type) := by
  have declared := declaration_declareBuilt known calls
  refine ⟨?_, ?_, resolve_declareBuilt .name known calls,
    resolve_declareBuilt .context known calls,
    resolve_declareBuilt .equality known calls,
    resolve_declareBuilt .description known calls, ?_, ?_⟩
  · rw [parent?, declared, Declaration.build_parent]
  · rw [ownName, slots, declared]
    exact SlotView.name.content_build parent calls
  · intro before first second after equality differ
    rw [equality]
    exact Declaration.build_swap parent before after differ
  · intro type
    exact ⟨SlotView.name.resolve?_eq_some hierarchy type,
      SlotView.context.resolve?_eq_some hierarchy type,
      SlotView.equality.resolve?_eq_some hierarchy type,
      SlotView.description.resolve?_eq_some hierarchy type⟩

def namedCalls : List (SlotCall Nat Nat Nat) := [.named "image", .withContext 1]

def namedHierarchy : Hierarchy Nat Nat Nat := empty.declareBuilt (knows_base empty) namedCalls

theorem namedHierarchy_knows : namedHierarchy.Knows (.declared 0) := by decide

def renamingCalls : List (SlotCall Nat Nat Nat) :=
  [.named "slice", .withEquality 2, .named "", .withEquality 3]

def renamedHierarchy : Hierarchy Nat Nat Nat :=
  namedHierarchy.declareBuilt namedHierarchy_knows renamingCalls

/-- The second name hides the first, and that of the parent; the context is the parent's. -/
theorem declareBuilt_composes_renamedHierarchy :
    namedHierarchy.Knows (.declared 0) ∧
      renamedHierarchy.resolveName (.declared 1) = "" ∧
      renamedHierarchy.resolveContext (.declared 1) = .custom 1 ∧
      renamedHierarchy.resolveEquality (.declared 1) = .custom 3 := by
  obtain ⟨_, _, _, parentContext, _⟩ :=
    declareBuilt_composes empty (knows_base empty) namedCalls
  obtain ⟨_, _, name, context, equality, _⟩ :=
    declareBuilt_composes namedHierarchy namedHierarchy_knows renamingCalls
  exact ⟨namedHierarchy_knows, name, context.trans parentContext, equality⟩

end Hierarchy

end BinaryImage
