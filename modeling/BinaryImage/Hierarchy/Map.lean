import BinaryImage.Hierarchy.Resolution

/-!
# Reinterpreting slots

What fills the slots of a hierarchy can be exchanged throughout. Parents, ancestors and names stay
as they are, and every slot resolves to the image of what it resolved to.
-/

namespace BinaryImage

variable {κ η δ κ' η' δ' : Type}

/-- The image of a declared behaviour; that of the base type stays. -/
def Behaviour.map {α β : Type} (view : α → β) : Behaviour α → Behaviour β
  | .root => .root
  | .custom behaviour => .custom (view behaviour)

def Slots.map (onContext : κ → κ') (onEquality : η → η') (onDescription : δ → δ')
    (slots : Slots κ η δ) : Slots κ' η' δ' where
  name := slots.name
  context := slots.context.map (Behaviour.map onContext)
  equality := slots.equality.map (Behaviour.map onEquality)
  description := slots.description.map (Behaviour.map onDescription)

def Declaration.map (onContext : κ → κ') (onEquality : η → η') (onDescription : δ → δ')
    (declaration : Declaration κ η δ) : Declaration κ' η' δ' :=
  ⟨declaration.parent, declaration.slots.map onContext onEquality onDescription⟩

namespace Hierarchy

def map (onContext : κ → κ') (onEquality : η → η') (onDescription : δ → δ')
    (hierarchy : Hierarchy κ η δ) : Hierarchy κ' η' δ' where
  declarations := hierarchy.declarations.map (Declaration.map onContext onEquality onDescription)
  parent_rank_le := by
    intro index declaration present
    rw [List.getElem?_map, Option.map_eq_some_iff] at present
    obtain ⟨before, found, equality⟩ := present
    rw [← equality]
    exact hierarchy.parent_rank_le index before found

variable (onContext : κ → κ') (onEquality : η → η') (onDescription : δ → δ')
  (hierarchy : Hierarchy κ η δ)

theorem map_declaration (index : Nat) :
    (hierarchy.map onContext onEquality onDescription).declaration index =
      (hierarchy.declaration index).map onContext onEquality onDescription := by
  rw [declaration, declaration, map, List.getElem?_map]
  cases hierarchy.declarations[index]? <;> rfl

theorem map_slots (type : TypeId) :
    (hierarchy.map onContext onEquality onDescription).slots type =
      (hierarchy.slots type).map onContext onEquality onDescription := by
  cases type with
  | base => rfl
  | declared index =>
      rw [slots, map_declaration]
      rfl

theorem map_ancestors (type : TypeId) :
    (hierarchy.map onContext onEquality onDescription).ancestors type =
      hierarchy.ancestors type := by
  fun_induction hierarchy.ancestors type with
  | case1 => exact ancestors_base _
  | case2 index inductionHypothesis =>
      rw [ancestors_declared, map_declaration]
      exact congrArg (TypeId.declared index :: ·) inductionHypothesis

theorem map_resolve? {α β : Type} (slot : Slots κ η δ → Option α)
    (slotImage : Slots κ' η' δ' → Option β) (view : α → β)
    (commutes : ∀ slots, slotImage (slots.map onContext onEquality onDescription) =
      (slot slots).map view) (type : TypeId) :
    (hierarchy.map onContext onEquality onDescription).resolve? slotImage type =
      (hierarchy.resolve? slot type).map view := by
  rw [resolve?, resolve?, map_ancestors]
  induction hierarchy.ancestors type with
  | nil => rfl
  | cons ancestor rest inductionHypothesis =>
      rw [List.findSome?_cons, List.findSome?_cons, map_slots, commutes]
      cases slot (hierarchy.slots ancestor) with
      | none => exact inductionHypothesis
      | some value => rfl

theorem map_resolveName (type : TypeId) :
    (hierarchy.map onContext onEquality onDescription).resolveName type =
      hierarchy.resolveName type := by
  rw [resolveName, map_resolve? _ _ _ _ Slots.name Slots.name id (by simp [Slots.map])]
  simp [resolveName]

theorem map_resolveContext (type : TypeId) :
    (hierarchy.map onContext onEquality onDescription).resolveContext type =
      (hierarchy.resolveContext type).map onContext := by
  rw [resolveContext, map_resolve? _ _ _ _ Slots.context Slots.context (Behaviour.map onContext)
    (fun _ => rfl), resolveContext]
  cases hierarchy.resolve? Slots.context type <;> rfl

theorem map_resolveEquality (type : TypeId) :
    (hierarchy.map onContext onEquality onDescription).resolveEquality type =
      (hierarchy.resolveEquality type).map onEquality := by
  rw [resolveEquality, map_resolve? _ _ _ _ Slots.equality Slots.equality
    (Behaviour.map onEquality) (fun _ => rfl), resolveEquality]
  cases hierarchy.resolve? Slots.equality type <;> rfl

theorem map_resolveDescription (type : TypeId) :
    (hierarchy.map onContext onEquality onDescription).resolveDescription type =
      (hierarchy.resolveDescription type).map onDescription := by
  rw [resolveDescription, map_resolve? _ _ _ _ Slots.description Slots.description
    (Behaviour.map onDescription) (fun _ => rfl), resolveDescription]
  cases hierarchy.resolve? Slots.description type <;> rfl

end Hierarchy

end BinaryImage
