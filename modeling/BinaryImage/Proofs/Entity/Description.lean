import BinaryImage.Entity.Dispatch
import BinaryImage.Proofs.Text.BoundedRun
import BinaryImage.Specimen.Basic

/-!
# Descriptions of exact size

The type that describes an entity is the nearest of its ancestors that fills the slot for
descriptions. Main statement: if what fills it there formats one text, whatever the buffer, then
the length announced for an empty buffer, and a terminator, are just enough for the whole text;
and if a buffer may have that many bytes, the entity is described and shown by that text, neither
cut nor with the terminator in it.
-/

namespace BinaryImage

open Checked Text

variable {ε : Type}

/-! ## Slots that format one text -/

/-- A slot that formats a text, in some pieces, of which the text is the bytes before a failure. -/
def DescriptionSlot.Formats (slot : DescriptionSlot ε) (entity : ε) (content : String) : Prop :=
  ∀ buffer, ∃ pieces, Piece.bytes pieces = Utf8.bytes content ∧
    slot entity buffer = formatBounded buffer pieces

namespace DescriptionSlot.Formats

variable {slot : DescriptionSlot ε} {entity : ε} {content : String}

theorem eq_pure
    (formats : Formats slot entity content)
    (counted : (Utf8.bytes content).length < UInt64.size) (buffer : List UInt8) :
    slot entity buffer = pure (.ofText buffer (Utf8.bytes content)) := by
  obtain ⟨pieces, text, equality⟩ := formats buffer
  rw [equality, formatBounded_of_counted (by rwa [text]), text]

theorem eq_fault
    (formats : Formats slot entity content)
    (uncounted : UInt64.size ≤ (Utf8.bytes content).length) (buffer : List UInt8) :
    slot entity buffer = fault := by
  obtain ⟨pieces, text, equality⟩ := formats buffer
  rw [equality, formatBounded_of_uncounted (by rwa [text])]

end DescriptionSlot.Formats

namespace EntityHierarchy

variable [TypedEntity ε] {hierarchy : EntityHierarchy ε} {entity : ε} {content : String}

/-! ## The slot of an entity -/

def rootDescriptionSlot (hierarchy : EntityHierarchy ε) : DescriptionSlot ε := fun entity buffer =>
  formatBounded buffer
    (rootDescription (hierarchy.nameOf entity) (TypedEntity.shownAddress entity))

theorem copyDescription_of_resolved
    {slot : DescriptionSlot ε}
    (resolved : (hierarchy.resolveDescription (TypedEntity.type entity)).orRoot
      hierarchy.rootDescriptionSlot = slot) :
    hierarchy.copyDescription entity = slot entity := by
  rw [← resolved]
  rfl

theorem copyDescription_of_nearest
    {nearer farther : List TypeId} {supplier : TypeId} {behaviour : Behaviour (DescriptionSlot ε)}
    (chain : hierarchy.ancestors (TypedEntity.type entity) = nearer ++ supplier :: farther)
    (inherited : ∀ ancestor ∈ nearer, (hierarchy.slots ancestor).description = none)
    (supplied : (hierarchy.slots supplier).description = some behaviour) :
    hierarchy.copyDescription entity = behaviour.orRoot hierarchy.rootDescriptionSlot entity := by
  have resolved : hierarchy.resolve? Slots.description (TypedEntity.type entity) =
      some behaviour :=
    (hierarchy.resolve?_eq_some_iff Slots.description).mpr
      ⟨nearer, supplier, farther, chain, supplied, inherited⟩
  apply copyDescription_of_resolved
  rw [Hierarchy.resolveDescription, resolved, Option.getD_some]

/-! ## Two passes -/

/-- A description whose passes succeed, the second in a buffer that is one byte longer than the
first pass announced. -/
theorem description_of_passes
    {announced written : Written}
    (preflight : (hierarchy.copyDescription entity []).result = .ok announced)
    (room : announced.length.toNat < allocationLimit)
    (filled : (hierarchy.copyDescription entity
      (List.replicate (announced.length.toNat + 1) 0)).result = .ok written) :
    hierarchy.description entity =
      ⟨(readText (written.buffer.take
          (min written.length.toNat announced.length.toNat))).result,
        (hierarchy.copyDescription entity []).trace ++
          (hierarchy.copyDescription entity
            (List.replicate (announced.length.toNat + 1) 0)).trace⟩ := by
  have inRange : announced.length.toNat + (1 : UInt64).toNat < UInt64.size :=
    Nat.lt_of_le_of_lt room (by decide)
  have capacity : (announced.length + 1).toNat = announced.length.toNat + 1 :=
    toNat_add_of_lt inRange
  have allocatable : (announced.length + 1).toNat ≤ allocationLimit := by
    rw [capacity]
    exact room
  rw [description, bind_of_ok _ preflight, exactAdd_eq_pure inRange, pure_bind,
    allocate_eq_pure allocatable, pure_bind, capacity, bind_of_ok _ filled]
  simp only [readText_trace, List.append_nil]

/-- What a first pass announces, and a terminator, may be more than a buffer can have. -/
theorem description_of_beyond
    {announced : Written}
    (preflight : (hierarchy.copyDescription entity []).result = .ok announced)
    (beyond : allocationLimit ≤ announced.length.toNat) :
    hierarchy.description entity =
      ⟨(fault : Checked String).result, (hierarchy.copyDescription entity []).trace⟩ := by
  rw [description, bind_of_ok _ preflight]
  by_cases inRange : announced.length.toNat + (1 : UInt64).toNat < UInt64.size
  · have capacity : (announced.length + 1).toNat = announced.length.toNat + 1 :=
      toNat_add_of_lt inRange
    have tooMany : allocationLimit < (announced.length + 1).toNat := by
      rw [capacity]
      exact Nat.lt_succ_of_le beyond
    rw [exactAdd_eq_pure inRange, pure_bind, allocate_eq_fault tooMany, fault_bind, fault_trace,
      List.append_nil]
  · rw [exactAdd_eq_fault (Nat.le_of_not_lt inRange), fault_bind, fault_trace, List.append_nil]

/-- The second pass has the place for the whole text, and nothing but the text is read from it. -/
theorem description_of_room
    (formats : DescriptionSlot.Formats hierarchy.copyDescription entity content)
    (room : (Utf8.bytes content).length < allocationLimit) :
    hierarchy.description entity = pure content := by
  have counted : (Utf8.bytes content).length < UInt64.size :=
    Nat.lt_trans room (by decide)
  have announced := Written.toNat_length_ofText counted []
  have preflight := formats.eq_pure counted []
  have filled := formats.eq_pure counted
    (List.replicate ((Utf8.bytes content).length + 1) 0)
  have confirmed := Written.toNat_length_ofText counted
    (List.replicate ((Utf8.bytes content).length + 1) 0)
  have fits : (Utf8.bytes content).length <
      (List.replicate ((Utf8.bytes content).length + 1) (0 : UInt8)).length := by
    rw [List.length_replicate]
    exact Nat.lt_succ_self _
  have place : (Written.ofText (List.replicate ((Utf8.bytes content).length + 1) 0)
      (Utf8.bytes content)).buffer = Utf8.bytes content ++ 0 :: _ :=
    imprint_of_fits fits
  have second : (hierarchy.copyDescription entity (List.replicate
      ((Written.ofText [] (Utf8.bytes content)).length.toNat + 1) 0)).result =
        .ok (.ofText (List.replicate ((Utf8.bytes content).length + 1) 0)
          (Utf8.bytes content)) := by
    rw [announced, filled, pure_result]
  have passes := description_of_passes (congrArg Checked.result preflight) (by rwa [announced])
    second
  rw [announced, preflight, filled, confirmed, place, Nat.min_self, List.take_left,
    readText_bytes (Nat.le_of_lt room)] at passes
  exact passes

/-- An entity is described by its one text, or not at all where no buffer has the place for it. -/
theorem description_of_formats
    (formats : DescriptionSlot.Formats hierarchy.copyDescription entity content) :
    hierarchy.description entity =
      if (Utf8.bytes content).length + 1 ≤ allocationLimit then pure content else fault := by
  split
  · rename_i room
    exact description_of_room formats room
  · rename_i beyond
    by_cases counted : (Utf8.bytes content).length < UInt64.size
    · have preflight := formats.eq_pure counted []
      have announced := Written.toNat_length_ofText counted []
      rw [description_of_beyond (congrArg Checked.result preflight)
        (by rw [announced]; exact Nat.le_of_not_lt beyond), preflight]
      rfl
    · rw [description, formats.eq_fault (Nat.le_of_not_lt counted), fault_bind]

/-- If the nearest ancestor that describes an entity formats one text, of which the length is a
word, every buffer is answered with this length; one that has place for the text and a terminator
starts with both, and a smaller one holds as much of the text as fits before a terminator. If a
buffer may have place for both, the entity is described and shown by exactly that text. -/
theorem description_exact
    {nearer farther : List TypeId} {supplier : TypeId} {behaviour : Behaviour (DescriptionSlot ε)}
    (chain : hierarchy.ancestors (TypedEntity.type entity) = nearer ++ supplier :: farther)
    (inherited : ∀ ancestor ∈ nearer, (hierarchy.slots ancestor).description = none)
    (supplied : (hierarchy.slots supplier).description = some behaviour)
    (formats : DescriptionSlot.Formats (behaviour.orRoot hierarchy.rootDescriptionSlot)
      entity content)
    (counted : (Utf8.bytes content).length < UInt64.size) :
    (∀ buffer : List UInt8, ∃ written,
      hierarchy.copyDescription entity buffer = pure written ∧
      written.length.toNat = (Utf8.bytes content).length ∧
      written.buffer.length = buffer.length ∧
      ((Utf8.bytes content).length + 1 ≤ buffer.length →
        Utf8.bytes content ++ [0] <+: written.buffer) ∧
      (0 < buffer.length → buffer.length < (Utf8.bytes content).length + 1 →
        written.buffer = (Utf8.bytes content).take (buffer.length - 1) ++ [0])) ∧
    ((Utf8.bytes content).length + 1 ≤ allocationLimit →
      hierarchy.description entity = pure content ∧
      hierarchy.text entity = pure content ∧
      ∃ layout, hierarchy.layout entity = pure layout ∧
        layout.line = content ∧ layout.blockText = content) := by
  have copied := copyDescription_of_nearest chain inherited supplied
  have formatsCopied : DescriptionSlot.Formats hierarchy.copyDescription entity content := by
    intro buffer
    rw [copied]
    exact formats buffer
  constructor
  · intro buffer
    refine ⟨_, formatsCopied.eq_pure counted buffer, Written.toNat_length_ofText counted buffer,
      length_imprint buffer _, ?_, ?_⟩
    · intro fits
      rw [Written.ofText, imprint_of_fits fits]
      exact ⟨_, (List.append_cons (Utf8.bytes content) 0 _).symm⟩
    · intro positive overflows
      exact imprint_of_overflows (List.ne_nil_of_length_pos positive)
        (Nat.le_of_lt_succ overflows)
  · intro room
    have described := description_of_room formatsCopied room
    refine ⟨described, described, .verbatim content, ?_, rfl, Layout.blockText_verbatim content⟩
    rw [layout, described, map_pure]

/-- Writes a letter of two bytes, a character that is also the terminator, and a mark. -/
def markSlot : DescriptionSlot Specimen := fun _ buffer =>
  formatBounded buffer [.text "é", .text "\x00!"]

def markedHierarchy : EntityHierarchy Specimen :=
  (Hierarchy.empty.declare (.build .base [.withDescription markSlot]) (by decide)).declare
    (.build (.declared 0) [.named "child"]) (by decide)

theorem leaf_ancestors :
    markedHierarchy.ancestors (TypedEntity.type (Specimen.leaf 0 (.declared 1))) =
      [.declared 1] ++ .declared 0 :: [.base] := by
  change markedHierarchy.ancestors (.declared 1) = _
  rw [Hierarchy.ancestors_declared]
  change _ :: markedHierarchy.ancestors (.declared 0) = _
  rw [Hierarchy.ancestors_declared]
  change _ :: _ :: markedHierarchy.ancestors .base = _
  rw [Hierarchy.ancestors_base]
  rfl

/-- Four bytes are announced, and a buffer of three holds the letter and the terminator. -/
theorem description_exact_markedHierarchy :
    (∃ written, markedHierarchy.copyDescription (Specimen.leaf 0 (.declared 1)) [] = pure written ∧
      written.length.toNat = 4) ∧
      (∃ written,
        markedHierarchy.copyDescription (Specimen.leaf 0 (.declared 1)) [7, 7, 7] =
          pure written ∧ written.buffer = [0xc3, 0xa9, 0]) ∧
      markedHierarchy.description (Specimen.leaf 0 (.declared 1)) = pure "é\x00!" := by
  have inherited : ∀ ancestor ∈ [TypeId.declared 1],
      (markedHierarchy.slots ancestor).description = none := by
    intro ancestor member
    rw [List.mem_singleton.mp member]
    rfl
  have formats : DescriptionSlot.Formats markSlot (Specimen.leaf 0 (.declared 1)) "é\x00!" :=
    fun buffer => ⟨_, by decide, rfl⟩
  obtain ⟨copies, described⟩ :=
    description_exact leaf_ancestors inherited rfl formats (by decide)
  obtain ⟨whole, preflight, announced, _⟩ := copies []
  obtain ⟨part, filled, _, _, _, cut⟩ := copies [7, 7, 7]
  exact ⟨⟨whole, preflight, announced⟩, ⟨part, filled, cut (by decide) (by decide)⟩,
    (described (by decide)).1⟩

/-- A type whose entities are described by a slot of their own. -/
def slotHierarchy (slot : DescriptionSlot Specimen) : EntityHierarchy Specimen :=
  Hierarchy.empty.declare (.build .base [.withDescription slot]) (Nat.zero_le 0)

theorem resolveDescription_slotHierarchy (slot : DescriptionSlot Specimen) :
    ((slotHierarchy slot).resolveDescription
      (TypedEntity.type (Specimen.leaf 0 (.declared 0)))).orRoot
      (slotHierarchy slot).rootDescriptionSlot = slot := by
  change ((slotHierarchy slot).resolveDescription (.declared 0)).orRoot _ = _
  rw [Hierarchy.resolveDescription, Hierarchy.resolve?_declared]
  rfl

/-- Writes copies of one piece, for any entity. -/
def copiesSlot (count length : Nat) : DescriptionSlot Specimen := fun _ buffer =>
  formatBounded buffer (copies count length)

/-- A text of so many bytes can be counted, but not stand in one buffer with its terminator: it is
what describes the entity, but the description is at fault. -/
theorem description_overlong :
    DescriptionSlot.Formats (slotHierarchy (copiesSlot 2147483648 4294967296)).copyDescription
        (Specimen.leaf 0 (.declared 0))
        (String.ofList (List.replicate 9223372036854775808 'x')) ∧
      (slotHierarchy (copiesSlot 2147483648 4294967296)).description
        (Specimen.leaf 0 (.declared 0)) = fault := by
  have copied := copyDescription_of_resolved
    (resolveDescription_slotHierarchy (copiesSlot 2147483648 4294967296))
  have formats : DescriptionSlot.Formats
      (slotHierarchy (copiesSlot 2147483648 4294967296)).copyDescription
      (Specimen.leaf 0 (.declared 0))
      (String.ofList (List.replicate 9223372036854775808 'x')) := by
    intro buffer
    refine ⟨copies 2147483648 4294967296, ?_, ?_⟩
    · rw [bytes_copies, bytes_ofList_replicate]
    · rw [copied]
      rfl
  have beyond : ¬(Utf8.bytes (String.ofList (List.replicate 9223372036854775808 'x'))).length +
      1 ≤ allocationLimit := by
    rw [bytes_ofList_replicate, List.length_replicate]
    decide
  exact ⟨formats, (description_of_formats formats).trans (if_neg beyond)⟩

end EntityHierarchy

end BinaryImage
