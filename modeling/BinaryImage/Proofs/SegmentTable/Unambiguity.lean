import BinaryImage.Proofs.SegmentTable.Truncation
import Mathlib.Data.List.Forall2

/-!
# Telling stored tables apart

Bytes that start with a stored table start with no other one. Main statement: whatever follows
it, a stored table determines its byte order, its contents and its end. This is not a matter of
reading, which refuses some tables and drops some sections: it holds of every table whose counts
fit their fields.
-/

namespace BinaryImage

open BinaryImage.Field

variable {α : Type}

/-- Of two comparable values, neither is stored as the other is, nor as the start of the other:
from the stored bytes on, the value and where it ends can be told. -/
def SelfDelimiting (Comparable : α → α → Prop) (stored : α → List UInt8) : Prop :=
  ∀ ⦃left right : α⦄ ⦃leftRest rightRest : List UInt8⦄,
    Comparable left right →
      stored left ++ leftRest = stored right ++ rightRest →
        left = right ∧ leftRest = rightRest

/-- What holds of values one by one holds of values that are stored one behind the other. -/
theorem SelfDelimiting.flatMap
    {Comparable : α → α → Prop} {stored : α → List UInt8}
    (delimiting : SelfDelimiting Comparable stored) :
    SelfDelimiting (List.Forall₂ Comparable) (List.flatMap stored) := by
  intro lefts rights leftRest rightRest comparable equality
  induction comparable with
  | nil => exact ⟨rfl, equality⟩
  | cons first _ inductionHypothesis =>
      simp only [List.flatMap_cons, List.append_assoc] at equality
      obtain ⟨sameFirst, behindFirst⟩ := delimiting first equality
      obtain ⟨sameOthers, sameRest⟩ := inductionHypothesis behindFirst
      exact ⟨by rw [sameFirst, sameOthers], sameRest⟩

/-- Counts that fit their fields are told apart there. -/
theorem eq_of_ofNat_eq
    {left right : Nat} (leftBound : left < UInt32.size) (rightBound : right < UInt32.size)
    (sameField : UInt32.ofNat left = UInt32.ofNat right) : left = right := by
  have sameValue := congrArg UInt32.toNat sameField
  rwa [UInt32.toNat_ofNat_of_lt' leftBound, UInt32.toNat_ofNat_of_lt' rightBound] at sameValue

/-! ## Fields -/

namespace Field

def SameWidth (left right : Field) : Prop :=
  left.width = right.width

theorem encode_injective
    (endianness : Endianness) {left right : Field} (sameWidth : left.SameWidth right)
    (sameBytes : left.encode endianness = right.encode endianness) : left = right := by
  rw [← swap_ofNat_decode_encode left endianness, sameWidth, sameBytes,
    swap_ofNat_decode_encode]

theorem selfDelimiting_encode (endianness : Endianness) :
    SelfDelimiting SameWidth fun field => field.encode endianness := by
  intro left right leftRest rightRest sameWidth equality
  have sameLength :
      (left.encode endianness).length = (right.encode endianness).length := by
    rw [length_encode, length_encode, sameWidth]
  obtain ⟨sameBytes, sameRest⟩ := List.append_inj equality sameLength
  exact ⟨encode_injective endianness sameWidth sameBytes, sameRest⟩

theorem selfDelimiting_encodeAll (endianness : Endianness) :
    SelfDelimiting (fun lefts rights : List Field => lefts.map width = rights.map width)
      (encodeAll endianness) := by
  intro lefts rights leftRest rightRest sameWidths equality
  have comparable : List.Forall₂ SameWidth lefts rights := by
    rwa [← List.forall₂_eq_eq_eq, List.forall₂_map_left_iff,
      List.forall₂_map_right_iff] at sameWidths
  exact (selfDelimiting_encode endianness).flatMap comparable equality

end Field

/-! ## Entries -/

theorem SectionEntry.selfDelimiting (endianness : Endianness) :
    SelfDelimiting (fun _ _ : SectionEntry => True)
      fun entry => encodeAll endianness entry.fields := by
  intro left right leftRest rightRest _ equality
  obtain ⟨leftOffset, leftSize⟩ := left
  obtain ⟨rightOffset, rightSize⟩ := right
  -- The widths are compared last, when the equality has told which fields they are of.
  obtain ⟨sameFields, sameRest⟩ :=
    selfDelimiting_encodeAll endianness (by rfl) equality
  simp only [SectionEntry.fields, List.cons.injEq, bits32.injEq, and_true] at sameFields
  obtain ⟨sameOffset, sameSize⟩ := sameFields
  exact ⟨by rw [sameOffset, sameSize], sameRest⟩

theorem SegmentEntry.selfDelimiting (endianness : Endianness) :
    SelfDelimiting
      (fun left right : SegmentEntry =>
        left.sections.length < UInt32.size ∧ right.sections.length < UInt32.size)
      fun entry => encodeAll endianness entry.fields := by
  rintro left right leftRest rightRest ⟨leftCounted, rightCounted⟩ equality
  obtain ⟨leftAddress, leftSize, leftSections⟩ := left
  obtain ⟨rightAddress, rightSize, rightSections⟩ := right
  simp only [SegmentEntry.fields, encodeAll_append, List.append_assoc] at equality
  obtain ⟨sameHeader, behindHeader⟩ :=
    selfDelimiting_encodeAll endianness (by rfl) equality
  simp only [List.cons.injEq, bits64.injEq, bits32.injEq, and_true] at sameHeader
  obtain ⟨sameAddress, sameSize, sameCount⟩ := sameHeader
  -- The count tells how many sections follow, and so where the segment ends.
  have sameLength : leftSections.length = rightSections.length :=
    eq_of_ofNat_eq leftCounted rightCounted sameCount
  have comparable : List.Forall₂ (fun _ _ => True) leftSections rightSections :=
    List.forall₂_iff_zip.mpr ⟨sameLength, fun _ => trivial⟩
  simp only [encodeAll, List.flatMap_assoc] at behindHeader
  obtain ⟨sameSections, sameRest⟩ :=
    (SectionEntry.selfDelimiting endianness).flatMap comparable behindHeader
  exact ⟨by rw [sameAddress, sameSize, sameSections], sameRest⟩

/-! ## Tables -/

namespace SegmentTable

theorem selfDelimiting (endianness : Endianness) :
    SelfDelimiting (fun left right => left.Counted ∧ right.Counted) (encode endianness) := by
  rintro left right leftRest rightRest ⟨leftCounted, rightCounted⟩ equality
  change encodeAll endianness (fields left) ++ leftRest =
    encodeAll endianness (fields right) ++ rightRest at equality
  simp only [fields, encodeAll_append, List.append_assoc] at equality
  obtain ⟨sameHeader, behindHeader⟩ :=
    selfDelimiting_encodeAll endianness (by rfl) equality
  simp only [List.cons.injEq, bits32.injEq, true_and, and_true] at sameHeader
  have sameLength := eq_of_ofNat_eq leftCounted.segments rightCounted.segments sameHeader
  have comparable : List.Forall₂
      (fun leftEntry rightEntry : SegmentEntry =>
        leftEntry.sections.length < UInt32.size ∧
          rightEntry.sections.length < UInt32.size) left right := by
    apply List.forall₂_iff_zip.mpr
    refine ⟨sameLength, ?_⟩
    intro leftEntry rightEntry paired
    obtain ⟨leftMember, rightMember⟩ := List.of_mem_zip paired
    exact ⟨leftCounted.sections leftEntry leftMember,
      rightCounted.sections rightEntry rightMember⟩
  simp only [encodeAll, List.flatMap_assoc] at behindHeader
  exact (SegmentEntry.selfDelimiting endianness).flatMap comparable behindHeader

/-- The bytes of the magic number in one order are not those in the other. -/
theorem encode_magic_injective
    {first second : Endianness}
    (sameBytes : (bits32 magic).encode first = (bits32 magic).encode second) :
    first = second := by
  revert sameBytes
  cases first <;> cases second <;> decide

/-- The magic number opens every stored table, and so tells the byte order. -/
theorem endianness_eq_of_encode_append
    {first second : Endianness} {left right : SegmentTable} {leftRest rightRest : List UInt8}
    (equality : left.encode first ++ leftRest = right.encode second ++ rightRest) :
    first = second := by
  change encodeAll first (fields left) ++ leftRest =
    encodeAll second (fields right) ++ rightRest at equality
  simp only [fields, List.cons_append, encodeAll_cons, List.append_assoc] at equality
  have sameLength :
      ((bits32 magic).encode first).length = ((bits32 magic).encode second).length := by
    rw [Field.length_encode, Field.length_encode]
  exact encode_magic_injective (List.append_inj_left equality sameLength)

/-- A stored table determines its byte order, all that it lists and where it ends, whatever
follows. The table may be one that is refused, or list sections that are dropped. -/
theorem encode_append_injective
    {first second : Endianness} {left right : SegmentTable} {leftRest rightRest : List UInt8}
    (leftCounted : left.Counted) (rightCounted : right.Counted)
    (equality : left.encode first ++ leftRest = right.encode second ++ rightRest) :
    first = second ∧ left = right ∧ leftRest = rightRest := by
  have sameOrder := endianness_eq_of_encode_append equality
  subst sameOrder
  exact ⟨rfl, selfDelimiting first ⟨leftCounted, rightCounted⟩ equality⟩

/-- A table that is refused is told from the bytes behind it all the same. -/
theorem encode_append_injective_overrunningTable :
    (parse (overrunningTable.encode .big ++ [0, 7])).result = .error (.plain .overflow) ∧
      overrunningTable.encode .big ++ [0, 7] =
        encode .big ([⟨0x1000, 0x10, [⟨0, 0x20⟩]⟩] ++ [⟨0xffffffffffffffef, 0x100, []⟩]) ++
          ([0] ++ [7]) ∧
      Endianness.big = .big ∧
        overrunningTable =
          [⟨0x1000, 0x10, [⟨0, 0x20⟩]⟩] ++ [⟨0xffffffffffffffef, 0x100, []⟩] ∧
        ([0, 7] : List UInt8) = [0] ++ [7] :=
  ⟨rfl, rfl, encode_append_injective (by decide) (by decide) rfl⟩

end SegmentTable

end BinaryImage
