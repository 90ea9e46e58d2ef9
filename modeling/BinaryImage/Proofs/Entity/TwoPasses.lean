import BinaryImage.Proofs.Entity.Description
import BinaryImage.Proofs.Text.CutText

/-!
# Descriptions that change between the passes

A slot may announce one length for an empty buffer, and describe the entity by a text of another
length when it is given that much place. Main statement: if a buffer may have that much place, the
description shows as much of the text that the second pass writes as the first pass announced, and
nothing else, as long as a buffer may also have place for what is read; and if the text is cut off
inside a character, one replacement stands for what is left of that character.
-/

namespace BinaryImage

open Checked Text

variable {ε : Type}

/-- A slot that puts some bytes at the start of a buffer, as many as leave place for a terminator,
and answers with how many there are. What the rest of the buffer holds is left open, a terminator
too. -/
def DescriptionSlot.Begins
    (slot : DescriptionSlot ε) (entity : ε) (buffer content : List UInt8) : Prop :=
  ∃ written, (slot entity buffer).result = .ok written ∧
    written.length.toNat = content.length ∧
    content.take (buffer.length - 1) <+: written.buffer

namespace EntityHierarchy

variable [TypedEntity ε] {hierarchy : EntityHierarchy ε} {entity : ε}

/-! ## What is shown of the second pass -/

theorem take_of_leading
    {announced : Nat} {content buffer : List UInt8}
    (leading : content.take announced <+: buffer) :
    buffer.take (min content.length announced) = content.take (min announced content.length) := by
  rcases leading with ⟨rest, rfl⟩
  have covered : min content.length announced ≤ (content.take announced).length := by
    rw [List.length_take]
    exact Nat.le_of_eq (Nat.min_comm _ _)
  rw [List.take_append_of_le_length covered, List.take_take, Nat.min_assoc, Nat.min_self,
    Nat.min_comm]

theorem description_of_begins
    {announced : Written} {content : List UInt8}
    (preflight : (hierarchy.copyDescription entity []).result = .ok announced)
    (room : announced.length.toNat < allocationLimit)
    (begins : DescriptionSlot.Begins hierarchy.copyDescription entity
      (List.replicate (announced.length.toNat + 1) 0) content) :
    (hierarchy.description entity).result =
      (readText (content.take (min announced.length.toNat content.length))).result := by
  obtain ⟨written, filled, answer, leading⟩ := begins
  rw [List.length_replicate, Nat.add_sub_cancel] at leading
  rw [description_of_passes preflight room filled, answer, take_of_leading leading]

/-- Whatever length below the limit of a buffer a slot announces for an empty one, and whatever
bytes it begins the buffer of the second pass with, the entity has a description, read from the
first of these bytes, as many as both passes vouch for, if a buffer has the place for what is read.
If the bytes are those of a text, it consists of the characters that are left whole, with one
replacement exactly if another is cut off. -/
theorem description_contained
    {slot : DescriptionSlot ε} {announced : Written} {content : List UInt8}
    (resolved : (hierarchy.resolveDescription (TypedEntity.type entity)).orRoot
      hierarchy.rootDescriptionSlot = slot)
    (preflight : (slot entity []).result = .ok announced)
    (room : announced.length.toNat + 1 ≤ allocationLimit)
    (begins : slot.Begins entity (List.replicate (announced.length.toNat + 1) 0) content)
    (readable : (Utf8.bytes (Utf8.text
      (content.take (min announced.length.toNat content.length)))).length ≤ allocationLimit) :
    (hierarchy.description entity).result =
        .ok (Utf8.text (content.take (min announced.length.toNat content.length))) ∧
      ∀ characters, content = Utf8.encode characters →
        ∃ whole,
          Utf8.LongestWithin (min announced.length.toNat content.length) characters whole ∧
          (Utf8.FallsInside (min announced.length.toNat content.length) characters →
            (hierarchy.description entity).result =
              .ok (String.ofList (whole ++ [Utf8.replacement]))) ∧
          (¬Utf8.FallsInside (min announced.length.toNat content.length) characters →
            (hierarchy.description entity).result = .ok (String.ofList whole)) := by
  have copied := copyDescription_of_resolved resolved
  have begun : DescriptionSlot.Begins hierarchy.copyDescription entity
      (List.replicate (announced.length.toNat + 1) 0) content := by
    rw [DescriptionSlot.Begins, copied]
    exact begins
  rw [← copied] at preflight
  have described := description_of_begins preflight room begun
  rw [readText_eq_pure readable, pure_result] at described
  refine ⟨described, ?_⟩
  intro characters written
  have within : min announced.length.toNat content.length ≤ (Utf8.encode characters).length := by
    rw [← written]
    exact Nat.min_le_right announced.length.toNat content.length
  rcases Utf8.decode_take_encode within with ⟨whole, longest, cutInside, cutOutside⟩
  rw [← written] at cutInside cutOutside
  refine ⟨whole, longest, ?_, ?_⟩
  · intro inside
    rw [described, Utf8.text, cutInside inside]
  · intro outside
    rw [described, Utf8.text, cutOutside outside]

/-- Announces three bytes, but writes a letter of two bytes and a sign of three, and no terminator. -/
def growingSlot : DescriptionSlot Specimen := fun _ buffer =>
  if buffer.isEmpty then pure ⟨3, buffer⟩
  else pure ⟨5, (Utf8.bytes "é€").take buffer.length ++ buffer.drop 5⟩

/-- The sign is cut off behind its first byte; the second one is in the buffer, but not shown. -/
theorem description_contained_growingHierarchy :
    ((slotHierarchy growingSlot).description (Specimen.leaf 0 (.declared 0))).result =
        .ok "é\ufffd" ∧
      ∃ whole, Utf8.LongestWithin 3 ['é', '€'] whole ∧
        ((slotHierarchy growingSlot).description (Specimen.leaf 0 (.declared 0))).result =
          .ok (String.ofList (whole ++ [Utf8.replacement])) := by
  have resolved := resolveDescription_slotHierarchy growingSlot
  have begins : growingSlot.Begins (Specimen.leaf 0 (.declared 0)) (List.replicate (3 + 1) 0)
      (Utf8.bytes "é€") :=
    ⟨_, rfl, by decide, by decide⟩
  have inside : Utf8.FallsInside 3 ['é', '€'] :=
    ⟨['é'], '€', [], rfl, by decide, by decide⟩
  have shown : Utf8.text ((Utf8.bytes "é€").take 3) = "é\ufffd" := by decide
  rcases description_contained resolved rfl (by decide) begins (by decide) with
    ⟨described, characters⟩
  rcases characters ['é', '€'] (by decide) with ⟨whole, longest, cutInside, _⟩
  refine ⟨?_, whole, longest, cutInside inside⟩
  rw [described]
  exact congrArg Except.ok shown

/-! ## Lengths and texts beyond a buffer -/

/-- Announces one length for every buffer, and fills the buffer with one byte. -/
def flatSlot (announced : UInt64) (byte : UInt8) : DescriptionSlot Specimen := fun _ buffer =>
  pure ⟨announced, List.replicate buffer.length byte⟩

theorem flatSlot_begins
    (announced : UInt64) (byte : UInt8) (entity : Specimen) (buffer : List UInt8) :
    (flatSlot announced byte).Begins entity buffer (List.replicate announced.toNat byte) := by
  refine ⟨_, rfl, List.length_replicate.symm, ?_⟩
  have covered : min (buffer.length - 1) announced.toNat ≤ buffer.length :=
    Nat.le_trans (Nat.min_le_left _ _) (Nat.sub_le _ _)
  have remaining := Nat.add_sub_of_le covered
  refine ⟨List.replicate (buffer.length - min (buffer.length - 1) announced.toNat) byte, ?_⟩
  rw [List.take_replicate, List.replicate_append_replicate, remaining]

theorem copyDescription_flatSlot (announced : UInt64) (byte : UInt8) :
    (slotHierarchy (flatSlot announced byte)).copyDescription (Specimen.leaf 0 (.declared 0)) =
      flatSlot announced byte (Specimen.leaf 0 (.declared 0)) :=
  copyDescription_of_resolved (resolveDescription_slotHierarchy (flatSlot announced byte))

theorem preflight_flatSlot (announced : UInt64) (byte : UInt8) :
    ((slotHierarchy (flatSlot announced byte)).copyDescription
      (Specimen.leaf 0 (.declared 0)) []).result = .ok ⟨announced, []⟩ := by
  rw [copyDescription_flatSlot]
  rfl

theorem description_flatSlot_of_beyond
    {announced : UInt64} (beyond : allocationLimit ≤ announced.toNat) (byte : UInt8) :
    (slotHierarchy (flatSlot announced byte)).description (Specimen.leaf 0 (.declared 0)) =
      fault := by
  rw [description_of_beyond (preflight_flatSlot announced byte) beyond, copyDescription_flatSlot]
  rfl

theorem description_flatSlot_of_room
    {announced : UInt64} (room : announced.toNat < allocationLimit) (byte : UInt8) :
    ((slotHierarchy (flatSlot announced byte)).description
        (Specimen.leaf 0 (.declared 0))).result =
      (readText (List.replicate announced.toNat byte)).result := by
  have begins : DescriptionSlot.Begins
      (slotHierarchy (flatSlot announced byte)).copyDescription (Specimen.leaf 0 (.declared 0))
      (List.replicate (announced.toNat + 1) 0) (List.replicate announced.toNat byte) := by
    rw [DescriptionSlot.Begins, copyDescription_flatSlot]
    exact flatSlot_begins announced byte _ _
  have described := description_of_begins (preflight_flatSlot announced byte) room begins
  rwa [List.length_replicate, Nat.min_self, List.take_replicate, Nat.min_self] at described

/-- A slot announces the limit of a buffer for an empty one, and fills every other one as far as it
goes: no buffer has the place for all that and a terminator, and the description is at fault. For
half of that there is a place, but if none of the bytes begins a character, there is none for the
replacements that are read. -/
theorem description_uncontained :
    ((flatSlot 9223372036854775807 0x78 (Specimen.leaf 0 (.declared 0)) []).result =
        .ok ⟨9223372036854775807, []⟩ ∧
      (9223372036854775807 : UInt64).toNat < UInt64.size - 1 ∧
      (∀ buffer, (flatSlot 9223372036854775807 0x78).Begins (Specimen.leaf 0 (.declared 0)) buffer
        (List.replicate (9223372036854775807 : UInt64).toNat 0x78)) ∧
      ((slotHierarchy (flatSlot 9223372036854775807 0x78)).description
        (Specimen.leaf 0 (.declared 0))).result = (fault : Checked String).result) ∧
    ((flatSlot 4611686018427387904 0xff (Specimen.leaf 0 (.declared 0)) []).result =
        .ok ⟨4611686018427387904, []⟩ ∧
      (4611686018427387904 : UInt64).toNat < UInt64.size - 1 ∧
      (∀ buffer, (flatSlot 4611686018427387904 0xff).Begins (Specimen.leaf 0 (.declared 0)) buffer
        (List.replicate (4611686018427387904 : UInt64).toNat 0xff)) ∧
      ((slotHierarchy (flatSlot 4611686018427387904 0xff)).description
        (Specimen.leaf 0 (.declared 0))).result = (fault : Checked String).result) := by
  have unreadable : allocationLimit < (Utf8.bytes (Utf8.text (List.replicate
      (4611686018427387904 : UInt64).toNat 0xff))).length := by
    rw [Utf8.length_bytes_text_of_invalid (by decide)]
    decide
  refine ⟨⟨rfl, by decide, flatSlot_begins _ _ _, ?_⟩, ⟨rfl, by decide, flatSlot_begins _ _ _, ?_⟩⟩
  · rw [description_flatSlot_of_beyond (by decide)]
  · rw [description_flatSlot_of_room (by decide), readText_eq_fault unreadable]

end EntityHierarchy

end BinaryImage
