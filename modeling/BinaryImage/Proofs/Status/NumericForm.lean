import BinaryImage.Status.Failure

/-!
# Numeric forms of failures

A numeric form is one word for a code and a mark: the highest bit is the mark, and the other bits
are the value of the code. Main statement: what is read from a numeric form is the only failure
that has it, and the failures that come up are all read back from theirs; the text of a numeric
form is that of its code, whatever the mark.
-/

namespace BinaryImage

/-! ## The mark in a word -/

namespace StatusFlags

/-- A word without the memory bit. -/
def unmarked (word : UInt32) : UInt32 := word &&& ~~~memory.bits

/-- A word holds the memory bit. -/
def isMarked (word : UInt32) : Bool := (ofNamedBits word).contains memory

variable (word : UInt32)

theorem unmarked_eq : unmarked word = word &&& 0x7fffffff := by
  have others : ~~~memory.bits = 0x7fffffff := by decide
  rw [unmarked, others]

theorem unmarked_xor_memory : unmarked (word ^^^ memory.bits) = unmarked word := by
  apply UInt32.toBitVec_inj.mp
  ext index
  cases masked : memory.bits.toBitVec[index] <;> simp [unmarked, masked]

theorem unmarked_or_and_memory : unmarked word ||| word &&& memory.bits = word := by
  apply UInt32.toBitVec_inj.mp
  ext index
  cases masked : memory.bits.toBitVec[index] <;> simp [unmarked, masked]

/-- As only one bit has a name, the named bits of a word are none of them or all. -/
theorem and_memory_eq : word &&& memory.bits = 0 ∨ word &&& memory.bits = memory.bits := by
  have single : memory.bits.toBitVec = BitVec.twoPow 32 31 := by decide
  rw [← UInt32.toBitVec_inj, ← UInt32.toBitVec_inj, UInt32.toBitVec_and, single,
    BitVec.and_twoPow]
  split
  · exact Or.inr rfl
  · exact Or.inl rfl

end StatusFlags

open StatusFlags (unmarked isMarked)

theorem StatusCode.text_ne_empty (code : StatusCode) : code.text ≠ "" := by
  cases code <;> decide

namespace Failure

variable {raw : UInt32} {failure : Failure} {code : StatusCode}

/-! ## Reading numeric forms -/

theorem flags_bits_of_isMarked (code : StatusCode) (word : UInt32) :
    (flags ⟨code, isMarked word⟩).bits = word &&& StatusFlags.memory.bits := by
  have named : (StatusFlags.ofNamedBits word).bits = word &&& StatusFlags.memory.bits := rfl
  rw [flags, isMarked, StatusFlags.contains, named]
  rcases StatusFlags.and_memory_eq word with absent | present
  · rw [absent]
    rfl
  · rw [present]
    rfl

theorem ofRaw?_of_value (failed : code ≠ .success) (value : code.raw = unmarked raw) :
    ofRaw? raw = some ⟨code, isMarked raw⟩ := by
  have known : StatusCode.ofRaw? (raw &&& ~~~StatusFlags.all.bits) = some code :=
    StatusCode.ofRaw?_eq_some_iff.mpr value
  rw [ofRaw?, known]
  cases code with
  | success => exact absurd rfl failed
  | _ => rfl

theorem exists_value_of_ofRaw? (decoded : ofRaw? raw = some failure) :
    ∃ code, code ≠ .success ∧ code.raw = unmarked raw ∧ failure = ⟨code, isMarked raw⟩ := by
  rw [ofRaw?] at decoded
  split at decoded
  · cases decoded
  · cases decoded
  · rename_i code failed known
    exact ⟨code, failed, StatusCode.raw_eq_of_ofRaw? known, (Option.some.inj decoded).symm⟩

theorem ofRaw?_isSome_iff :
    (ofRaw? raw).isSome = true ↔
      ∃ code : StatusCode, code ≠ .success ∧ code.raw = unmarked raw := by
  constructor
  · intro decodes
    obtain ⟨failure, decoded⟩ := Option.isSome_iff_exists.mp decodes
    obtain ⟨code, failed, value, _⟩ := exists_value_of_ofRaw? decoded
    exact ⟨code, failed, value⟩
  · rintro ⟨code, failed, value⟩
    rw [ofRaw?_of_value failed value]
    rfl

/-- Reading a word gives the one failure that has it as its numeric form. -/
theorem ofRaw?_eq_some_iff :
    ofRaw? raw = some failure ↔ failure.code ≠ .success ∧ failure.raw = raw := by
  constructor
  · intro decoded
    obtain ⟨code, failed, value, rfl⟩ := exists_value_of_ofRaw? decoded
    refine ⟨failed, ?_⟩
    rw [Failure.raw, flags_bits_of_isMarked, value]
    exact StatusFlags.unmarked_or_and_memory raw
  · rintro ⟨failed, rfl⟩
    exact ofRaw?_raw failed

/-! ## Marking -/

theorem flags_bits_or_memory (failure : Failure) :
    failure.flags.bits ||| StatusFlags.memory.bits = StatusFlags.memory.bits := by
  rw [flags]
  split
  · exact UInt32.or_self
  · exact UInt32.zero_or

theorem raw_intoMemory (failure : Failure) :
    failure.intoMemory.raw = failure.raw ||| StatusFlags.memory.bits := by
  rw [Failure.raw, Failure.raw, UInt32.or_assoc, flags_bits_or_memory]
  rfl

/-- The failures that come up: a code other than success, without the mark or with it, what is read
from a numeric form, and any of these that is marked later on. -/
inductive Arises : Failure → Prop
  | plain {code : StatusCode} (failed : code ≠ .success) : Arises (plain code)
  | memory {code : StatusCode} (failed : code ≠ .success) : Arises (memory code)
  | read {raw : UInt32} {failure : Failure} (decoded : ofRaw? raw = some failure) : Arises failure
  | marked {failure : Failure} (earlier : Arises failure) : Arises failure.intoMemory

theorem Arises.code_ne_success (arises : failure.Arises) : failure.code ≠ .success := by
  induction arises with
  | plain failed | memory failed => exact failed
  | read decoded => exact (ofRaw?_eq_some_iff.mp decoded).1
  | marked _ inductionHypothesis => exact inductionHypothesis

/-! ## Texts and statuses -/

theorem describeStatus_xor_memory (raw : UInt32) :
    describeStatus (raw ^^^ StatusFlags.memory.bits) = describeStatus raw := by
  have same := StatusFlags.unmarked_xor_memory raw
  rw [unmarked, unmarked] at same
  rw [describeStatus, describeStatus, same]

theorem describeStatus_eq_empty_iff :
    describeStatus raw = "" ↔ ∀ code : StatusCode, code.raw ≠ unmarked raw := by
  rw [describeStatus, ← unmarked]
  cases known : StatusCode.ofRaw? (unmarked raw) with
  | none =>
      refine iff_of_true rfl ?_
      intro code value
      rw [StatusCode.ofRaw?_eq_some_iff.mpr value] at known
      cases known
  | some code =>
      refine iff_of_false code.text_ne_empty ?_
      intro unknown
      exact unknown code (StatusCode.raw_eq_of_ofRaw? known)

theorem statusOf_eq_zero_iff {α : Type} {outcome : Except Failure α} :
    statusOf outcome = 0 ↔ (∃ value, outcome = .ok value) ∨ outcome = .error (.plain .success) := by
  cases outcome with
  | ok value => exact iff_of_true rfl (Or.inl ⟨value, rfl⟩)
  | error failure =>
      constructor
      · intro zero
        have same : failure = .plain .success := raw_injective zero
        exact Or.inr (congrArg Except.error same)
      · rintro (⟨_, succeeded⟩ | silent)
        · cases succeeded
        · rw [silent]
          rfl

/-- A word is the numeric form of a failure exactly if it is, but for its highest bit, the value of
a code other than success. The failure that is read from it has that numeric form and its text, and
marking the failure sets the bit, once and for all. The failures that come up are read back from
their numeric forms, which tell them apart. The text of a word does not depend on its highest bit,
and is empty exactly where the other bits are the value of no code. The status of an outcome is zero
only if it succeeded, or failed with an unmarked success. -/
theorem numericForm_lossless (raw : UInt32) :
    ((ofRaw? raw).isSome = true ↔
      ∃ code : StatusCode, code ≠ .success ∧ code.raw = raw &&& 0x7fffffff) ∧
    (∀ failure, ofRaw? raw = some failure →
      failure.raw = raw ∧ failure.text = describeStatus raw ∧
        failure.intoMemory.raw = raw ||| 0x80000000 ∧
        ofRaw? (raw ||| 0x80000000) = some failure.intoMemory ∧
        failure.intoMemory.intoMemory = failure.intoMemory) ∧
    (∀ failure : Failure, failure.Arises → ofRaw? failure.raw = some failure) ∧
    (∀ left right : Failure, left.raw = right.raw → left = right) ∧
    describeStatus (raw ^^^ 0x80000000) = describeStatus raw ∧
    (describeStatus raw = "" ↔ ∀ code : StatusCode, code.raw ≠ raw &&& 0x7fffffff) ∧
    ∀ (α : Type) (outcome : Except Failure α),
      statusOf outcome = 0 ↔
        (∃ value, outcome = .ok value) ∨ outcome = .error (.plain .success) := by
  rw [← StatusFlags.unmarked_eq]
  refine ⟨ofRaw?_isSome_iff, ?_, ?_, fun _ _ => raw_injective, describeStatus_xor_memory raw,
    describeStatus_eq_empty_iff, fun _ _ => statusOf_eq_zero_iff⟩
  · intro failure decoded
    obtain ⟨failed, rfl⟩ := ofRaw?_eq_some_iff.mp decoded
    have marked := failure.raw_intoMemory
    exact ⟨rfl, (describeStatus_raw failure).symm, marked,
      ofRaw?_eq_some_iff.mpr ⟨failed, marked⟩, rfl⟩
  · intro failure arises
    exact ofRaw?_raw arises.code_ne_success

/-- The marked form of the last code, and the form behind it. -/
theorem numericForm_lossless_lastCode :
    ofRaw? 0x8000000b = some (.memory .badAccess) ∧
      (Failure.memory .badAccess).raw = 0x8000000b ∧
      describeStatus 0xb = "BAD ACCESS" ∧
      ofRaw? (Failure.memory .badAccess).intoMemory.raw = some (.memory .badAccess) ∧
      ofRaw? 0x8000000c = none ∧ describeStatus 0x8000000c = "" := by
  have decoded : ofRaw? 0x8000000b = some (.memory .badAccess) := by decide
  obtain ⟨_, reading, readBack, _, flipped, _, _⟩ := numericForm_lossless 0x8000000b
  obtain ⟨sameForm, sameText, _, _, _⟩ := reading _ decoded
  have marked : (Failure.memory .badAccess).intoMemory.Arises := .marked (.read decoded)
  obtain ⟨_, _, _, _, _, unknown, _⟩ := numericForm_lossless 0x8000000c
  refine ⟨decoded, sameForm, flipped.trans sameText.symm, readBack _ marked, by decide,
    unknown.mpr ?_⟩
  intro code
  cases code <;> decide

end Failure

end BinaryImage
