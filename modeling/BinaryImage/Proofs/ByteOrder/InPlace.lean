import BinaryImage.Proofs.ByteOrder.DecoderRun

/-!
# Conversion in place

A slice of a buffer is converted by reversing it where it stands: each of its bytes moves to its
mirror position, and no other byte moves. Main statement: converting a number, converting the bytes
that it is decoded from, and decoding in the other byte order are one transformation.
-/

namespace BinaryImage

open Checked

namespace ByteOrder

variable {order : ByteOrder} {data : List UInt8} {start stop nextStart nextStop : Nat}

/-! ## Mirror positions -/

/-- Where a byte stands after the slice between two positions is reversed. -/
def mirror (start stop position : Nat) : Nat :=
  if start ≤ position ∧ position < stop then start + stop - 1 - position else position

theorem mirror_of_outside {position : Nat} (outside : position < start ∨ stop ≤ position) :
    mirror start stop position = position :=
  if_neg (by omega)

theorem mirror_mirror (start stop position : Nat) :
    mirror start stop (mirror start stop position) = position := by
  unfold mirror
  split
  · rw [if_pos (by omega)]
    omega
  · rfl

theorem mirror_comm (apart : stop ≤ nextStart) (position : Nat) :
    mirror start stop (mirror nextStart nextStop position) =
      mirror nextStart nextStop (mirror start stop position) := by
  by_cases within : start ≤ position ∧ position < stop
  · have outside : position < nextStart ∨ nextStop ≤ position := by omega
    have remains :
        mirror start stop position < nextStart ∨ nextStop ≤ mirror start stop position := by
      unfold mirror
      split <;> omega
    rw [mirror_of_outside outside, mirror_of_outside remains]
  · have outside : position < start ∨ stop ≤ position := by omega
    have remains :
        mirror nextStart nextStop position < start ∨
          stop ≤ mirror nextStart nextStop position := by
      unfold mirror
      split <;> omega
    rw [mirror_of_outside outside, mirror_of_outside remains]

/-! ## Slices -/

theorem swapWithin_direct (ordered : start ≤ stop) : direct.swapWithin data start stop = data := by
  have rest := List.take_append_drop (stop - start) (data.drop start)
  rw [List.drop_drop, Nat.add_sub_cancel' ordered] at rest
  rw [swapWithin, swapBuffer, List.append_assoc, rest, List.take_append_drop]

theorem getElem?_swapWithin
    (ordered : start ≤ stop) (inside : stop ≤ data.length) (position : Nat) :
    (swapped.swapWithin data start stop)[position]? = data[mirror start stop position]? := by
  have firstLength : (data.take start).length = start := List.length_take_of_le (by omega)
  have sliceLength : ((data.drop start).take (stop - start)).length = stop - start := by
    rw [List.length_take, List.length_drop]
    omega
  rw [swapWithin, swapBuffer, List.append_assoc]
  rcases Nat.lt_or_ge position start with before | behind
  · rw [List.getElem?_append_left (by rwa [firstLength]), List.getElem?_take_of_lt before,
      mirror_of_outside (.inl before)]
  · rw [List.getElem?_append_right (by rwa [firstLength]), firstLength]
    rcases Nat.lt_or_ge position stop with within | after
    · rw [List.getElem?_append_left (by rw [List.length_reverse, sliceLength]; omega),
        List.getElem?_reverse (by rw [sliceLength]; omega), sliceLength,
        List.getElem?_take_of_lt (by omega), List.getElem?_drop, mirror, if_pos ⟨behind, within⟩]
      congr 1
      omega
    · rw [List.getElem?_append_right (by rw [List.length_reverse, sliceLength]; omega),
        List.length_reverse, sliceLength, List.getElem?_drop, mirror_of_outside (.inr after)]
      congr 1
      omega

theorem swapWithin_swapWithin (ordered : start ≤ stop) (inside : stop ≤ data.length) :
    swapped.swapWithin (swapped.swapWithin data start stop) start stop = data := by
  have sameLength := swapped.swapWithin_length ordered inside
  apply List.ext_getElem?
  intro position
  rw [getElem?_swapWithin ordered (by rwa [sameLength]), getElem?_swapWithin ordered inside,
    mirror_mirror]

/-- Slices that do not overlap may be converted in either order. -/
theorem swapWithin_comm
    (ordered : start ≤ stop) (apart : stop ≤ nextStart) (nextOrdered : nextStart ≤ nextStop)
    (inside : nextStop ≤ data.length) :
    order.swapWithin (order.swapWithin data start stop) nextStart nextStop =
      order.swapWithin (order.swapWithin data nextStart nextStop) start stop := by
  cases order with
  | direct => simp only [swapWithin_direct ordered, swapWithin_direct nextOrdered]
  | swapped =>
      have within : stop ≤ data.length := by omega
      have sameLength := swapped.swapWithin_length ordered within
      have nextSameLength := swapped.swapWithin_length nextOrdered inside
      apply List.ext_getElem?
      intro position
      rw [getElem?_swapWithin nextOrdered (by rwa [sameLength]), getElem?_swapWithin ordered within,
        getElem?_swapWithin ordered (by rwa [nextSameLength]),
        getElem?_swapWithin nextOrdered inside, mirror_comm apart]

/-- Whatever stands before a slice and behind it stays. -/
theorem swapWithin_append (order : ByteOrder) (before bytes after : List UInt8) :
    order.swapWithin (before ++ bytes ++ after) before.length (before.length + bytes.length) =
      before ++ order.swapBuffer bytes ++ after := by
  have behind : (before ++ bytes ++ after).drop (before.length + bytes.length) = after :=
    List.drop_left' List.length_append
  rw [swapWithin, behind, List.append_assoc before bytes after, List.take_left, List.drop_left,
    Nat.add_sub_cancel_left, List.take_left]

theorem take_drop_swapWithin
    (order : ByteOrder) (ordered : start ≤ stop) (inside : stop ≤ data.length) :
    ((order.swapWithin data start stop).drop start).take (stop - start) =
      order.swapBuffer ((data.drop start).take (stop - start)) := by
  have firstLength : (data.take start).length = start := List.length_take_of_le (by omega)
  have sliceLength :
      (order.swapBuffer ((data.drop start).take (stop - start))).length = stop - start := by
    rw [swapBuffer_length, List.length_take, List.length_drop]
    omega
  rw [swapWithin, List.append_assoc, List.drop_left' firstLength, List.take_left' sliceLength]

end ByteOrder

/-! ## Numbers and their bytes -/

namespace Field

variable {width : Width}

theorem swap_direct (field : Field) : field.swap .direct = field := by
  cases field <;> rfl

theorem ofNat_decode_encode (field : Field) :
    ofNat (LittleEndian.decode (field.encode .little)) field.width = field := by
  have decoded := field.swap_ofNat_decode_encode .little
  rwa [show ByteOrder.select .little = .direct from rfl, swap_direct] at decoded

theorem encode_big (field : Field) : field.encode .big = (field.encode .little).reverse :=
  BigEndian.encode_eq_reverse _ _

/-- Converted in place, a field that is stored in one byte order is stored in the other one. -/
theorem swapBuffer_encode
    {first second : Endianness} (different : first ≠ second) (field : Field) :
    ByteOrder.swapped.swapBuffer (field.encode first) = field.encode second := by
  cases first with
  | little =>
      cases second with
      | little => exact absurd rfl different
      | big => exact field.encode_big.symm
  | big =>
      cases second with
      | little => rw [encode_big, ByteOrder.swapBuffer, List.reverse_reverse]
      | big => exact absurd rfl different

/-- Converting a number is decoding its bytes in reverse. -/
theorem swap_ofNat_decode
    {bytes : List UInt8} (fullLength : bytes.length = width.byteCount) :
    (ofNat (LittleEndian.decode bytes) width).swap .swapped =
      ofNat (LittleEndian.decode bytes.reverse) width := by
  -- The bytes are those of some number with its most significant byte first.
  obtain ⟨field, rfl, rfl⟩ := exists_encode_eq .big width fullLength
  rw [field.encode_big, List.reverse_reverse, ofNat_decode_encode, ← encode_big]
  exact field.swap_ofNat_decode_encode .big

theorem swap_eq_ofNat_decode (field : Field) :
    field.swap .swapped =
      ofNat (LittleEndian.decode (ByteOrder.swapped.swapBuffer (field.encode .native)))
        field.width := by
  have converted := swap_ofNat_decode (field.length_encode .little)
  rwa [ofNat_decode_encode] at converted

theorem swap_swap (field : Field) : (field.swap .swapped).swap .swapped = field := by
  have fullLength := field.length_encode .little
  rw [field.swap_eq_ofNat_decode]
  change (ofNat (LittleEndian.decode (field.encode .little).reverse) field.width).swap _ = _
  rw [swap_ofNat_decode (by rwa [List.length_reverse]), List.reverse_reverse, ofNat_decode_encode]

end Field

/-! ## Reads -/

namespace ByteOrder

variable {data : List UInt8} {cursor : UInt64} {width : Width}

theorem readField_of_inside
    (order : ByteOrder) (there : Inside data.length (cursor.toNat + width.byteCount)) :
    order.readField data cursor width =
      pure ⟨(Field.ofNat
          (LittleEndian.decode ((data.drop cursor.toNat).take width.byteCount)) width).swap order,
        UInt64.ofNat (cursor.toNat + width.byteCount)⟩ := by
  have reading := Decoder.read_eq_demand ⟨data, order, cursor⟩ width
  rwa [demand_eq_pure there] at reading

theorem inside_of_readField
    {order : ByteOrder} {read : Read Field}
    (succeeded : (order.readField data cursor width).result = .ok read) :
    Inside data.length (cursor.toNat + width.byteCount) := by
  obtain ⟨next, within⟩ := next_of_readField succeeded
  rw [← next]
  exact ⟨within, read.next.toNat_lt⟩

theorem readField_swapped (data : List UInt8) (cursor : UInt64) (width : Width) :
    swapped.readField data cursor width =
      Read.map (Field.swap swapped) <$> direct.readField data cursor width := by
  rw [readField_eq, readField_eq, ← comp_map]
  congr 1
  funext bytes
  simp only [Read.map, Function.comp_apply, Field.swap_direct]

/-- Where all of its bytes are there, a field is read the same after it was converted in place. -/
theorem readField_swapWithin (there : Inside data.length (cursor.toNat + width.byteCount)) :
    direct.readField
        (swapped.swapWithin data cursor.toNat (cursor.toNat + width.byteCount)) cursor width =
      swapped.readField data cursor width := by
  have ordered : cursor.toNat ≤ cursor.toNat + width.byteCount := Nat.le_add_right _ _
  have sameLength := swapped.swapWithin_length ordered there.1
  have converted := take_drop_swapWithin swapped ordered there.1
  rw [Nat.add_sub_cancel_left] at converted
  have fullLength : ((data.drop cursor.toNat).take width.byteCount).length = width.byteCount := by
    rw [List.length_take, List.length_drop]
    have within := there.1
    omega
  rw [readField_of_inside direct (by rwa [sameLength]), readField_of_inside swapped there,
    converted, Field.swap_direct, Field.swap_ofNat_decode fullLength, swapBuffer]

/-- Reading in the other byte order is reading and then converting the number, failures and cursors
included; and where it succeeds, it is reading after the field was converted in place. Converting a
number is decoding the reverse of its bytes on the host, and undoes itself. Converting a slice in
place moves no byte outside of it and undoes itself, and slices that do not overlap may be converted
in either order. -/
theorem conversions_agree (data : List UInt8) :
    (∀ (cursor : UInt64) (width : Width),
      swapped.readField data cursor width =
          Read.map (Field.swap swapped) <$> direct.readField data cursor width ∧
        ∀ read, (swapped.readField data cursor width).result = .ok read →
          cursor.toNat + width.byteCount ≤ data.length ∧
            direct.readField
                (swapped.swapWithin data cursor.toNat (cursor.toNat + width.byteCount))
                cursor width =
              pure read) ∧
      (∀ field : Field,
        field.swap swapped =
            Field.ofNat
              (LittleEndian.decode (swapped.swapBuffer (field.encode .native))) field.width ∧
          (field.swap swapped).swap swapped = field) ∧
      (∀ start stop, start ≤ stop → stop ≤ data.length →
        (∀ position, position < start ∨ stop ≤ position →
          (swapped.swapWithin data start stop)[position]? = data[position]?) ∧
        swapped.swapWithin (swapped.swapWithin data start stop) start stop = data) ∧
      ∀ start stop nextStart nextStop,
        start ≤ stop → stop ≤ data.length → nextStart ≤ nextStop → nextStop ≤ data.length →
          stop ≤ nextStart ∨ nextStop ≤ start →
            swapped.swapWithin (swapped.swapWithin data start stop) nextStart nextStop =
              swapped.swapWithin (swapped.swapWithin data nextStart nextStop) start stop := by
  refine ⟨?_, ?_, ?_, ?_⟩
  · intro cursor width
    refine ⟨readField_swapped data cursor width, ?_⟩
    intro read succeeded
    have there := inside_of_readField succeeded
    refine ⟨there.1, ?_⟩
    rw [readField_of_inside swapped there] at succeeded
    rw [readField_swapWithin there, readField_of_inside swapped there, Except.ok.inj succeeded]
  · exact fun field => ⟨field.swap_eq_ofNat_decode, field.swap_swap⟩
  · intro start stop ordered inside
    refine ⟨?_, swapWithin_swapWithin ordered inside⟩
    intro position outside
    rw [getElem?_swapWithin ordered inside, mirror_of_outside outside]
  · intro start stop nextStart nextStop ordered inside nextOrdered nextInside apart
    rcases apart with behind | before
    · exact swapWithin_comm ordered behind nextOrdered nextInside
    · exact (swapWithin_comm nextOrdered before ordered inside).symm

/-- A field that is read after its conversion in place, next to another slice that is converted. -/
theorem conversions_agree_pairedBytes :
    direct.readField (swapped.swapWithin pairedBytes 3 7) 3 .four =
        pure ⟨.bits32 0xdeadbeef, 7⟩ ∧
      (swapped.swapWithin pairedBytes 3 7)[2]? = pairedBytes[2]? ∧
      swapped.swapWithin (swapped.swapWithin pairedBytes 3 7) 3 7 = pairedBytes ∧
      swapped.swapWithin (swapped.swapWithin pairedBytes 3 7) 1 3 =
        swapped.swapWithin (swapped.swapWithin pairedBytes 1 3) 3 7 := by
  obtain ⟨reads, _, slices, commute⟩ := conversions_agree pairedBytes
  obtain ⟨_, readBack⟩ := reads 3 .four
  obtain ⟨_, converted⟩ := readBack ⟨.bits32 0xdeadbeef, 7⟩ (by rfl)
  obtain ⟨unmoved, restored⟩ := slices 3 7 (by decide) (by decide)
  refine ⟨converted, unmoved 2 (.inl (by decide)), restored, ?_⟩
  exact commute 3 7 1 3 (by decide) (by decide) (by decide) (by decide) (.inr (by decide))

end ByteOrder

end BinaryImage
