import AisStation.Proofs.Lawful

/-!
# Records that end in repeated groups

One to four groups of the same width stand one behind the other. The length of the message tells how
many there are; reservations of slots are completed to whole bytes by zeros.
-/

namespace AisStation

open WireRecord

/-- The laws of groups of `width` bits: a group is read from its place, writing it gives the bits of
the place, and a group that fits is read back from where it was written. -/
structure LawfulGroup {α : Type} (width : Nat) (read : Read α) (encode : α → Bits)
    (ofBits : Bits → Nat → α) (Fits : α → Prop) : Prop where
  width_pos : 0 < width
  read_skip : ∀ {r : Reader} {k : Nat}, k + width ≤ r.remaining →
    read (r.skip k) = .ok (ofBits r.rest k) (r.skip (k + width))
  encode_ofBits : ∀ {bs : Bits} {offset : Nat}, offset + width ≤ bs.length →
    encode (ofBits bs offset) = (bs.drop offset).take width
  fits_ofBits : ∀ (bs : Bits) (offset : Nat), Fits (ofBits bs offset)
  length_encode : ∀ group, (encode group).length = width
  ofBits_encode : ∀ {group : α}, Fits group → ∀ {as : Bits} {k : Nat}, as.length = k →
    ∀ rest, ofBits (as ++ (encode group ++ rest)) k = group

theorem Acknowledgement.lawful :
    LawfulGroup Acknowledgement.width Acknowledgement.read Acknowledgement.encode
      Acknowledgement.ofBits Acknowledgement.Fits where
  width_pos := by decide
  read_skip {r k} h := by
    rw [width] at h
    rw [Acknowledgement.read, Read.bind_ok (Read.uint_skip (by omega)),
      Read.bind_ok (Read.uint_skip (by omega))]
    rfl
  encode_ofBits {bs offset} h := by
    rw [width] at h
    rw [encode, ofBits, Bits.ofInt_uintAt (by omega), Bits.ofInt_uintAt (by omega),
      Bits.take_drop_append rfl]
    rfl
  fits_ofBits bs offset := ⟨bs.fitsUnsigned_uintAt _ _, bs.fitsUnsigned_uintAt _ _⟩
  length_encode ack := by simp [encode, width]
  ofBits_encode {ack} h as k hk rest := by
    rw [ofBits, encode, ← Nat.add_zero k, Bits.uintAt_append hk, Nat.add_zero,
      Bits.uintAt_append hk, List.append_assoc, h.1.uintAt_zero]
    simp [Bits.uintAt_append_of_le, h.2.uintAt_zero]

theorem SlotReservation.lawful :
    LawfulGroup SlotReservation.width SlotReservation.read SlotReservation.encode
      SlotReservation.ofBits SlotReservation.Fits where
  width_pos := by decide
  read_skip {r k} h := by
    rw [width] at h
    rw [SlotReservation.read, Read.bind_ok (Read.uint_skip (by omega)),
      Read.bind_ok (Read.uint_skip (by omega)), Read.bind_ok (Read.uint_skip (by omega)),
      Read.bind_ok (Read.uint_skip (by omega))]
    rfl
  encode_ofBits {bs offset} h := by
    rw [width] at h
    rw [encode, ofBits, Bits.ofInt_uintAt (by omega), Bits.ofInt_uintAt (by omega),
      Bits.ofInt_uintAt (by omega), Bits.ofInt_uintAt (by omega), Bits.take_drop_append rfl,
      Bits.take_drop_append rfl, Bits.take_drop_append rfl]
    rfl
  fits_ofBits bs offset :=
    ⟨bs.fitsUnsigned_uintAt _ _, bs.fitsUnsigned_uintAt _ _, bs.fitsUnsigned_uintAt _ _,
      bs.fitsUnsigned_uintAt _ _⟩
  length_encode slot := by simp [encode, width]
  ofBits_encode {slot} h as k hk rest := by
    obtain ⟨hoffset, hslots, htimeout, hincrement⟩ := h
    have hplace : ofBits (as ++ (encode slot ++ rest)) k = ofBits (encode slot ++ rest) 0 := by
      simp only [ofBits, Nat.zero_add, Bits.uintAt_append hk]
      rw [← Nat.add_zero k, Bits.uintAt_append hk]
    rw [hplace]
    simp [ofBits, encode, Bits.uintAt_append_of_le, hoffset.uintAt_zero, hslots.uintAt_zero,
      htimeout.uintAt_zero, hincrement.uintAt_zero]

namespace LawfulGroup

variable {α : Type} {width : Nat} {read : Read α} {encode : α → Bits} {ofBits : Bits → Nat → α}
  {Fits : α → Prop}

/-- Groups are read from their places, if there is room for all of them. -/
theorem groups_skip (h : LawfulGroup width read encode ofBits Fits) {r : Reader} {k count : Nat}
    (hle : k + width * count ≤ r.remaining) :
    Read.groups width read count (r.skip k) =
      .ok ((List.range count).map fun i => ofBits r.rest (k + width * i))
        (r.skip (k + width * count)) := by
  induction count generalizing k with
  | zero => rfl
  | succ count ih =>
    rw [Nat.mul_succ] at hle
    rw [Read.groups, Read.bind_ok (Read.bitsRemaining_apply _), Reader.remaining_skip,
      if_neg (by omega)]
    show (read >>= fun first => Read.groups width read count >>= fun others =>
      pure (first :: others)) (r.skip k) = _
    rw [Read.bind_ok (h.read_skip (by omega)), Read.bind_ok (ih (by omega)), Read.pure_apply,
      List.range_succ_eq_map, List.map_cons, List.map_map]
    have hshift : (fun i => ofBits r.rest (k + width + width * i)) =
        (fun i => ofBits r.rest (k + width * i)) ∘ Nat.succ := by
      funext i
      simp only [Function.comp, Nat.mul_succ, Nat.add_assoc, Nat.add_comm width]
    rw [hshift, Nat.mul_succ, Nat.add_assoc, Nat.add_comm width]
    rfl

/-- Writing the groups that were read gives the bits of their places. -/
theorem flatMap_ofBits (h : LawfulGroup width read encode ofBits Fits) {bs : Bits} {k count : Nat}
    (hle : k + width * count ≤ bs.length) :
    ((List.range count).map fun i => ofBits bs (k + width * i)).flatMap encode =
      (bs.drop k).take (width * count) := by
  induction count with
  | zero => rfl
  | succ count ih =>
    rw [Nat.mul_succ] at hle
    rw [List.range_succ, List.map_append, List.flatMap_append, ih (by omega), List.map_singleton,
      List.flatMap_singleton, h.encode_ofBits (by omega), Bits.take_drop_append rfl, Nat.mul_succ]

theorem length_flatMap (h : LawfulGroup width read encode ofBits Fits) (groups : List α) :
    (groups.flatMap encode).length = width * groups.length := by
  induction groups with
  | nil => rfl
  | cons group groups ih =>
    rw [List.flatMap_cons, List.length_append, h.length_encode, ih, List.length_cons]
    ring

/-- Groups that fit are read back from where they were written. -/
theorem map_ofBits (h : LawfulGroup width read encode ofBits Fits) {groups : List α}
    (hfits : ∀ group ∈ groups, Fits group) {as : Bits} {k : Nat} (hk : as.length = k)
    (rest : Bits) :
    (List.range groups.length).map
      (fun i => ofBits (as ++ (groups.flatMap encode ++ rest)) (k + width * i)) = groups := by
  induction groups generalizing as k with
  | nil => rfl
  | cons group groups ih =>
    obtain ⟨hgroup, hgroups⟩ := List.forall_mem_cons.mp hfits
    have hfirst := h.ofBits_encode hgroup hk (groups.flatMap encode ++ rest)
    have hnext : (as ++ encode group).length = k + width := by
      rw [List.length_append, hk, h.length_encode]
    have hothers := ih hgroups hnext
    rw [List.length_cons, List.range_succ_eq_map, List.map_cons, List.map_map, List.flatMap_cons,
      List.append_assoc]
    refine congrArg₂ List.cons hfirst (Eq.trans ?_ hothers)
    apply List.map_congr_left
    intro i _
    simp only [Function.comp, List.append_assoc]
    congr 1
    rw [Nat.mul_succ]
    ring

@[simp] theorem length_groupsAt (bs : Bits) (offset : Nat) :
    (groupsAt ofBits width bs offset).length = (bs.length - offset) / width := by
  rw [groupsAt, List.length_map, List.length_range]

/-- As many groups are read as the bits behind the cursor hold. -/
theorem groups_rest (h : LawfulGroup width read encode ofBits Fits) {r : Reader} {k : Nat}
    (hk : k ≤ r.remaining) :
    ∃ s', Read.groups width read ((r.skip k).remaining / width) (r.skip k) =
      .ok (groupsAt ofBits width r.rest k) s' := by
  have hmul := Nat.mul_div_le (r.remaining - k) width
  rw [Reader.remaining_skip, groupsAt, Reader.length_rest]
  exact ⟨_, h.groups_skip (by omega)⟩

/-- Writing the groups of a message gives the bits that they take. -/
theorem flatMap_groupsAt (h : LawfulGroup width read encode ofBits Fits) {bs : Bits} {offset : Nat}
    (hle : offset ≤ bs.length) :
    (groupsAt ofBits width bs offset).flatMap encode =
      (bs.drop offset).take (width * (groupsAt ofBits width bs offset).length) := by
  have hmul := Nat.mul_div_le (bs.length - offset) width
  rw [length_groupsAt, groupsAt, h.flatMap_ofBits (by omega)]

theorem fits_groupsAt (h : LawfulGroup width read encode ofBits Fits) {bs : Bits} {offset : Nat}
    (hone : offset + width ≤ bs.length) (hmax : bs.length < offset + width * (maxGroups + 1)) :
    FitsGroups Fits (groupsAt ofBits width bs offset) := by
  refine ⟨?_, ?_, fun group hgroup => ?_⟩
  · rw [length_groupsAt, Nat.le_div_iff_mul_le h.width_pos]
    omega
  · rw [length_groupsAt]
    have : (bs.length - offset) / width < maxGroups + 1 := by
      rw [Nat.div_lt_iff_lt_mul h.width_pos, Nat.mul_comm]
      omega
    omega
  · obtain ⟨i, -, rfl⟩ := List.mem_map.mp hgroup
    exact h.fits_ofBits bs _

/-- The groups of a message are those that were written, if no group fits into what follows. -/
theorem groupsAt_encode (h : LawfulGroup width read encode ofBits Fits) {groups : List α}
    (hfits : ∀ group ∈ groups, Fits group) {as : Bits} {k : Nat} (hk : as.length = k) {rest : Bits}
    (hrest : rest.length < width) :
    groupsAt ofBits width (as ++ (groups.flatMap encode ++ rest)) k = groups := by
  have hlen : (as ++ (groups.flatMap encode ++ rest)).length - k =
      width * groups.length + rest.length := by
    rw [List.length_append, List.length_append, h.length_flatMap, hk, Nat.add_sub_cancel_left]
  rw [groupsAt, hlen, Nat.mul_add_div h.width_pos, Nat.div_eq_of_lt hrest]
  exact h.map_ofBits hfits hk rest

end LawfulGroup

/-! ## Messages -/

theorem binaryAcknowledge_lengths {n : Nat} :
    RecordKind.binaryAcknowledge.lengths.accepts n = true ↔
      n = 72 ∨ n = 104 ∨ n = 136 ∨ n = 168 := by
  simp [RecordKind.lengths, Lengths.accepts]
  omega

theorem BinaryAcknowledge.fits_acksAt {bs : Bits}
    (hacc : RecordKind.binaryAcknowledge.lengths.accepts bs.length = true) :
    FitsGroups Acknowledgement.Fits
      (groupsAt Acknowledgement.ofBits Acknowledgement.width bs 40) := by
  have hn := binaryAcknowledge_lengths.mp hacc
  apply Acknowledgement.lawful.fits_groupsAt
  · show 40 + 32 ≤ bs.length
    omega
  · show bs.length < 40 + 32 * 5
    omega

theorem binaryAcknowledge_lawful :
    LawfulRecord BinaryAcknowledge RecordKind.binaryAcknowledge.lengths .binaryAcknowledge
      BinaryAcknowledge.tailAt where
  message_tailAt r bs := rfl
  wellFormed := Layout.wellFormed_of_all rfl
  head_ofHead values := rfl
  head_tailAt r bs := rfl
  type_ofHead bs := rfl
  type_tailAt r bs := rfl
  width_le n hacc := by
    show 40 ≤ n
    have := binaryAcknowledge_lengths.mp hacc
    omega
  readTail_ok r s h0 hacc hr := by
    have hn := binaryAcknowledge_lengths.mp hacc
    rw [← Reader.remaining_of_position_eq_zero h0] at hn
    obtain ⟨s', hgroups⟩ := Acknowledgement.lawful.groups_rest (by omega : 40 ≤ s.remaining)
    have hread := Read.bind_ok hgroups fun acks => (pure { r with acks } : Read BinaryAcknowledge)
    exact ⟨s', hread⟩
  readTail_error r s h0 hacc hr := absurd trivial hr
  encodeTail_tailAt r bs _ hacc hr := by
    have hn := binaryAcknowledge_lengths.mp hacc
    have hgroups := Acknowledgement.lawful.flatMap_groupsAt (by omega : 40 ≤ bs.length)
    have hall : 32 * ((bs.length - 40) / 32) = (bs.drop 40).length := by
      rw [List.length_drop]
      omega
    refine ⟨_, congrArg (fun acks => Except.ok (acks.flatMap Acknowledgement.encode))
      (List.take_of_length_le (BinaryAcknowledge.fits_acksAt hacc).2.1), ?_⟩
    rw [LawfulGroup.length_groupsAt, Acknowledgement.width, hall, List.take_length] at hgroups
    show bs.take 40 ++ (groupsAt _ Acknowledgement.width bs 40).flatMap Acknowledgement.encode = bs
    rw [Acknowledgement.width, hgroups, List.take_append_drop]
  fitsTail_tailAt r bs _ hacc hr := BinaryAcknowledge.fits_acksAt hacc
  encodeTail_of_fits r hf := by
    obtain ⟨hone, hmax, hfits⟩ : FitsGroups Acknowledgement.Fits r.acks := hf
    have hlen := Acknowledgement.lawful.length_flatMap r.acks
    refine ⟨_, congrArg (fun acks => Except.ok (acks.flatMap Acknowledgement.encode))
      (List.take_of_length_le hmax), ?_, trivial, fun first hfirst => ?_⟩
    · rw [maxGroups] at hmax
      rw [Acknowledgement.width] at hlen
      apply binaryAcknowledge_lengths.mpr
      show 40 + _ = 72 ∨ 40 + _ = 104 ∨ 40 + _ = 136 ∨ 40 + _ = 168
      omega
    · have hrest : ([] : Bits).length < Acknowledgement.width := by decide
      have hback := Acknowledgement.lawful.groupsAt_encode hfits hfirst hrest
      rw [List.append_nil] at hback
      exact congrArg (fun acks => { r with acks }) hback

theorem dataLinkManagement_lengths {n : Nat} :
    RecordKind.dataLinkManagement.lengths.accepts n = true ↔
      n = 72 ∨ n = 104 ∨ n = 136 ∨ n = 160 := by
  simp [RecordKind.lengths, Lengths.accepts]
  omega

theorem DataLinkManagement.fits_reservationsAt {bs : Bits}
    (hacc : RecordKind.dataLinkManagement.lengths.accepts bs.length = true) :
    FitsGroups SlotReservation.Fits
      (groupsAt SlotReservation.ofBits SlotReservation.width bs 40) := by
  have hn := dataLinkManagement_lengths.mp hacc
  apply SlotReservation.lawful.fits_groupsAt
  · show 40 + 30 ≤ bs.length
    omega
  · show bs.length < 40 + 30 * 5
    omega

/-- The bits of reservations behind a head of 40 bits, completed to whole bytes. -/
def DataLinkManagement.completed (slots : List SlotReservation) : Bits :=
  slots.flatMap SlotReservation.encode ++
    Bits.zeros (fillBits 8 (40 + (slots.flatMap SlotReservation.encode).length : Nat))

/-- The completion to whole bytes for each number of reservations. -/
theorem DataLinkManagement.fillBits_eq {n : Nat}
    (hacc : RecordKind.dataLinkManagement.lengths.accepts n = true) :
    40 + 30 * ((n - 40) / 30) + fillBits 8 (40 + 30 * ((n - 40) / 30) : Nat) = n := by
  rcases dataLinkManagement_lengths.mp hacc with rfl | rfl | rfl | rfl <;> rfl

theorem dataLinkManagement_lawful :
    LawfulRecord DataLinkManagement RecordKind.dataLinkManagement.lengths .dataLinkManagement
      DataLinkManagement.tailAt where
  message_tailAt r bs := rfl
  wellFormed := Layout.wellFormed_of_all rfl
  head_ofHead values := rfl
  head_tailAt r bs := rfl
  type_ofHead bs := rfl
  type_tailAt r bs := rfl
  width_le n hacc := by
    show 40 ≤ n
    have := dataLinkManagement_lengths.mp hacc
    omega
  readTail_ok r s h0 hacc hr := by
    have hn := dataLinkManagement_lengths.mp hacc
    rw [← Reader.remaining_of_position_eq_zero h0] at hn
    obtain ⟨s', hgroups⟩ := SlotReservation.lawful.groups_rest (by omega : 40 ≤ s.remaining)
    have hread := Read.bind_ok hgroups fun reservations =>
      (pure { r with reservations } : Read DataLinkManagement)
    exact ⟨s', hread⟩
  readTail_error r s h0 hacc hr := absurd trivial hr
  encodeTail_tailAt r bs _ hacc hr := by
    have hn := dataLinkManagement_lengths.mp hacc
    have hgroups := SlotReservation.lawful.flatMap_groupsAt (by omega : 40 ≤ bs.length)
    have hlen := SlotReservation.lawful.length_flatMap
      (groupsAt SlotReservation.ofBits SlotReservation.width bs 40)
    have hfill := DataLinkManagement.fillBits_eq hacc
    refine ⟨_, congrArg (fun slots => Except.ok (DataLinkManagement.completed slots))
      (List.take_of_length_le (DataLinkManagement.fits_reservationsAt hacc).2.1), ?_⟩
    rw [LawfulGroup.length_groupsAt, SlotReservation.width] at hlen hgroups
    show bs.take 40 ++ DataLinkManagement.completed (groupsAt _ 30 bs 40) =
      bs.take (40 + 30 * (groupsAt _ 30 bs 40).length) ++
        Bits.zeros (bs.length - (40 + 30 * (groupsAt _ 30 bs 40).length))
    rw [DataLinkManagement.completed, hlen, hgroups, LawfulGroup.length_groupsAt,
      ← List.append_assoc, ← List.take_add]
    congr 2
    omega
  fitsTail_tailAt r bs _ hacc hr := DataLinkManagement.fits_reservationsAt hacc
  encodeTail_of_fits r hf := by
    obtain ⟨hone, hmax, hfits⟩ : FitsGroups SlotReservation.Fits r.reservations := hf
    have hlen := SlotReservation.lawful.length_flatMap r.reservations
    refine ⟨_, congrArg (fun slots => Except.ok (DataLinkManagement.completed slots))
      (List.take_of_length_le hmax),
      ?_, trivial, fun first hfirst => ?_⟩
    · apply dataLinkManagement_lengths.mpr
      show 40 + _ = 72 ∨ 40 + _ = 104 ∨ 40 + _ = 136 ∨ 40 + _ = 160
      rw [DataLinkManagement.completed, List.length_append, Bits.length_zeros, hlen,
        SlotReservation.width]
      rw [maxGroups] at hmax
      generalize r.reservations.length = count at hone hmax
      have hcount : count = 1 ∨ count = 2 ∨ count = 3 ∨ count = 4 := by omega
      rcases hcount with rfl | rfl | rfl | rfl <;> decide
    · have hrest : (Bits.zeros (fillBits 8 (40 +
          (r.reservations.flatMap SlotReservation.encode).length : Nat))).length <
            SlotReservation.width := by
        rw [Bits.length_zeros]
        exact (fillBits_lt (by decide) _).trans (by decide)
      have hback := SlotReservation.lawful.groupsAt_encode hfits hfirst hrest
      exact congrArg (fun reservations => { r with reservations }) hback

end AisStation
