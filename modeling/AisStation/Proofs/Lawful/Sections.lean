import AisStation.Proofs.Lawful

/-!
# Records with optional sections

Which sections a message has is told by its length, or by a flag behind them. Every section is read
from its places, and a message without it keeps the defaults of its fields.
-/

namespace AisStation

open WireRecord

/-! ## Interrogation -/

theorem interrogation_lengths {n : Nat} :
    RecordKind.interrogation.lengths.accepts n = true ↔ n = 88 ∨ n = 110 ∨ n = 160 := by
  simp [RecordKind.lengths, Lengths.accepts]
  omega

namespace Interrogation

theorem readTail_ok (r : Interrogation) {s : Reader} (h0 : s.position = 0)
    (hn : s.length = 88 ∨ s.length = 110 ∨ s.length = 160) :
    ∃ s', readTail r (s.skip 88) = .ok (r.tailAt s.rest) s' := by
  have hrem := Reader.remaining_of_position_eq_zero h0
  have hrest := s.length_rest
  refine ⟨s.skip s.remaining, (Read.bind_ok (Read.bitLength_apply _) _).trans ?_⟩
  rw [Interrogation.tailAt, hrest, Reader.length_skip, ← hrem]
  rw [← hrem] at hn
  rcases hn with hn | hn | hn
  · simp only [hn]
    rfl
  · simp only [hn]
    show (Read.uint 2 >>= fun spare2 => Read.uint 6 >>= fun type12 =>
      Read.uint 12 >>= fun offset12 => Read.uint 2 >>= fun spare3 => pure _) (s.skip 88) = _
    rw [Read.bind_ok (Read.uint_skip (by omega)), Read.bind_ok (Read.uint_skip (by omega)),
      Read.bind_ok (Read.uint_skip (by omega)), Read.bind_ok (Read.uint_skip (by omega))]
    rfl
  · simp only [hn]
    show (Read.uint 2 >>= fun spare2 => Read.uint 6 >>= fun type12 =>
      Read.uint 12 >>= fun offset12 => Read.uint 2 >>= fun spare3 =>
      Read.uint 30 >>= fun mmsi2 => Read.uint 6 >>= fun type21 =>
      Read.uint 12 >>= fun offset21 => Read.uint 2 >>= fun spare4 => pure _) (s.skip 88) = _
    rw [Read.bind_ok (Read.uint_skip (by omega)), Read.bind_ok (Read.uint_skip (by omega)),
      Read.bind_ok (Read.uint_skip (by omega)), Read.bind_ok (Read.uint_skip (by omega)),
      Read.bind_ok (Read.uint_skip (by omega)), Read.bind_ok (Read.uint_skip (by omega)),
      Read.bind_ok (Read.uint_skip (by omega)), Read.bind_ok (Read.uint_skip (by omega))]
    rfl

theorem encodeTail_tailAt {r : Interrogation} (hblank : ofHead (head r) = r) {bs : Bits}
    (hn : bs.length = 88 ∨ bs.length = 110 ∨ bs.length = 160) :
    encodeTail (r.tailAt bs) = .ok (bs.drop 88) := by
  have htype12 : r.type12 = none := (congrArg type12 hblank).symm
  have hmmsi2 : r.mmsi2 = none := (congrArg mmsi2 hblank).symm
  rcases hn with hn | hn | hn
  · rw [tailAt, if_neg (by omega), if_neg (by omega), List.drop_eq_nil_of_le (by omega)]
    simp [encodeTail, htype12, hmmsi2]
  · rw [tailAt, if_neg (by omega), if_pos (by omega)]
    simp only [encodeTail, secondAt, Option.isSome_some, true_or, if_true, Option.getD_some, hmmsi2,
      List.append_nil]
    rw [Bits.ofInt_uintAt (by omega), Bits.ofInt_uintAt (by omega), Bits.ofInt_uintAt (by omega),
      Bits.ofInt_uintAt (by omega), Bits.take_drop_append rfl, Bits.take_drop_append rfl,
      Bits.take_drop_append rfl, List.take_of_length_le (by simp; omega)]
  · rw [tailAt, if_pos (by omega)]
    simp only [encodeTail, secondAt, otherAt, Option.isSome_some, true_or, if_true,
      Option.getD_some]
    rw [Bits.ofInt_uintAt (by omega), Bits.ofInt_uintAt (by omega), Bits.ofInt_uintAt (by omega),
      Bits.ofInt_uintAt (by omega), Bits.ofInt_uintAt (by omega), Bits.ofInt_uintAt (by omega),
      Bits.ofInt_uintAt (by omega), Bits.ofInt_uintAt (by omega), Bits.take_drop_append rfl,
      Bits.take_drop_append rfl, Bits.take_drop_append rfl, Bits.take_drop_append rfl,
      Bits.take_drop_append rfl, Bits.take_drop_append rfl, Bits.take_drop_append rfl,
      List.take_of_length_le (by simp; omega)]

theorem fitsTail_tailAt {r : Interrogation} (hblank : ofHead (head r) = r) {bs : Bits}
    (hn : bs.length = 88 ∨ bs.length = 110 ∨ bs.length = 160) : (r.tailAt bs).FitsTail := by
  have htype12 : r.type12 = none := (congrArg type12 hblank).symm
  have hmmsi2 : r.mmsi2 = none := (congrArg mmsi2 hblank).symm
  have hother : r.LacksOther := by
    rw [← hblank]
    exact ⟨rfl, rfl, rfl⟩
  have hfits := bs.fitsUnsigned_uintAt
  rcases hn with hn | hn | hn
  · have hsecond : r.LacksSecond := by
      rw [← hblank]
      exact ⟨rfl, rfl, rfl⟩
    rw [tailAt, if_neg (by omega), if_neg (by omega), FitsTail, htype12, hmmsi2]
    exact ⟨hsecond, hother⟩
  · rw [tailAt, if_neg (by omega), if_pos (by omega), FitsTail]
    simp only [secondAt, hmmsi2]
    exact ⟨⟨hfits _ _, hfits _ _, hfits _ _, hfits _ _⟩, ⟨hother.1, hother.2, hother.3⟩⟩
  · rw [tailAt, if_pos (by omega)]
    exact ⟨⟨hfits _ _, hfits _ _, hfits _ _, hfits _ _⟩,
      ⟨hfits _ _, hfits _ _, hfits _ _, hfits _ _⟩⟩

/-- A message that fits is read back from behind its head. -/
theorem encodeTail_of_fits {r : Interrogation} (hf : r.FitsTail) :
    ∃ tail, encodeTail r = .ok tail ∧
      (88 + tail.length = 88 ∨ 88 + tail.length = 110 ∨ 88 + tail.length = 160) ∧
      ∀ first : Bits, first.length = 88 →
        (ofHead (head r) : Interrogation).tailAt (first ++ tail) = r := by
  obtain ⟨header, spare, mmsi1, type11, offset11, spare2, type12, offset12, spare3, mmsi2, type21,
    offset21, spare4⟩ := r
  rcases type12 with _ | type12 <;> rcases mmsi2 with _ | mmsi2
  · obtain ⟨⟨rfl, rfl, rfl⟩, ⟨rfl, rfl, rfl⟩⟩ := hf
    refine ⟨[], rfl, .inl rfl, fun first hfirst => ?_⟩
    rw [List.append_nil, tailAt, if_neg (by omega), if_neg (by omega)]
    rfl
  · exact absurd hf id
  · obtain ⟨⟨hspare2, htype12, hoffset12, hspare3⟩, ⟨rfl, rfl, rfl⟩⟩ := hf
    refine ⟨_, rfl, .inr (.inl (by simp)), fun first hfirst => ?_⟩
    rw [tailAt, if_neg (by simp [hfirst]), if_pos (by simp [hfirst])]
    simp [secondAt, Bits.uintAt_append_of_le, hfirst, hspare2.uintAt_zero, htype12.uintAt_zero,
      hoffset12.uintAt_zero, hspare3.uintAt_ofInt, head, ofHead]
  · obtain ⟨⟨hspare2, htype12, hoffset12, hspare3⟩, ⟨hmmsi2, htype21, hoffset21, hspare4⟩⟩ := hf
    refine ⟨_, rfl, .inr (.inr (by simp)), fun first hfirst => ?_⟩
    rw [tailAt, if_pos (by simp [hfirst])]
    simp [secondAt, otherAt, Bits.uintAt_append_of_le, hfirst, hspare2.uintAt_zero,
      htype12.uintAt_zero, hoffset12.uintAt_zero, hspare3.uintAt_zero, hmmsi2.uintAt_zero,
      htype21.uintAt_zero, hoffset21.uintAt_zero, hspare4.uintAt_ofInt, head, ofHead]

end Interrogation

theorem interrogation_lawful :
    LawfulRecord Interrogation RecordKind.interrogation.lengths .interrogation
      Interrogation.tailAt where
  message_tailAt r bs := rfl
  wellFormed := Layout.wellFormed_of_all rfl
  head_ofHead values := rfl
  head_tailAt r bs := by
    rw [Interrogation.tailAt]
    split_ifs <;> rfl
  type_ofHead bs := rfl
  type_tailAt r bs := by
    rw [Interrogation.tailAt]
    split_ifs <;> rfl
  width_le n hacc := by
    show 88 ≤ n
    have := interrogation_lengths.mp hacc
    omega
  readTail_ok r s h0 hacc hr := Interrogation.readTail_ok r h0 (interrogation_lengths.mp hacc)
  readTail_error r s h0 hacc hr := absurd trivial hr
  encodeTail_tailAt r bs hblank hacc hr :=
    ⟨_, Interrogation.encodeTail_tailAt hblank (interrogation_lengths.mp hacc),
      List.take_append_drop 88 bs⟩
  fitsTail_tailAt r bs hblank hacc hr :=
    Interrogation.fitsTail_tailAt hblank (interrogation_lengths.mp hacc)
  encodeTail_of_fits r hf := by
    obtain ⟨tail, htail, hn, hback⟩ := Interrogation.encodeTail_of_fits hf
    exact ⟨tail, htail, interrogation_lengths.mpr hn, trivial, hback⟩

/-! ## Assignment of a reporting mode -/

theorem assignedModeCommand_lengths {n : Nat} :
    RecordKind.assignedModeCommand.lengths.accepts n = true ↔ n = 96 ∨ n = 144 := by
  simp [RecordKind.lengths, Lengths.accepts]
  omega

namespace AssignedModeCommand

theorem readTail_ok (r : AssignedModeCommand) {s : Reader} (h0 : s.position = 0)
    (hn : s.length = 96 ∨ s.length = 144) :
    ∃ s', readTail r (s.skip 92) = .ok (r.tailAt s.rest) s' := by
  have hrem := Reader.remaining_of_position_eq_zero h0
  refine ⟨s.skip s.remaining, (Read.bind_ok (Read.bitLength_apply _) _).trans ?_⟩
  rw [tailAt, s.length_rest, Reader.length_skip, ← hrem]
  rw [← hrem] at hn
  rcases hn with hn | hn
  · simp only [hn]
    show (Read.uint 4 >>= fun spare2 => pure _) (s.skip 92) = _
    rw [Read.bind_ok (Read.uint_skip (by omega))]
    rfl
  · simp only [hn]
    show (Read.uint 30 >>= fun destMmsiB => Read.uint 12 >>= fun offsetB =>
      Read.uint 10 >>= fun incrementB => pure _) (s.skip 92) = _
    rw [Read.bind_ok (Read.uint_skip (by omega)), Read.bind_ok (Read.uint_skip (by omega)),
      Read.bind_ok (Read.uint_skip (by omega))]
    rfl

theorem encodeTail_tailAt {r : AssignedModeCommand} (hblank : ofHead (head r) = r) {bs : Bits}
    (hn : bs.length = 96 ∨ bs.length = 144) : encodeTail (r.tailAt bs) = .ok (bs.drop 92) := by
  have hstation : r.destMmsiB = none := (congrArg destMmsiB hblank).symm
  rcases hn with hn | hn
  · rw [tailAt, if_neg (by omega)]
    simp only [encodeTail, hstation]
    rw [Bits.ofInt_uintAt (by omega), List.take_of_length_le (by simp; omega)]
  · rw [tailAt, if_pos hn]
    simp only [encodeTail]
    rw [Bits.ofInt_uintAt (by omega), Bits.ofInt_uintAt (by omega), Bits.ofInt_uintAt (by omega),
      Bits.take_drop_append rfl, Bits.take_drop_append rfl,
      List.take_of_length_le (by simp; omega)]

theorem fitsTail_tailAt {r : AssignedModeCommand} (hblank : ofHead (head r) = r) {bs : Bits}
    (hn : bs.length = 96 ∨ bs.length = 144) : (r.tailAt bs).FitsTail := by
  have hfits := bs.fitsUnsigned_uintAt
  rcases hn with hn | hn
  · rw [tailAt, if_neg (by omega), ← hblank]
    exact ⟨rfl, rfl, hfits _ _⟩
  · rw [tailAt, if_pos hn, ← hblank]
    exact ⟨hfits _ _, hfits _ _, hfits _ _, rfl⟩

/-- A message that fits is read back from behind its head. -/
theorem encodeTail_of_fits {r : AssignedModeCommand} (hf : r.FitsTail) :
    ∃ tail, encodeTail r = .ok tail ∧ (92 + tail.length = 96 ∨ 92 + tail.length = 144) ∧
      ∀ first : Bits, first.length = 92 →
        (ofHead (head r) : AssignedModeCommand).tailAt (first ++ tail) = r := by
  obtain ⟨header, spare, destMmsiA, offsetA, incrementA, destMmsiB, offsetB, incrementB, spare2⟩ := r
  cases destMmsiB with
  | none =>
    obtain ⟨rfl, rfl, hspare2⟩ := hf
    refine ⟨_, rfl, .inl (by simp), fun first hfirst => ?_⟩
    rw [tailAt, if_neg (by simp [hfirst])]
    simp [Bits.uintAt_append_of_le, hfirst, hspare2.uintAt_ofInt, head, ofHead]
  | some destMmsiB =>
    obtain ⟨hstation, hoffset, hincrement, rfl⟩ := hf
    refine ⟨_, rfl, .inr (by simp), fun first hfirst => ?_⟩
    rw [tailAt, if_pos (by simp [hfirst])]
    simp [Bits.uintAt_append_of_le, hfirst, hstation.uintAt_zero, hoffset.uintAt_zero,
      hincrement.uintAt_ofInt, head, ofHead]

end AssignedModeCommand

theorem assignedModeCommand_lawful :
    LawfulRecord AssignedModeCommand RecordKind.assignedModeCommand.lengths .assignedModeCommand
      AssignedModeCommand.tailAt where
  message_tailAt r bs := rfl
  wellFormed := Layout.wellFormed_of_all rfl
  head_ofHead values := rfl
  head_tailAt r bs := by
    rw [AssignedModeCommand.tailAt]
    split_ifs <;> rfl
  type_ofHead bs := rfl
  type_tailAt r bs := by
    rw [AssignedModeCommand.tailAt]
    split_ifs <;> rfl
  width_le n hacc := by
    show 92 ≤ n
    have := assignedModeCommand_lengths.mp hacc
    omega
  readTail_ok r s h0 hacc hr :=
    AssignedModeCommand.readTail_ok r h0 (assignedModeCommand_lengths.mp hacc)
  readTail_error r s h0 hacc hr := absurd trivial hr
  encodeTail_tailAt r bs hblank hacc hr :=
    ⟨_, AssignedModeCommand.encodeTail_tailAt hblank (assignedModeCommand_lengths.mp hacc),
      List.take_append_drop 92 bs⟩
  fitsTail_tailAt r bs hblank hacc hr :=
    AssignedModeCommand.fitsTail_tailAt hblank (assignedModeCommand_lengths.mp hacc)
  encodeTail_of_fits r hf := by
    obtain ⟨tail, htail, hn, hback⟩ := AssignedModeCommand.encodeTail_of_fits hf
    exact ⟨tail, htail, assignedModeCommand_lengths.mpr hn, trivial, hback⟩

/-! ## Management of channels -/

theorem channelManagement_lengths {n : Nat} :
    RecordKind.channelManagement.lengths.accepts n = true ↔ n = 168 := by
  simp [RecordKind.lengths, Lengths.accepts]
  omega

namespace ChannelManagement

/-- The number that a look ahead sees is the flag of that place. -/
theorem toNat_uintAt_eq_one (bs : Bits) (offset : Nat) :
    (bs.uintAt offset 1).toNat = 1 ↔ bs.flagAt offset = true := by
  rw [Bits.flagAt, beq_iff_eq]
  have := bs.uintAt_nonneg offset 1
  omega

theorem readTail_ok (r : ChannelManagement) {s : Reader} (h0 : s.position = 0)
    (hn : s.length = 168) : ∃ s', readTail r (s.skip 69) = .ok (r.tailAt s.rest) s' := by
  have hrem := Reader.remaining_of_position_eq_zero h0
  rw [hn] at hrem
  have hpeek : Read.peek addressedOffset 1 (s.skip 69) = _ :=
    Read.peek_skip h0 (by rw [hn]; decide)
  refine ⟨s.skip 168, (Read.bind_ok hpeek _).trans ?_⟩
  by_cases hflag : s.rest.flagAt addressedOffset = true
  · rw [if_pos ((toNat_uintAt_eq_one _ _).mpr hflag), tailAt, if_pos hflag]
    show (Read.uint 30 >>= fun destMmsiA => Read.uint 5 >>= fun spare2 =>
      Read.uint 30 >>= fun destMmsiB => Read.uint 5 >>= fun spare3 => Read.flag >>= fun addressed =>
      Read.flag >>= fun bandA => Read.flag >>= fun bandB => Read.uint 3 >>= fun zoneSize =>
      Read.uint 23 >>= fun spare4 => pure _) (s.skip 69) = _
    rw [Read.bind_ok (Read.uint_skip (by omega)), Read.bind_ok (Read.uint_skip (by omega)),
      Read.bind_ok (Read.uint_skip (by omega)), Read.bind_ok (Read.uint_skip (by omega)),
      Read.bind_ok (Read.flag_skip (by omega)), Read.bind_ok (Read.flag_skip (by omega)),
      Read.bind_ok (Read.flag_skip (by omega)), Read.bind_ok (Read.uint_skip (by omega)),
      Read.bind_ok (Read.uint_skip (by omega))]
    rfl
  · rw [if_neg (mt (toNat_uintAt_eq_one _ _).mp hflag), tailAt, if_neg hflag]
    show (Position.read .coarse >>= fun nePosition => Position.read .coarse >>= fun swPosition =>
      Read.flag >>= fun addressed => Read.flag >>= fun bandA => Read.flag >>= fun bandB =>
      Read.uint 3 >>= fun zoneSize => Read.uint 23 >>= fun spare4 => pure _) (s.skip 69) = _
    rw [Read.bind_ok (Position.read_skip (by rw [hrem]; decide)),
      Read.bind_ok (Position.read_skip (by rw [hrem]; decide)),
      Read.bind_ok (Read.flag_skip (by rw [hrem]; decide)),
      Read.bind_ok (Read.flag_skip (by rw [hrem]; decide)),
      Read.bind_ok (Read.flag_skip (by rw [hrem]; decide)),
      Read.bind_ok (Read.uint_skip (by rw [hrem]; decide)),
      Read.bind_ok (Read.uint_skip (by rw [hrem]; decide))]
    rfl

/-- Writing what stands behind the area gives the bits there. -/
theorem encode_behind {bs : Bits} (hn : bs.length = 168) :
    [bs.flagAt 139, bs.flagAt 140, bs.flagAt 141] ++ Bits.ofInt 3 (bs.uintAt 142 3) ++
      Bits.ofInt 23 (bs.uintAt 145 23) = bs.drop 139 := by
  have hflags : [bs.flagAt 139, bs.flagAt 140, bs.flagAt 141] =
      [bs.flagAt 139] ++ [bs.flagAt 140] ++ [bs.flagAt 141] := rfl
  rw [hflags, Bits.singleton_flagAt (by omega), Bits.singleton_flagAt (by omega),
    Bits.singleton_flagAt (by omega), Bits.ofInt_uintAt (by omega), Bits.ofInt_uintAt (by omega),
    Bits.take_drop_append rfl, Bits.take_drop_append rfl, Bits.take_drop_append rfl,
    Bits.take_drop_append rfl, List.take_of_length_le (by simp; omega)]

theorem encodeTail_tailAt (r : ChannelManagement) {bs : Bits} (hn : bs.length = 168) :
    encodeTail (r.tailAt bs) = .ok (bs.drop 69) := by
  by_cases hflag : bs.flagAt addressedOffset = true
  · have harea : encodeTail (r.tailAt bs) = .ok ((if bs.flagAt addressedOffset then
        Bits.ofInt 30 (bs.uintAt 69 30) ++ Bits.ofInt 5 (bs.uintAt 99 5) ++
          Bits.ofInt 30 (bs.uintAt 104 30) ++ Bits.ofInt 5 (bs.uintAt 134 5)
        else r.nePosition.encode ++ r.swPosition.encode) ++
        [bs.flagAt 139, bs.flagAt 140, bs.flagAt 141] ++ Bits.ofInt 3 (bs.uintAt 142 3) ++
          Bits.ofInt 23 (bs.uintAt 145 23)) := by
      rw [tailAt, if_pos hflag]
      rfl
    rw [harea, if_pos hflag, Bits.ofInt_uintAt (by omega), Bits.ofInt_uintAt (by omega),
      Bits.ofInt_uintAt (by omega), Bits.ofInt_uintAt (by omega), Bits.take_drop_append rfl,
      Bits.take_drop_append rfl, Bits.take_drop_append rfl, List.append_assoc, List.append_assoc,
      ← List.append_assoc [_, _, _], encode_behind hn, Bits.take_drop_append_drop rfl]
  · have harea : encodeTail (r.tailAt bs) = .ok ((if bs.flagAt addressedOffset then
        Bits.ofInt 30 r.destMmsiA ++ Bits.ofInt 5 r.spare2 ++ Bits.ofInt 30 r.destMmsiB ++
          Bits.ofInt 5 r.spare3 else
        (Position.ofBits .coarse bs 69).encode ++ (Position.ofBits .coarse bs 104).encode) ++
        [bs.flagAt 139, bs.flagAt 140, bs.flagAt 141] ++ Bits.ofInt 3 (bs.uintAt 142 3) ++
          Bits.ofInt 23 (bs.uintAt 145 23)) := by
      rw [tailAt, if_neg hflag]
      rfl
    rw [harea, if_neg hflag, Position.encode_ofBits (by rw [hn]; decide),
      Position.encode_ofBits (by rw [hn]; decide),
      Bits.take_drop_append (by rfl : 69 + Grid.coarse.bits = 104), List.append_assoc,
      List.append_assoc, ← List.append_assoc [_, _, _], encode_behind hn,
      Bits.take_drop_append_drop (by rfl)]

theorem fitsTail_tailAt {r : ChannelManagement} (hblank : ofHead (head r) = r) (bs : Bits) :
    (r.tailAt bs).FitsTail := by
  have hfits := bs.fitsUnsigned_uintAt
  refine ⟨?_, hfits _ _, hfits _ _⟩
  by_cases hflag : bs.flagAt addressedOffset = true
  · have hfit : ((ofHead (head r) : ChannelManagement).tailAt bs).FitsStations := by
      rw [tailAt, if_pos hflag]
      exact ⟨hfits _ _, hfits _ _, hfits _ _, hfits _ _, rfl, rfl⟩
    rw [hblank] at hfit
    exact (if_pos hflag).mpr hfit
  · have hfit : ((ofHead (head r) : ChannelManagement).tailAt bs).FitsRegion := by
      rw [tailAt, if_neg hflag]
      exact ⟨Position.fits_ofBits _ _, Position.fits_ofBits _ _, rfl, rfl, rfl, rfl⟩
    rw [hblank] at hfit
    exact (if_neg hflag).mpr hfit

/-- A message that fits is read back from behind its head. -/
theorem encodeTail_of_fits {r : ChannelManagement} (hf : r.FitsTail) :
    ∃ tail, encodeTail r = .ok tail ∧ 69 + tail.length = 168 ∧
      ∀ first : Bits, first.length = 69 →
        (ofHead (head r) : ChannelManagement).tailAt (first ++ tail) = r := by
  obtain ⟨harea, hzone, hspare4⟩ := hf
  obtain ⟨header, spare, channelA, channelB, txrx, power, nePosition, swPosition, destMmsiA, spare2,
    destMmsiB, spare3, addressed, bandA, bandB, zoneSize, spare4⟩ := r
  cases addressed with
  | true =>
    obtain ⟨hstationA, hspare2, hstationB, hspare3, rfl, rfl⟩ := harea
    refine ⟨_, rfl, by simp, fun first hfirst => ?_⟩
    rw [tailAt, if_pos (by
      simp [addressedOffset, Bits.flagAt_append_of_le, hfirst, Bits.flagAt_cons])]
    simp [stationsAt, addressedOffset, Bits.uintAt_append_of_le, Bits.flagAt_append_of_le, hfirst,
      hstationA.uintAt_zero, hspare2.uintAt_zero, hstationB.uintAt_zero, hspare3.uintAt_zero,
      Bits.flagAt_cons, Bits.flagAt_cons_succ, Bits.uintAt_cons, hzone.uintAt_zero,
      hspare4.uintAt_ofInt, head, ofHead]
  | false =>
    obtain ⟨hne, hsw, rfl, rfl, rfl, rfl⟩ := harea
    have hbits : Grid.coarse.bits = 35 := rfl
    refine ⟨_, rfl, by simp [hbits], fun first hfirst => ?_⟩
    rw [tailAt, if_neg (by
      simp [addressedOffset, Bits.flagAt_append_of_le, hfirst, hbits, Bits.flagAt_cons])]
    simp [regionAt, addressedOffset, Position.ofBits_append_of_le, Bits.uintAt_append_of_le,
      Bits.flagAt_append_of_le, hfirst, hbits, hne.ofBits_zero, hsw.ofBits_zero, Bits.flagAt_cons,
      Bits.flagAt_cons_succ, Bits.uintAt_cons, hzone.uintAt_zero, hspare4.uintAt_ofInt, head, ofHead]

end ChannelManagement

theorem channelManagement_lawful :
    LawfulRecord ChannelManagement RecordKind.channelManagement.lengths .channelManagement
      ChannelManagement.tailAt where
  message_tailAt r bs := rfl
  wellFormed := Layout.wellFormed_of_all rfl
  head_ofHead values := rfl
  head_tailAt r bs := by
    rw [ChannelManagement.tailAt]
    split_ifs <;> rfl
  type_ofHead bs := rfl
  type_tailAt r bs := by
    rw [ChannelManagement.tailAt]
    split_ifs <;> rfl
  width_le n hacc := by
    show 69 ≤ n
    have := channelManagement_lengths.mp hacc
    omega
  readTail_ok r s h0 hacc hr :=
    ChannelManagement.readTail_ok r h0 (channelManagement_lengths.mp hacc)
  readTail_error r s h0 hacc hr := absurd trivial hr
  encodeTail_tailAt r bs _ hacc hr :=
    ⟨_, ChannelManagement.encodeTail_tailAt r (channelManagement_lengths.mp hacc),
      List.take_append_drop 69 bs⟩
  fitsTail_tailAt r bs hblank hacc hr := ChannelManagement.fitsTail_tailAt hblank bs
  encodeTail_of_fits r hf := by
    obtain ⟨tail, htail, hn, hback⟩ := ChannelManagement.encodeTail_of_fits hf
    exact ⟨tail, htail, channelManagement_lengths.mpr hn, trivial, hback⟩

end AisStation
