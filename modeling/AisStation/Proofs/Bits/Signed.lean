import AisStation.Proofs.Bits.Appending
import AisStation.Proofs.Kept

/-!
# Two's complement on both sides

A number is read in two's complement in two ways: a reader takes the bits of its field as they
stand and subtracts, and a position cuts its raw coordinates, which may have any size and sign, to
their widths first. Both give the one number of the signed range with the same low bits. So a
coordinate means the same before it is written and after it is read, wherever it stands.
-/

namespace AisStation

/-- The reading in two's complement is the only number of its range with the same low bits. -/
theorem signed_eq_iff {width : Nat} (h : 1 ≤ width) {v s : Int} :
    signed width v = s ↔
      -2 ^ (width - 1) ≤ s ∧ s < 2 ^ (width - 1) ∧ s % 2 ^ width = v % 2 ^ width := by
  obtain ⟨w, rfl⟩ : ∃ w, width = w + 1 := ⟨width - 1, (Nat.sub_add_cancel h).symm⟩
  rw [Nat.add_sub_cancel]
  constructor
  · rintro rfl
    obtain ⟨hlo, hhi⟩ := Bits.signed_mem_range w v
    exact ⟨hlo, hhi, Bits.unsigned_signed (w + 1) v⟩
  · rintro ⟨hlo, hhi, hlow⟩
    have hself : signed (w + 1) s = s := Bits.signed_of_mem_range hlo hhi
    rw [← hself]
    exact (Bits.signed_congr hlow).symm

/-- The bits of a field are below `2 ^ width` as they stand, so nothing is cut off. -/
theorem signed_toNat {bs : Bits} {width : Nat} (h : bs.length = width) :
    signed width bs.toNat =
      if 2 ^ (width - 1) ≤ (bs.toNat : Int) then (bs.toNat : Int) - 2 ^ width else bs.toNat := by
  have hlow : unsigned width bs.toNat = bs.toNat :=
    Bits.unsigned_of_lt (Int.natCast_nonneg _) (Bits.toNat_lt_int bs h)
  rw [signed, hlow]

theorem signed_unsigned (width : Nat) (v : Int) :
    signed width (unsigned width v) = signed width v :=
  Bits.signed_congr (Bits.unsigned_unsigned width v)

/-! ## Reading -/

/-- What is read in two's complement is made of what is read without a sign. -/
theorem Access.sint_of_uint {r r' : Reader} {width n : Int} (h : uint width r = .ok n r') :
    sint width r =
      .ok (if 2 ^ (width.toNat - 1) ≤ n then n - 2 ^ width.toNat else n) r' := by
  -- Both reads are complete, exhausted or refused together, and `h` leaves the first case only.
  by_cases hpos : 0 < width
  · by_cases hle : width.toNat ≤ r.remaining
    · have huint := BitField.read_complete (f := .uint width) hpos hle
      have hsint := BitField.read_complete (f := .sint width) hpos hle
      have hlength : (r.rest.take width.toNat).length = width.toNat := by
        rw [List.length_take, Reader.length_rest, min_eq_left hle]
      obtain ⟨hn, hr⟩ := EStateM.Result.ok.inj (h.symm.trans huint)
      have hvalue := signed_toNat hlength
      rw [hn, hr]
      exact hsint.trans (congrArg (EStateM.Result.ok · _) hvalue)
    · have hlt : r.remaining < width.toNat := Nat.not_le.mp hle
      have hshort := BitField.read_exhausted (f := .uint width) trivial hpos hlt
      exact nomatch h.symm.trans hshort
  · have hrefused := BitField.read_impossible (f := .uint width) hpos r
    exact nomatch h.symm.trans hrefused

/-- Bits that were written are read from the place behind those that were there before, whatever was
written afterwards. -/
theorem Writer.exists_reader (w : Writer) (bits : Bits) (ops : List Operation) :
    ∃ r tail, ((⟨w.bits ++ bits⟩ : Writer).run ops).toReader = .ok r ∧
      r.rest = w.bits ++ (bits ++ tail) := by
  obtain ⟨tail, htail⟩ := exists_run_eq ⟨w.bits ++ bits⟩ ops
  obtain ⟨r, hr, -, -, hrest⟩ := Reader.ofArmor_encode (w.bits ++ bits ++ tail)
  refine ⟨r, tail, ?_, ?_⟩
  · rw [htail]
    exact hr
  · rw [hrest, List.append_assoc]

/-- A number is read in two's complement where its low bits stand. -/
theorem Access.sint_ofInt {r : Reader} {front tail : Bits} {width : Int} (v : Int)
    (h : 0 < width) (hrest : r.rest = front ++ (Bits.ofInt width.toNat v ++ tail)) :
    sint width (r.skip front.length) =
      .ok (signed width.toNat v) (r.skip (front.length + width.toNat)) := by
  have hhere : (r.skip front.length).rest = Bits.ofInt width.toNat v ++ tail := by
    rw [Reader.rest_skip, hrest, List.drop_left' rfl]
  have hle : width.toNat ≤ (r.skip front.length).remaining := by
    rw [← Reader.length_rest, hhere, List.length_append, Bits.length_ofInt]
    exact Nat.le_add_right _ _
  have hread := BitField.read_complete (f := .sint width) h hle
  rw [hhere, BitField.size, List.take_left' (Bits.length_ofInt _ _), Reader.skip_skip] at hread
  have hvalue : signed width.toNat (Bits.ofInt width.toNat v).toNat = signed width.toNat v := by
    rw [Bits.toNat_ofInt, signed_unsigned]
  exact hread.trans (congrArg (EStateM.Result.ok · _) hvalue)

/-! ## Positions -/

namespace Position

variable {grid : Grid}

/-- A position is written as two numbers, longitude first. -/
theorem write_eq (p : Position grid) (w : Writer) :
    p.write w = (do
      Write.uint p.longitude grid.longitudeBits
      Write.uint p.latitude grid.latitudeBits : Write Unit) w := by
  have hlongitude : 0 < (grid.longitudeBits : Int) := by
    cases grid <;> decide
  have hlatitude : 0 < (grid.latitudeBits : Int) := by
    cases grid <;> decide
  rw [bind_ok_apply (Writer.write_uint w p.longitude hlongitude),
    Writer.write_uint _ p.latitude hlatitude, List.append_assoc]
  rfl

theorem signedLongitude_ofRaw (p : Position grid) :
    (ofRaw grid p.longitude p.latitude).signedLongitude = p.signedLongitude :=
  signed_unsigned grid.longitudeBits p.longitude

theorem signedLatitude_ofRaw (p : Position grid) :
    (ofRaw grid p.longitude p.latitude).signedLatitude = p.signedLatitude :=
  signed_unsigned grid.latitudeBits p.latitude

theorem read_encode {r : Reader} {front tail : Bits} (p : Position grid)
    (hrest : r.rest = front ++ (p.encode ++ tail)) :
    read grid (r.skip front.length) =
      .ok (ofRaw grid p.longitude p.latitude) (r.skip (front.length + grid.bits)) := by
  have hle : front.length + grid.bits ≤ r.remaining := by
    rw [← Reader.length_rest, hrest]
    simp only [List.length_append, length_encode]
    omega
  rw [read_skip hle, hrest, ofBits_encode p rfl tail]
  rfl

/-- A coordinate that is available after it was cut to its width was so before. -/
theorem ne_of_unsigned_ne {width : Nat} {v unavailable : Int}
    (hkept : unsigned width unavailable = unavailable) (h : unsigned width v ≠ unavailable) :
    v ≠ unavailable := by
  rintro rfl
  exact h hkept

theorem longitudeDegrees?_ofRaw (p : Position grid)
    (h : (ofRaw grid p.longitude p.latitude).longitudeAvailable = true) :
    (ofRaw grid p.longitude p.latitude).longitudeDegrees? = p.longitudeDegrees? := by
  have hkept : unsigned grid.longitudeBits grid.longitudeUnavailable =
      grid.longitudeUnavailable := by
    cases grid <;> decide
  have hthis : p.longitudeAvailable = true :=
    bne_iff_ne.mpr (ne_of_unsigned_ne hkept (bne_iff_ne.mp h))
  rw [longitudeDegrees?, longitudeDegrees?, if_pos h, if_pos hthis, signedLongitude_ofRaw]

theorem latitudeDegrees?_ofRaw (p : Position grid)
    (h : (ofRaw grid p.longitude p.latitude).latitudeAvailable = true) :
    (ofRaw grid p.longitude p.latitude).latitudeDegrees? = p.latitudeDegrees? := by
  have hkept : unsigned grid.latitudeBits grid.latitudeUnavailable =
      grid.latitudeUnavailable := by
    cases grid <;> decide
  have hthis : p.latitudeAvailable = true :=
    bne_iff_ne.mpr (ne_of_unsigned_ne hkept (bne_iff_ne.mp h))
  rw [latitudeDegrees?, latitudeDegrees?, if_pos h, if_pos hthis, signedLatitude_ofRaw]

end Position

/-! ## Agreement -/

/-- A number and the coordinates of a position have the same reading in two's complement before they
are written and after they are read, and it is the only one of its range. -/
theorem signed_received :
    (∀ (width : Nat) (v s : Int), 1 ≤ width →
      (signed width v = s ↔
        -2 ^ (width - 1) ≤ s ∧ s < 2 ^ (width - 1) ∧ s % 2 ^ width = v % 2 ^ width)) ∧
    (∀ (r r' : Reader) (width n : Int), Access.uint width r = .ok n r' →
      Access.sint width r =
        .ok (if 2 ^ (width.toNat - 1) ≤ n then n - 2 ^ width.toNat else n) r') ∧
    (∀ (w : Writer) (v width : Int) (ops : List Writer.Operation), 1 ≤ width →
      ∃ w' r, Write.uint v width w = .ok () w' ∧ Write.sint v width w = .ok () w' ∧
        (w'.run ops).toReader = .ok r ∧
        Access.sint width (r.skip w.bits.length) =
          .ok (signed width.toNat v) (r.skip (w.bits.length + width.toNat))) ∧
    ∀ (grid : Grid) (p : Position grid) (w : Writer) (ops : List Writer.Operation),
      ∃ w' r q, p.write w = .ok () w' ∧
        (do Write.uint p.longitude grid.longitudeBits
            Write.uint p.latitude grid.latitudeBits : Write Unit) w = .ok () w' ∧
        (w'.run ops).toReader = .ok r ∧
        Position.read grid (r.skip w.bits.length) =
          .ok q (r.skip (w.bits.length + grid.bits)) ∧
        (q.signedLongitude = p.signedLongitude ∧ q.signedLatitude = p.signedLatitude) ∧
        (q.longitudeAvailable = true → q.longitudeDegrees? = p.longitudeDegrees?) ∧
        (q.latitudeAvailable = true → q.latitudeDegrees? = p.latitudeDegrees?) := by
  refine ⟨fun width v s h => signed_eq_iff h, fun r r' width n h => Access.sint_of_uint h, ?_, ?_⟩
  · intro w v width ops h
    obtain ⟨r, tail, hr, hrest⟩ := w.exists_reader (Bits.ofInt width.toNat v) ops
    exact ⟨_, r, Writer.write_uint w v h, Writer.write_sint w v h, hr, Access.sint_ofInt v h hrest⟩
  · intro grid p w ops
    obtain ⟨r, tail, hr, hrest⟩ := w.exists_reader p.encode ops
    have hwrite : p.write w = .ok () ⟨w.bits ++ p.encode⟩ := rfl
    exact ⟨_, r, _, hwrite, (p.write_eq w).symm.trans hwrite, hr, p.read_encode hrest,
      ⟨p.signedLongitude_ofRaw, p.signedLatitude_ofRaw⟩, p.longitudeDegrees?_ofRaw,
      p.latitudeDegrees?_ofRaw⟩

/-- The least number of eight bits, written as a larger one, and a position with coordinates that
are negative and too wide, each behind other bits. -/
theorem signed_received_boundary :
    let w : Writer := ⟨[true, false, true]⟩
    let p : Position .coarse := ⟨-1, 2 ^ 17 + 2 ^ 16⟩
    signed 8 128 = -128 ∧
      (∃ w' r r', Write.uint 128 8 w = .ok () w' ∧ (w'.run [.uint 1 4]).toReader = .ok r ∧
        Access.sint 8 (r.skip 3) = .ok (-128) r') ∧
      ∃ w' r q r', p.write w = .ok () w' ∧ (w'.run [.padToByte]).toReader = .ok r ∧
        Position.read .coarse (r.skip 3) = .ok q r' ∧ q.signedLongitude = -1 ∧
          q.signedLatitude = -2 ^ 16 := by
  intro w p
  obtain ⟨hunique, -, hnumber, hposition⟩ := signed_received
  have hleast : signed 8 128 = -128 := (hunique 8 128 (-128) (by decide)).mpr (by decide)
  obtain ⟨w', r, hwrite, -, hr, hread⟩ := hnumber w 128 8 [.uint 1 4] (by decide)
  obtain ⟨w'', s, q, hput, -, hs, hget, ⟨hlongitude, hlatitude⟩, -⟩ :=
    hposition .coarse p w [.padToByte]
  exact ⟨hleast, ⟨w', r, _, hwrite, hr, hleast ▸ hread⟩, w'', s, q, _, hput, hs, hget, hlongitude,
    hlatitude⟩

end AisStation
