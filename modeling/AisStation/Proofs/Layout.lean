import AisStation.Proofs.Cursor
import AisStation.Message.Layout

/-!
# Layouts by place

The fields of a layout stand one behind the other, so each has a place. A layout is read by reading
every field from its place, and writing the values that were read gives the bits back. Each law is
proved for the kinds of fields and carried over to layouts by induction on their fields.
-/

namespace AisStation

/-- A number that an unsigned field of `width` bits can hold. -/
def FitsUnsigned (width : Nat) (n : Int) : Prop :=
  0 ≤ n ∧ n < 2 ^ width

/-- A number that a field of `width` bits in two's complement can hold. -/
def FitsSigned (width : Nat) (n : Int) : Prop :=
  -2 ^ (width - 1) ≤ n ∧ n < 2 ^ (width - 1)

/-- A text that a field of `count` characters gives back: no character more, all of them from the
six-bit alphabet, the last one not the filling. -/
def FitsText (count : Nat) (s : String) : Prop :=
  s.length ≤ count ∧ (∀ c ∈ s.toList, c ∈ SixBit.alphabet) ∧ s.toList.getLast? ≠ some SixBit.pad

instance (width : Nat) (n : Int) : Decidable (FitsUnsigned width n) :=
  inferInstanceAs (Decidable (_ ∧ _))

instance (width : Nat) (n : Int) : Decidable (FitsSigned width n) :=
  inferInstanceAs (Decidable (_ ∧ _))

instance (count : Nat) (s : String) : Decidable (FitsText count s) :=
  inferInstanceAs (Decidable (_ ∧ _ ∧ _))

theorem Bits.fitsUnsigned_uintAt (bs : Bits) (offset width : Nat) :
    FitsUnsigned width (bs.uintAt offset width) :=
  ⟨bs.uintAt_nonneg offset width, bs.uintAt_lt offset width⟩

/-- A fitting number is read back from where it was written. -/
theorem FitsUnsigned.uintAt {width : Nat} {n : Int} (h : FitsUnsigned width n) {as : Bits}
    {k : Nat} (hk : as.length = k) (rest : Bits) :
    Bits.uintAt (as ++ (Bits.ofInt width n ++ rest)) k width = n := by
  rw [Bits.uintAt_ofInt width n hk rest, Bits.unsigned_of_lt h.1 h.2]

theorem FitsUnsigned.uintAt_zero {width : Nat} {n : Int} (h : FitsUnsigned width n) (rest : Bits) :
    Bits.uintAt (Bits.ofInt width n ++ rest) 0 width = n :=
  @uintAt width n h [] 0 rfl rest

theorem FitsUnsigned.uintAt_ofInt {width : Nat} {n : Int} (h : FitsUnsigned width n) :
    Bits.uintAt (Bits.ofInt width n) 0 width = n := by
  have := h.uintAt_zero []
  rwa [List.append_nil] at this

namespace SixBit

/-- What is left of a text that was read fits. -/
theorem fitsText_strip {count : Nat} (bs : Bits) :
    FitsText count (String.ofList (stripPadding (textAt count bs))) := by
  refine ⟨?_, ?_, ?_⟩
  · have := length_stripPadding_le (textAt count bs)
    rwa [length_textAt, ← String.length_ofList] at this
  · intro c hc
    rw [String.toList_ofList] at hc
    exact mem_alphabet_of_mem_textAt (mem_of_mem_stripPadding hc)
  · rw [String.toList_ofList]
    exact getLast?_stripPadding _

end SixBit

namespace Position

variable {grid : Grid}

/-- The position whose coordinates stand at a place, longitude first. -/
def ofBits (grid : Grid) (bs : Bits) (offset : Nat) : Position grid where
  longitude := bs.uintAt offset grid.longitudeBits
  latitude := bs.uintAt (offset + grid.longitudeBits) grid.latitudeBits

/-- A position whose coordinates fit their fields. -/
def Fits (p : Position grid) : Prop :=
  FitsUnsigned grid.longitudeBits p.longitude ∧ FitsUnsigned grid.latitudeBits p.latitude

instance (p : Position grid) : Decidable p.Fits :=
  inferInstanceAs (Decidable (_ ∧ _))

theorem fits_ofBits (bs : Bits) (offset : Nat) : (Position.ofBits grid bs offset).Fits :=
  ⟨bs.fitsUnsigned_uintAt _ _, bs.fitsUnsigned_uintAt _ _⟩

theorem read_skip {r : Reader} {k : Nat} (h : k + grid.bits ≤ r.remaining) :
    Position.read grid (r.skip k) =
      .ok (Position.ofBits grid r.rest k) (r.skip (k + grid.bits)) := by
  rw [Grid.bits] at h
  rw [Position.read, Read.bind_ok (Read.uint_skip (by omega)),
    Read.bind_ok (Read.uint_skip (by omega)), Read.pure_apply, Grid.bits, Nat.add_assoc]
  rfl

@[simp] theorem length_encode (p : Position grid) : p.encode.length = grid.bits := by
  rw [Position.encode, List.length_append, Bits.length_ofInt, Bits.length_ofInt, Grid.bits]

theorem encode_ofBits {bs : Bits} {offset : Nat} (h : offset + grid.bits ≤ bs.length) :
    (Position.ofBits grid bs offset).encode = (bs.drop offset).take grid.bits := by
  rw [Grid.bits] at h
  rw [Position.encode, Position.ofBits, Bits.ofInt_uintAt (by omega), Bits.ofInt_uintAt (by omega),
    Bits.take_drop_append rfl, Grid.bits]

/-- Reading behind a piece of known length leaves the piece aside. -/
theorem ofBits_append_of_le {as : Bits} {k : Nat} (h : as.length ≤ k) (bs : Bits) :
    Position.ofBits grid (as ++ bs) k = Position.ofBits grid bs (k - as.length) := by
  rw [Position.ofBits, Position.ofBits, Bits.uintAt_append_of_le h,
    Bits.uintAt_append_of_le (by omega), Nat.sub_add_comm h]

end Position

namespace FieldKind

/-- The value of a kind that stands at a place. -/
def valueAt : (kind : FieldKind) → Bits → Nat → kind.Carrier
  | unsigned width, bs, offset | spare width, bs, offset => bs.uintAt offset width
  | signed width, bs, offset => AisStation.signed width (bs.uintAt offset width)
  | flag, bs, offset => bs.flagAt offset
  | text chars, bs, offset =>
    String.ofList (SixBit.stripPadding (SixBit.textAt chars (bs.drop offset)))
  | position grid, bs, offset => Position.ofBits grid bs offset

/-- The values that a field of a kind can hold. -/
def Fits : (kind : FieldKind) → kind.Carrier → Prop
  | unsigned width, n | spare width, n => FitsUnsigned width n
  | signed width, n => FitsSigned width n
  | flag, _ => True
  | text chars, s => FitsText chars s
  | position _, p => p.Fits

instance decidableFits : (kind : FieldKind) → (value : kind.Carrier) → Decidable (kind.Fits value)
  | unsigned width, n | spare width, n => inferInstanceAs (Decidable (FitsUnsigned width n))
  | signed width, n => inferInstanceAs (Decidable (FitsSigned width n))
  | flag, _ => .isTrue trivial
  | text chars, s => inferInstanceAs (Decidable (FitsText chars s))
  | position _, p => inferInstanceAs (Decidable p.Fits)

/-- A kind of fields that has room for a value; a number with a sign needs a bit for it. -/
def WellFormed : FieldKind → Prop
  | signed width => 0 < width
  | _ => True

theorem read_skip (kind : FieldKind) {r : Reader} {k : Nat} (h : k + kind.width ≤ r.remaining) :
    kind.read (r.skip k) = .ok (kind.valueAt r.rest k) (r.skip (k + kind.width)) := by
  cases kind with
  | unsigned width => exact Read.uint_skip h
  | signed width => exact Read.sint_skip h
  | flag => exact Read.flag_skip h
  | text chars =>
    rw [FieldKind.read, Read.bind_ok (Read.text_skip h)]
    rfl
  | position grid => exact Position.read_skip h
  | spare width => exact Read.uint_skip h

theorem fits_valueAt {kind : FieldKind} (hw : kind.WellFormed) (bs : Bits) (offset : Nat) :
    kind.Fits (kind.valueAt bs offset) := by
  cases kind with
  | unsigned width => exact bs.fitsUnsigned_uintAt offset width
  | signed width =>
    obtain ⟨w, rfl⟩ : ∃ w, width = w + 1 := ⟨width - 1, (Nat.sub_add_cancel hw).symm⟩
    exact Bits.signed_mem_range w _
  | flag => trivial
  | text chars => exact SixBit.fitsText_strip _
  | position grid => exact Position.fits_ofBits bs offset
  | spare width => exact bs.fitsUnsigned_uintAt offset width

/-- Writing a value that was read gives the bits that were read. -/
theorem encode_valueAt (kind : FieldKind) {bs : Bits} {offset : Nat}
    (h : offset + kind.width ≤ bs.length) :
    kind.encode (kind.valueAt bs offset) = .ok ((bs.drop offset).take kind.width) := by
  cases kind with
  | unsigned width => exact congrArg Except.ok (Bits.ofInt_uintAt h)
  | signed width =>
    have hcongr : Bits.ofInt width (AisStation.signed width (bs.uintAt offset width)) =
        Bits.ofInt width (bs.uintAt offset width) :=
      Bits.ofInt_congr (Bits.unsigned_signed width _)
    exact congrArg Except.ok (hcongr.trans (Bits.ofInt_uintAt h))
  | flag => exact congrArg Except.ok (Bits.singleton_flagAt h)
  | text chars =>
    have hlen : 6 * chars ≤ (bs.drop offset).length := by
      rw [List.length_drop]
      exact Nat.le_sub_of_add_le (by rw [Nat.add_comm]; exact h)
    have hfit := SixBit.fit_stripPadding (SixBit.textAt chars (bs.drop offset))
    rw [SixBit.length_textAt] at hfit
    rw [FieldKind.encode, FieldKind.valueAt, String.toList_ofList, hfit,
      SixBit.encode_of_forall_mem fun c hc => SixBit.mem_alphabet_of_mem_textAt hc,
      SixBit.bitsOf_textAt hlen]
    rfl
  | position grid => exact congrArg Except.ok (Position.encode_ofBits h)
  | spare width => exact congrArg Except.ok (Bits.ofInt_uintAt h)

end FieldKind

namespace Layout

/-- The values of all fields, each at its place, the first at `offset`. -/
def valuesAt : (layout : Layout) → Bits → Nat → layout.Values
  | [], _, _ => ()
  | field :: layout, bs, offset =>
    (field.kind.valueAt bs offset, valuesAt layout bs (offset + field.kind.width))

/-- Every value is one that its field can hold. -/
def Fits : (layout : Layout) → layout.Values → Prop
  | [], () => True
  | field :: layout, (value, values) => field.kind.Fits value ∧ Fits layout values

instance decidableFits : (layout : Layout) → (values : layout.Values) →
    Decidable (layout.Fits values)
  | [], () => .isTrue trivial
  | field :: layout, (value, values) =>
    have := decidableFits layout values
    inferInstanceAs (Decidable (field.kind.Fits value ∧ Fits layout values))

/-- Every field has a well-formed kind. -/
def WellFormed (layout : Layout) : Prop :=
  ∀ field ∈ layout, field.kind.WellFormed

theorem width_cons (field : Field) (layout : Layout) :
    width (field :: layout) = field.kind.width + width layout := by
  simp [width]

theorem read_skip (layout : Layout) {r : Reader} {k : Nat}
    (h : k + layout.width ≤ r.remaining) :
    layout.read (r.skip k) = .ok (layout.valuesAt r.rest k) (r.skip (k + layout.width)) := by
  induction layout generalizing k with
  | nil => rfl
  | cons field layout ih =>
    rw [width_cons] at h
    rw [Layout.read, Read.bind_ok (field.kind.read_skip (by omega)),
      Read.bind_ok (ih (by omega)), Read.pure_apply, width_cons, Nat.add_assoc]
    rfl

theorem fits_valuesAt {layout : Layout} (hw : layout.WellFormed) (bs : Bits) (offset : Nat) :
    layout.Fits (layout.valuesAt bs offset) := by
  induction layout generalizing offset with
  | nil => trivial
  | cons field layout ih =>
    obtain ⟨hf, hl⟩ := List.forall_mem_cons.mp hw
    exact ⟨FieldKind.fits_valueAt hf bs offset, ih hl _⟩

/-- Writing the values that were read gives the bits that were read. -/
theorem encode_valuesAt (layout : Layout) {bs : Bits} {offset : Nat}
    (h : offset + layout.width ≤ bs.length) :
    layout.encode (layout.valuesAt bs offset) = .ok ((bs.drop offset).take layout.width) := by
  induction layout generalizing offset with
  | nil => simp [Layout.encode, width]
  | cons field layout ih =>
    rw [width_cons] at h
    rw [valuesAt, Layout.encode, field.kind.encode_valueAt (by omega), ih (by omega), width_cons,
      ← Bits.take_drop_append rfl]
    rfl

end Layout

end AisStation
