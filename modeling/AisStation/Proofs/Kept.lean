import AisStation.Proofs.Layout

/-!
# What a field keeps of a value

A field can be given any value of its type, also one that it cannot hold. Of a number it keeps the
low bits, of a text the first characters in upper case and without filling at the end; a character
without a code cannot be written at all. Nothing of a value goes beyond the bits of its field, so
what is read back from a layout is what each field by itself keeps. A value that fits its field is
kept as it is.
-/

namespace AisStation

/-! ## Positions -/

namespace Position

variable {grid : Grid}

/-- The position with the low bits of its coordinates. -/
def kept (p : Position grid) : Position grid where
  longitude := unsigned grid.longitudeBits p.longitude
  latitude := unsigned grid.latitudeBits p.latitude

theorem ofBits_encode (p : Position grid) {as : Bits} {k : Nat} (hk : as.length = k)
    (rest : Bits) : Position.ofBits grid (as ++ (p.encode ++ rest)) k = p.kept := by
  have hlon := Bits.uintAt_ofInt grid.longitudeBits p.longitude hk
    (Bits.ofInt grid.latitudeBits p.latitude ++ rest)
  have hlen : (as ++ Bits.ofInt grid.longitudeBits p.longitude).length =
      k + grid.longitudeBits := by
    rw [List.length_append, hk, Bits.length_ofInt]
  have hlat := Bits.uintAt_ofInt grid.latitudeBits p.latitude hlen rest
  rw [List.append_assoc] at hlat
  rw [Position.ofBits, Position.encode, List.append_assoc, hlon, hlat, kept]

theorem kept_of_fits {p : Position grid} (h : p.Fits) : p.kept = p := by
  rw [kept, Bits.unsigned_of_lt h.1.1 h.1.2, Bits.unsigned_of_lt h.2.1 h.2.2]

theorem Fits.ofBits_zero {p : Position grid} (h : p.Fits) (rest : Bits) :
    Position.ofBits grid (p.encode ++ rest) 0 = p := by
  have hat := @ofBits_encode grid p [] 0 rfl rest
  rwa [kept_of_fits h] at hat

end Position

/-! ## Fields -/

namespace FieldKind

/-- What a field of a kind keeps of a value. -/
def kept : (kind : FieldKind) → kind.Carrier → kind.Carrier
  | unsigned width, n | spare width, n => AisStation.unsigned width n
  | signed width, n => AisStation.signed width n
  | flag, b => b
  | text chars, s => String.ofList (SixBit.stripPadding ((s.toList.take chars).map SixBit.upper))
  | position _, p => p.kept

/-- The characters of a value that are written. -/
def writtenText : (kind : FieldKind) → kind.Carrier → List Char
  | text chars, s => s.toList.take chars
  | _, _ => []

/-- A value is written if all characters of it that are to be written have codes. -/
theorem encode_ok_iff {kind : FieldKind} {value : kind.Carrier} :
    (∃ bits, kind.encode value = .ok bits) ↔ ∀ c ∈ kind.writtenText value, SixBit.Coded c := by
  cases kind with
  | text chars => exact SixBit.encode_ok_iff.trans SixBit.forall_coded_fit
  | _ => exact iff_of_true ⟨_, rfl⟩ (by simp [writtenText])

/-- A value that was written fills its field, and reading gives what the field keeps of it. -/
theorem valueAt_of_encode {kind : FieldKind} {value : kind.Carrier} {bits : Bits}
    (h : kind.encode value = .ok bits) :
    bits.length = kind.width ∧ ∀ (as : Bits) (k : Nat), as.length = k → ∀ rest,
      kind.valueAt (as ++ (bits ++ rest)) k = kind.kept value := by
  cases kind with
  | unsigned width =>
    obtain rfl := Except.ok.inj h
    exact ⟨Bits.length_ofInt _ _, fun as k hk rest => Bits.uintAt_ofInt width value hk rest⟩
  | signed width =>
    obtain rfl := Except.ok.inj h
    refine ⟨Bits.length_ofInt _ _, fun as k hk rest => ?_⟩
    rw [valueAt, Bits.uintAt_ofInt width value hk rest, kept]
    exact Bits.signed_congr (Bits.unsigned_unsigned width value)
  | flag =>
    obtain rfl := Except.ok.inj h
    refine ⟨rfl, fun as k hk rest => ?_⟩
    rw [valueAt, ← Nat.add_zero k, Bits.flagAt_append hk]
    exact Bits.flagAt_cons value rest
  | text chars =>
    have hcoded := SixBit.coded_of_encode h
    have hbits := SixBit.encode_eq_ok h
    refine ⟨?_, fun as k hk rest => ?_⟩
    · rw [SixBit.length_of_encode h, SixBit.length_fit]
      rfl
    · have htext := SixBit.textAt_bitsOf_append (SixBit.forall_mem_map_upper hcoded) rest
      rw [List.length_map, SixBit.length_fit] at htext
      rw [valueAt, List.drop_left' hk, hbits, htext, SixBit.map_upper_fit,
        SixBit.stripPadding_append_replicate, kept]
  | position grid =>
    obtain rfl := Except.ok.inj h
    exact ⟨Position.length_encode _, fun as k hk rest => Position.ofBits_encode _ hk rest⟩
  | spare width =>
    obtain rfl := Except.ok.inj h
    exact ⟨Bits.length_ofInt _ _, fun as k hk rest => Bits.uintAt_ofInt width value hk rest⟩

theorem kept_of_fits {kind : FieldKind} (hw : kind.WellFormed) {value : kind.Carrier}
    (h : kind.Fits value) : kind.kept value = value := by
  cases kind with
  | unsigned width => exact Bits.unsigned_of_lt h.1 h.2
  | signed width =>
    obtain ⟨w, rfl⟩ : ∃ w, width = w + 1 := ⟨width - 1, (Nat.sub_add_cancel hw).symm⟩
    exact Bits.signed_of_mem_range h.1 h.2
  | flag => rfl
  | text chars =>
    obtain ⟨hle, hmem, hlast⟩ := h
    rw [kept, List.take_of_length_le (by rwa [String.length_toList]),
      SixBit.map_upper_eq_self hmem, SixBit.stripPadding_eq_self hlast, String.ofList_toList]
  | position grid => exact Position.kept_of_fits h
  | spare width => exact Bits.unsigned_of_lt h.1 h.2

theorem coded_of_fits {kind : FieldKind} {value : kind.Carrier} (h : kind.Fits value) :
    ∀ c ∈ kind.writtenText value, SixBit.Coded c := by
  cases kind with
  | text chars =>
    intro c hc
    exact SixBit.coded_of_mem (h.2.1 c (List.mem_of_mem_take hc))
  | _ => simp [writtenText]

end FieldKind

/-! ## Layouts -/

namespace Layout

/-- What the fields of a layout keep of their values. -/
def kept : (layout : Layout) → layout.Values → layout.Values
  | [], () => ()
  | field :: layout, (value, values) => (field.kind.kept value, kept layout values)

/-- The characters of all values that are written. -/
def writtenText : (layout : Layout) → layout.Values → List Char
  | [], () => []
  | field :: layout, (value, values) => field.kind.writtenText value ++ writtenText layout values

theorem encode_cons {field : Field} {layout : Layout} {value : field.kind.Carrier}
    {values : layout.Values} {bits : Bits}
    (h : Layout.encode (field :: layout) (value, values) = .ok bits) :
    ∃ first rest, field.kind.encode value = .ok first ∧ layout.encode values = .ok rest ∧
      bits = first ++ rest := by
  rw [Layout.encode] at h
  obtain ⟨first, hfirst, h⟩ := bind_eq_ok_iff.mp h
  obtain ⟨rest, hrest, h⟩ := bind_eq_ok_iff.mp h
  exact ⟨first, rest, hfirst, hrest, (Except.ok.inj h).symm⟩

theorem encode_ok_iff {layout : Layout} {values : layout.Values} :
    (∃ bits, layout.encode values = .ok bits) ↔
      ∀ c ∈ layout.writtenText values, SixBit.Coded c := by
  induction layout with
  | nil => exact iff_of_true ⟨[], rfl⟩ (by simp [writtenText])
  | cons field layout ih =>
    obtain ⟨value, values⟩ := values
    rw [writtenText, List.forall_mem_append, ← FieldKind.encode_ok_iff, ← ih]
    constructor
    · rintro ⟨bits, h⟩
      obtain ⟨first, rest, hfirst, hrest, -⟩ := encode_cons h
      exact ⟨⟨first, hfirst⟩, ⟨rest, hrest⟩⟩
    · rintro ⟨⟨first, hfirst⟩, ⟨rest, hrest⟩⟩
      refine ⟨first ++ rest, ?_⟩
      rw [Layout.encode, hfirst, hrest]
      rfl

/-- Values that were written fill their layout, and reading gives what its fields keep of them. -/
theorem valuesAt_of_encode {layout : Layout} {values : layout.Values} {bits : Bits}
    (h : layout.encode values = .ok bits) :
    bits.length = layout.width ∧ ∀ (as : Bits) (k : Nat), as.length = k → ∀ rest,
      layout.valuesAt (as ++ (bits ++ rest)) k = layout.kept values := by
  induction layout generalizing bits with
  | nil =>
    obtain rfl := Except.ok.inj h
    exact ⟨rfl, fun _ _ _ _ => rfl⟩
  | cons field layout ih =>
    obtain ⟨value, values⟩ := values
    obtain ⟨first, more, hfirst, hmore, rfl⟩ := encode_cons h
    obtain ⟨hlen, hat⟩ := FieldKind.valueAt_of_encode hfirst
    obtain ⟨hlenl, hatl⟩ := ih hmore
    refine ⟨?_, fun as k hk rest => ?_⟩
    · rw [List.length_append, hlen, hlenl, width_cons]
    · have hk' : (as ++ first).length = k + field.kind.width := by
        rw [List.length_append, hk, hlen]
      have hothers := hatl (as ++ first) (k + field.kind.width) hk' rest
      rw [List.append_assoc] at hothers
      rw [valuesAt, List.append_assoc, hat as k hk (more ++ rest), hothers, kept]

theorem kept_of_fits {layout : Layout} (hw : layout.WellFormed) {values : layout.Values}
    (h : layout.Fits values) : layout.kept values = values := by
  induction layout with
  | nil => rfl
  | cons field layout ih =>
    obtain ⟨value, values⟩ := values
    obtain ⟨hfield, hlayout⟩ := List.forall_mem_cons.mp hw
    rw [kept, FieldKind.kept_of_fits hfield h.1, ih hlayout h.2]

theorem coded_of_fits {layout : Layout} {values : layout.Values} (h : layout.Fits values) :
    ∀ c ∈ layout.writtenText values, SixBit.Coded c := by
  induction layout with
  | nil => simp [writtenText]
  | cons field layout ih =>
    obtain ⟨value, values⟩ := values
    exact List.forall_mem_append.mpr ⟨FieldKind.coded_of_fits h.1, ih h.2⟩

/-- Fitting values have as many bits as their layout, and are read back from where they stand. -/
theorem encode_of_fits {layout : Layout} (hw : layout.WellFormed) {values : layout.Values}
    (h : layout.Fits values) :
    ∃ bits, layout.encode values = .ok bits ∧ bits.length = layout.width ∧
      ∀ (as : Bits) (k : Nat), as.length = k → ∀ rest,
        layout.valuesAt (as ++ (bits ++ rest)) k = values := by
  obtain ⟨bits, hbits⟩ := encode_ok_iff.mpr (coded_of_fits h)
  obtain ⟨hlen, hat⟩ := valuesAt_of_encode hbits
  rw [kept_of_fits hw h] at hat
  exact ⟨bits, hbits, hlen, hat⟩

end Layout

end AisStation
