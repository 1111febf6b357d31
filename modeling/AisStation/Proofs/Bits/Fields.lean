import AisStation.Proofs.Cursor

/-!
# Bit fields under a reader

A caller asks for fields one by one, with widths of any sign, and may go on after a failure. What a
reader does then depends on the number of bits that remain and on nothing else: it refuses a width
that no field has, it gives the value of the next bits and moves its cursor past them, or it is
short of bits. Short of bits it stays where it is, except that a text is taken character by
character, so the cursor stops behind the last whole one.
-/

namespace AisStation

/-- A bit field as a caller asks for it: its width may be any integer. -/
inductive BitField
  | uint (width : Int)
  | sint (width : Int)
  | flag
  | text (count : Int)
  | blob (width : Int)
deriving DecidableEq, Repr

namespace BitField

/-- The type of the values of a field. -/
@[reducible] def Value : BitField → Type
  | uint _ | sint _ => Int
  | flag => Bool
  | text _ => List Char
  | blob _ => Blob

/-- The number of bits. A text of less than one character has none. -/
def size : BitField → Nat
  | uint width | sint width | blob width => width.toNat
  | flag => 1
  | text count => 6 * count.toNat

/-- Is there a field of this width? A number has at least one bit, a blob may be empty. -/
def Possible : BitField → Prop
  | uint width | sint width => 0 < width
  | blob width => 0 ≤ width
  | flag | text _ => True

/-- The value that the bits of a field spell. -/
def decode : (f : BitField) → Bits → f.Value
  | uint _, bs => (bs.toNat : Int)
  | sint width, bs => signed width.toNat bs.toNat
  | flag, bs => bs.toNat == 1
  | text count, bs => SixBit.textAt count.toNat bs
  | blob _, bs => ⟨bs⟩

/-- Asks the reader for the field. -/
def read : (f : BitField) → Access f.Value
  | uint width => Access.uint width
  | sint width => Access.sint width
  | flag => Access.flag
  | text count => Access.text count
  | blob width => Access.blob width

/-- Is the field taken as a whole or not at all? -/
def IsWhole : BitField → Prop
  | text _ => False
  | _ => True

end BitField

/-! ## Reads of a caller -/

namespace Access

variable {α : Type} {read : Read α} {r r' : Reader}

theorem ofRead_ok {a : α} (h : read r = .ok a r') : ofRead read r = .ok a r' := by
  simp only [ofRead, EStateM.adaptExcept, h]

theorem ofRead_error {why : Malformed} (h : read r = .error why r') :
    ofRead read r = .error (.raised why) r' := by
  simp only [ofRead, EStateM.adaptExcept, h]

theorem positive_of_nonpos (read : Nat → Read α) {width : Int} (h : width ≤ 0) (r : Reader) :
    positive read width r = .error .emptyWidth r := by
  rw [positive, if_pos h]
  rfl

theorem positive_of_pos (read : Nat → Read α) {width : Int} (h : 0 < width) :
    positive read width = ofRead (read width.toNat) := by
  rw [positive, if_neg (by omega)]

theorem blob_zero (r : Reader) : blob 0 r = .ok {} r := rfl

theorem blob_of_ne_zero {width : Int} (h : width ≠ 0) : blob width = positive Read.blob width := by
  rw [blob, if_neg h]

end Access

namespace Reader

theorem skip_position {r : Reader} {n : Nat} (h : n ≤ r.remaining) :
    (r.skip n).position = r.position + n := by
  have hle := r.position_le
  rw [remaining] at h
  rw [position_skip]
  omega

/-- The bits behind the cursor are those from its position on. -/
theorem take_rest {r : Reader} {n : Nat} (h : n ≤ r.remaining) :
    r.rest.take n = (r.bits.drop r.position).take n := by
  rw [remaining] at h
  rw [rest, List.drop_take, List.take_take, min_eq_left h]

end Reader

/-- A text is spelled by its own bits, whatever follows them. -/
theorem SixBit.textAt_take (count : Nat) (bs : Bits) :
    textAt count (bs.take (6 * count)) = textAt count bs := by
  induction count generalizing bs with
  | zero => rfl
  | succ count ih =>
    have hhead : (bs.take (6 * (count + 1))).take 6 = bs.take 6 := by
      rw [List.take_take, min_eq_left (by omega)]
    have htail : (bs.take (6 * (count + 1))).drop 6 = (bs.drop 6).take (6 * count) := by
      rw [List.drop_take, Nat.mul_succ, Nat.add_sub_cancel]
    rw [textAt, textAt, hhead, htail, ih]

/-- A text that is cut short is read up to its last whole character. -/
theorem Read.text_exhausted {r : Reader} {count : Nat} (h : r.remaining < 6 * count) :
    text count r =
      .error (.exhausted 6 (r.remaining % 6)) (r.skip (6 * (r.remaining / 6))) := by
  induction count generalizing r with
  | zero => omega
  | succ count ih =>
    rw [text]
    by_cases hlt : r.remaining < 6
    · have hdiv : r.remaining / 6 = 0 := by omega
      have hmod : r.remaining % 6 = r.remaining := by omega
      rw [bind_error (take_exhausted hlt), hdiv, hmod, Reader.skip_zero]
    · have hrem : (r.skip 6).remaining = r.remaining - 6 := Reader.remaining_skip r 6
      have hdiv : 6 + 6 * ((r.remaining - 6) / 6) = 6 * (r.remaining / 6) := by omega
      have hmod : (r.remaining - 6) % 6 = r.remaining % 6 := by omega
      rw [bind_ok (take_apply (by omega)), bind_error (ih (by omega)), hrem, hmod,
        Reader.skip_skip, hdiv]

namespace BitField

variable {f : BitField} {r : Reader}

theorem read_impossible (h : ¬f.Possible) (r : Reader) : f.read r = .error .emptyWidth r := by
  cases f with
  | uint width => exact Access.positive_of_nonpos Read.uint (Int.not_lt.mp h) r
  | sint width => exact Access.positive_of_nonpos Read.sint (Int.not_lt.mp h) r
  | blob width =>
    have hneg : width < 0 := Int.not_le.mp h
    rw [read, Access.blob_of_ne_zero (by omega)]
    exact Access.positive_of_nonpos Read.blob (by omega) r
  | flag => exact absurd trivial h
  | text count => exact absurd trivial h

/-- A field for which there are bits enough has the value of the next bits. -/
theorem read_complete (h : f.Possible) (hle : f.size ≤ r.remaining) :
    f.read r = .ok (f.decode (r.rest.take f.size)) (r.skip f.size) := by
  have htake : Read.take f.size r = .ok (r.rest.take f.size) (r.skip f.size) :=
    Read.take_apply hle
  cases f with
  | uint width =>
    rw [read, Access.uint, Access.positive_of_pos Read.uint h]
    exact Access.ofRead_ok (Read.bind_ok htake _)
  | sint width =>
    rw [read, Access.sint, Access.positive_of_pos Read.sint h]
    exact Access.ofRead_ok (Read.bind_ok htake _)
  | flag => exact Access.ofRead_ok (Read.bind_ok htake _)
  | text count =>
    have htext := Read.text_skip (k := 0) (n := count.toNat) (by rw [Nat.zero_add]; exact hle)
    rw [Reader.skip_zero, Nat.zero_add, List.drop_zero] at htext
    rw [read, Access.text, Access.ofRead_ok htext, decode, size, SixBit.textAt_take]
  | blob width =>
    by_cases hzero : width = 0
    · subst hzero
      rw [read, Access.blob_zero]
      simp [size, decode]
    · have hnonneg : 0 ≤ width := h
      rw [read, Access.blob_of_ne_zero hzero, Access.positive_of_pos Read.blob (by omega)]
      exact Access.ofRead_ok (Read.bind_ok htake _)

/-- Any field but a text that is short of bits leaves the reader as it is. -/
theorem read_exhausted (hwhole : f.IsWhole) (h : f.Possible) (hlt : r.remaining < f.size) :
    f.read r = .error (.raised (.exhausted f.size r.remaining)) r := by
  have htake : Read.take f.size r = .error (.exhausted f.size r.remaining) r :=
    Read.take_exhausted hlt
  cases f with
  | uint width =>
    rw [read, Access.uint, Access.positive_of_pos Read.uint h]
    exact Access.ofRead_error (Read.bind_error htake _)
  | sint width =>
    rw [read, Access.sint, Access.positive_of_pos Read.sint h]
    exact Access.ofRead_error (Read.bind_error htake _)
  | flag => exact Access.ofRead_error (Read.bind_error htake _)
  | text count => exact absurd hwhole id
  | blob width =>
    have hpos : 0 < width := by
      rw [size] at hlt
      omega
    rw [read, Access.blob_of_ne_zero (by omega), Access.positive_of_pos Read.blob hpos]
    exact Access.ofRead_error (Read.bind_error htake _)

/-- A text that is short of bits moves the cursor past its whole characters. -/
theorem read_text_exhausted {count : Int} (h : ((r.remaining / 6 : Nat) : Int) < count) :
    (text count).read r = .error (.malformed (.exhausted 6 (r.remaining % 6)))
      (r.skip (6 * (r.remaining / 6))) := by
  have htold : (Malformed.exhausted 6 (r.remaining % 6)).IsTold :=
    Malformed.isTold_exhausted_iff.mpr (Text.isWritable_of_lt (by decide))
  rw [read, Access.text, Access.ofRead_error (Read.text_exhausted (by omega)),
    AccessError.raised_of_isTold htold]

/-- A width that is too long to be written is not told. -/
theorem read_exhausted_eq (hwhole : f.IsWhole) (h : f.Possible) (hlt : r.remaining < f.size) :
    f.read r = .error (if Text.IsWritable f.size then .malformed (.exhausted f.size r.remaining)
      else .unwritable) r := by
  have htold : (Malformed.exhausted f.size r.remaining).IsTold ↔ Text.IsWritable f.size :=
    Malformed.isTold_exhausted_iff
  rw [read_exhausted hwhole h hlt]
  split
  · rw [AccessError.raised_of_isTold (htold.mpr ‹_›)]
  · rw [AccessError.raised_of_not_isTold (mt htold.mp ‹_›)]

end BitField

end AisStation
