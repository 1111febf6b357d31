import AisStation.Proofs.Alphabet
import AisStation.Proofs.Wording
import AisStation.Bits.Reader

/-!
# Reading at a place

A read takes its bits from behind the cursor and moves the cursor past them. Here every read is
given by the place it reads from: on a reader `r` whose cursor was moved past `k` bits, a number of
`w` bits is the one that stands in the bits of `r` from place `k` on, and the cursor is moved past
`k + w` bits afterwards. So the reads of a whole message can be followed with one reader in hand.
-/

namespace AisStation

namespace Reader

/-- The reader with its cursor moved past `n` more bits, or to the end if there are fewer. -/
def skip (r : Reader) (n : Nat) : Reader :=
  { r with position := min (r.position + n) r.length, position_le := Nat.min_le_right _ _ }

@[simp] theorem length_skip (r : Reader) (n : Nat) : (r.skip n).length = r.length := rfl

@[simp] theorem bits_skip (r : Reader) (n : Nat) : (r.skip n).bits = r.bits := rfl

theorem position_skip (r : Reader) (n : Nat) :
    (r.skip n).position = min (r.position + n) r.length := rfl

@[simp] theorem skip_zero (r : Reader) : r.skip 0 = r := by
  have hle := r.position_le
  have : min (r.position + 0) r.length = r.position := by omega
  simp [skip, hle]

@[simp] theorem skip_skip (r : Reader) (m n : Nat) : (r.skip m).skip n = r.skip (m + n) := by
  have : min (min (r.position + m) r.length + n) r.length =
      min (r.position + (m + n)) r.length := by omega
  simp [skip, this]

@[simp] theorem remaining_skip (r : Reader) (n : Nat) :
    (r.skip n).remaining = r.remaining - n := by
  have := r.position_le
  simp only [remaining, position_skip, length_skip]
  omega

@[simp] theorem length_rest (r : Reader) : r.rest.length = r.remaining := by
  have := r.length_le
  simp only [rest, remaining, List.length_drop, List.length_take]
  omega

@[simp] theorem rest_skip (r : Reader) (n : Nat) : (r.skip n).rest = r.rest.drop n := by
  have h := r.length_le
  simp only [rest, position_skip, length_skip, bits_skip, List.drop_drop]
  by_cases hn : r.position + n ≤ r.length
  · rw [min_eq_left hn]
  · rw [min_eq_right (by omega), List.drop_eq_nil_of_le (by simp),
      List.drop_eq_nil_of_le (by simp; omega)]

/-- At the start, all declared bits are behind the cursor. -/
theorem rest_of_position_eq_zero {r : Reader} (h : r.position = 0) :
    r.rest = r.bits.take r.length := by
  rw [rest, h, List.drop_zero]

theorem remaining_of_position_eq_zero {r : Reader} (h : r.position = 0) :
    r.remaining = r.length := by
  rw [remaining, h, Nat.sub_zero]

/-- The bits of an armor text are declared from its start, if there are as many. -/
theorem ofArmor_ok {text : String} {bits : Bits} (h : Armor.decode text = .ok bits)
    {declared : Option Int} {n : Nat} (hn : declared.getD bits.length = n) (hle : n ≤ bits.length) :
    ∃ s : Reader, ofArmor text declared = .ok s ∧ s.position = 0 ∧ s.length = n ∧
      s.rest = bits.take n := by
  refine ⟨⟨bits, n, 0, hle, Nat.zero_le _⟩, ?_, rfl, rfl, rfl⟩
  have hreader : ofBits bits declared = .ok ⟨bits, n, 0, hle, Nat.zero_le _⟩ := by
    rw [ofBits]
    simp only [hn, Int.natCast_nonneg, Int.ofNat_le, hle, and_self, dif_pos, Int.toNat_natCast]
  rw [ofArmor, h]
  exact hreader

/-- More bits than there are cannot be declared, nor less than none. -/
theorem ofArmor_error {text : String} {bits : Bits} (h : Armor.decode text = .ok bits)
    {declared : Option Int}
    (hn : declared.getD bits.length < 0 ∨ (bits.length : Int) < declared.getD bits.length) :
    ofArmor text declared =
      .error (.overdeclared (declared.getD bits.length) bits.length) := by
  rw [ofArmor, h]
  show ofBits bits declared = _
  rw [ofBits]
  exact dif_neg (by omega)

/-- Armored bits are read back. -/
theorem ofArmor_encode (bs : Bits) :
    ∃ s, ofArmor (Armor.encode bs).text (some (bs.length : Int)) = .ok s ∧
      s.position = 0 ∧ s.length = bs.length ∧ s.rest = bs := by
  have hle : bs.length ≤ (bs ++ Bits.zeros (fillBits 6 bs.length)).length := by simp
  have hdeclared : (some (bs.length : Int)).getD
      (bs ++ Bits.zeros (fillBits 6 bs.length)).length = bs.length := rfl
  obtain ⟨s, hs, h0, hlen, hrest⟩ := ofArmor_ok (Armor.decode_encode bs) hdeclared hle
  rw [List.take_left' rfl] at hrest
  exact ⟨s, hs, h0, hlen, hrest⟩

/-- A look at a window of the declared bits sees the number that stands there. -/
theorem window_eq {r : Reader} (h : r.position = 0) {offset width : Nat}
    (hle : offset + width ≤ r.length) :
    r.window offset width = .ok (r.rest.uintAt offset width).toNat := by
  have hwin : (r.bits.take (offset + width)).drop offset =
      ((r.bits.take r.length).drop offset).take width := by
    rw [List.drop_take, List.drop_take, List.take_take, Nat.add_sub_cancel_left,
      min_eq_left (by omega)]
  rw [window, if_neg (by omega), rest_of_position_eq_zero h, Bits.uintAt, Int.toNat_natCast,
    ← hwin]
  simp only [← Int.natCast_add, if_neg (Int.not_lt.mpr (Int.natCast_nonneg _)), Int.toNat_natCast]

theorem window_outside {r : Reader} {offset width : Nat} (hlt : r.length < offset + width) :
    r.window offset width = .error (.peekOutside width offset r.length) := by
  rw [window, if_pos (by omega)]

end Reader

namespace Read

variable {α β : Type}

/-! ## Sequences of reads -/

theorem pure_apply (a : α) (r : Reader) : (pure a : Read α) r = .ok a r := rfl

theorem bind_apply (x : Read α) (f : α → Read β) (r : Reader) :
    (x >>= f) r = match x r with
      | .ok a r' => f a r'
      | .error why r' => .error why r' := by
  cases h : x r <;> simp [bind, EStateM.bind, h]

/-- A read that succeeds is followed by the reads after it. -/
theorem bind_ok {x : Read α} {r r' : Reader} {a : α} (h : x r = .ok a r') (f : α → Read β) :
    (x >>= f) r = f a r' := by
  rw [bind_apply, h]

theorem bind_error {x : Read α} {r r' : Reader} {why : Malformed} (h : x r = .error why r')
    (f : α → Read β) : (x >>= f) r = .error why r' := by
  rw [bind_apply, h]

theorem map_ok {x : Read α} {r r' : Reader} {a : α} (h : x r = .ok a r') (f : α → β) :
    (f <$> x) r = .ok (f a) r' :=
  bind_ok h fun a => pure (f a)

theorem map_error {x : Read α} {r r' : Reader} {why : Malformed} (h : x r = .error why r')
    (f : α → β) : (f <$> x) r = .error why r' :=
  bind_error h fun a => pure (f a)

/-- The read fails, with a fault that can be told. -/
def Fails (x : Read α) (r : Reader) : Prop :=
  ∃ why r', why.IsTold ∧ x r = .error why r'

/-- A sequence fails if its first read does. -/
theorem fails_bind {x : Read α} {r : Reader} (h : Fails x r) (f : α → Read β) :
    Fails (x >>= f) r := by
  obtain ⟨why, r', htold, hx⟩ := h
  exact ⟨why, r', htold, bind_error hx f⟩

/-- A sequence fails if what comes after its first read does. -/
theorem fails_bind_ok {x : Read α} {f : α → Read β} {r r' : Reader} {a : α} (hx : x r = .ok a r')
    (h : Fails (f a) r') : Fails (x >>= f) r := by
  rw [Fails, bind_ok hx]
  exact h

/-! ## Reads by place -/

theorem take_apply {r : Reader} {w : Nat} (h : w ≤ r.remaining) :
    take w r = .ok (r.rest.take w) (r.skip w) := by
  have hle := r.position_le
  have hlt := r.length_le
  rw [Reader.remaining] at h
  have hmin : min (r.position + w) r.length = r.position + w := by omega
  rw [take, dif_pos (by omega)]
  congr 1
  · rw [Reader.rest, List.drop_take, List.take_take, min_eq_left h]
  · simp [Reader.skip, hmin]

theorem take_skip {r : Reader} {k w : Nat} (h : k + w ≤ r.remaining) :
    take w (r.skip k) = .ok ((r.rest.drop k).take w) (r.skip (k + w)) := by
  rw [take_apply (by simp; omega), Reader.rest_skip, Reader.skip_skip]

/-- A read of more bits than remain fails and leaves the reader as it is. -/
theorem take_exhausted {r : Reader} {w : Nat} (h : r.remaining < w) :
    take w r = .error (.exhausted w r.remaining) r := by
  have hle := r.position_le
  rw [take, dif_neg]
  rw [Reader.remaining] at h
  omega

theorem uint_skip {r : Reader} {k w : Nat} (h : k + w ≤ r.remaining) :
    uint w (r.skip k) = .ok (r.rest.uintAt k w) (r.skip (k + w)) := by
  rw [uint, bind_ok (take_skip h)]
  rfl

theorem sint_skip {r : Reader} {k w : Nat} (h : k + w ≤ r.remaining) :
    sint w (r.skip k) = .ok (signed w (r.rest.uintAt k w)) (r.skip (k + w)) := by
  rw [sint, bind_ok (take_skip h)]
  rfl

theorem uint_exhausted {r : Reader} {w : Nat} (h : r.remaining < w) :
    uint w r = .error (.exhausted w r.remaining) r := by
  rw [uint, bind_error (take_exhausted h)]

theorem flag_skip {r : Reader} {k : Nat} (h : k + 1 ≤ r.remaining) :
    flag (r.skip k) = .ok (r.rest.flagAt k) (r.skip (k + 1)) := by
  rw [flag, bind_ok (take_skip h), pure_apply, Bits.flagAt, Bits.uintAt]
  congr 1
  rw [Bool.eq_iff_iff, beq_iff_eq, beq_iff_eq]
  omega

theorem text_skip {r : Reader} {k n : Nat} (h : k + 6 * n ≤ r.remaining) :
    text n (r.skip k) = .ok (SixBit.textAt n (r.rest.drop k)) (r.skip (k + 6 * n)) := by
  induction n generalizing k with
  | zero => rfl
  | succ n ih =>
    rw [text, bind_ok (take_skip (by omega)), bind_ok (ih (by omega)), pure_apply, SixBit.textAt,
      List.drop_drop, show k + 6 + 6 * n = k + 6 * (n + 1) by ring]

theorem blob_skip {r : Reader} {k w : Nat} (h : k + w ≤ r.remaining) :
    blob w (r.skip k) = .ok ⟨(r.rest.drop k).take w⟩ (r.skip (k + w)) := by
  rw [blob, bind_ok (take_skip h)]
  rfl

@[simp] theorem bitsRemaining_apply (r : Reader) : bitsRemaining r = .ok r.remaining r := rfl

@[simp] theorem bitLength_apply (r : Reader) : bitLength r = .ok r.length r := rfl

/-- Of a number that does not fit, and of what comes after one that fits, it is enough to show that
the rest fails. -/
theorem fails_uint_bind {r : Reader} {k w : Nat} (hw : Text.IsWritable w) {f : Int → Read β}
    (h : k + w ≤ r.remaining → Fails (f (r.rest.uintAt k w)) (r.skip (k + w)))
    (hk : k ≤ r.remaining) :
    Fails (uint w >>= f) (r.skip k) := by
  by_cases hle : k + w ≤ r.remaining
  · exact fails_bind_ok (uint_skip hle) (h hle)
  · have hlt : (r.skip k).remaining < w := by
      rw [Reader.remaining_skip]
      omega
    exact ⟨_, _, Malformed.isTold_exhausted_iff.mpr hw, bind_error (uint_exhausted hlt) f⟩

/-- A look at other bits does not depend on the cursor. -/
theorem peek_skip {r : Reader} (h : r.position = 0) {offset width k : Nat}
    (hle : offset + width ≤ r.length) :
    peek offset width (r.skip k) = .ok (r.rest.uintAt offset width).toNat (r.skip k) := by
  have hwindow : (r.skip k).window offset width = r.window offset width := rfl
  simp only [peek, hwindow, Reader.window_eq h hle]

end Read

end AisStation
