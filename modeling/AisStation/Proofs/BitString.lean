import AisStation.Bits.Basic
import Mathlib.Data.Nat.Bitwise
import Mathlib.Tactic.Linarith
import Mathlib.Tactic.Ring

/-!
# Bit strings and numbers

A bit string of `w` bits and a number below `2 ^ w` determine each other, and so do a bit string and
its pieces of a fixed length. These laws are what every reader and writer of the library rests on.
-/

namespace AisStation

namespace Bits

/-! ## Unsigned numbers -/

@[simp] theorem length_ofNat (w n : Nat) : (ofNat w n).length = w := by
  induction w with
  | zero => rfl
  | succ w ih => simp [ofNat, ih]

@[simp] theorem length_ofInt (w : Nat) (v : Int) : (ofInt w v).length = w :=
  length_ofNat w _

@[simp] theorem length_zeros (n : Nat) : (zeros n).length = n :=
  List.length_replicate

@[simp] theorem zeros_zero : zeros 0 = [] := rfl

@[simp] theorem toNat_nil : toNat [] = 0 := rfl

/-- Reading on from a number `a` shifts `a` by as many bits as are read. -/
theorem foldl_eq (bs : Bits) (a : Nat) :
    bs.foldl (fun n b => 2 * n + b.toNat) a = a * 2 ^ bs.length + toNat bs := by
  induction bs generalizing a with
  | nil => simp
  | cons b bs ih =>
    rw [toNat, List.foldl_cons, List.foldl_cons, ih, ih, List.length_cons, pow_succ]
    ring

theorem toNat_cons (b : Bool) (bs : Bits) :
    toNat (b :: bs) = b.toNat * 2 ^ bs.length + toNat bs := by
  rw [toNat, List.foldl_cons, foldl_eq]
  simp

theorem toNat_lt (bs : Bits) : toNat bs < 2 ^ bs.length := by
  induction bs with
  | nil => simp
  | cons b bs ih =>
    rw [toNat_cons, List.length_cons, pow_succ]
    cases b <;> simp <;> omega

/-- Writing a number and reading it back leaves its low bits. -/
theorem toNat_ofNat (w n : Nat) : toNat (ofNat w n) = n % 2 ^ w := by
  induction w with
  | zero => simp [ofNat, Nat.mod_one]
  | succ w ih =>
    rw [ofNat, toNat_cons, ih, length_ofNat, Nat.toNat_testBit, Nat.mod_pow_succ]
    ring

/-- Bit strings of one length are equal if they spell the same number. -/
theorem eq_of_toNat_eq {as bs : Bits} (hl : as.length = bs.length) (h : toNat as = toNat bs) :
    as = bs := by
  induction as generalizing bs with
  | nil => exact (List.length_eq_zero_iff.mp hl.symm).symm
  | cons a as ih =>
    cases bs with
    | nil => simp at hl
    | cons b bs =>
      have hl' : as.length = bs.length := by simpa using hl
      rw [toNat_cons, toNat_cons, hl'] at h
      have ha : toNat as < 2 ^ bs.length := hl' ▸ toNat_lt as
      have hb := toNat_lt bs
      cases a <;> cases b <;> simp at h
      · rw [ih hl' h]
      · omega
      · omega
      · rw [ih hl' h]

theorem ofNat_toNat (bs : Bits) : ofNat bs.length (toNat bs) = bs := by
  apply eq_of_toNat_eq (length_ofNat _ _)
  rw [toNat_ofNat, Nat.mod_eq_of_lt (toNat_lt bs)]

theorem toNat_zeros (n : Nat) : toNat (zeros n) = 0 := by
  induction n with
  | zero => rfl
  | succ n ih =>
    rw [zeros, List.replicate_succ, ← zeros, toNat_cons, ih]
    simp

/-! ## Integers of any sign -/

theorem toNat_ofInt (w : Nat) (v : Int) : (toNat (ofInt w v) : Int) = unsigned w v := by
  have hpos : (0 : Int) < 2 ^ w := by positivity
  have h0 := Int.emod_nonneg v hpos.ne'
  have hlt := Int.emod_lt_of_pos v hpos
  rw [ofInt, toNat_ofNat, Nat.mod_eq_of_lt]
  · rw [Int.toNat_of_nonneg h0, unsigned]
  · zify
    rwa [Int.toNat_of_nonneg h0]

/-- The bits of an integer are those of any other integer that is equal up to a multiple of
`2 ^ w`. -/
theorem ofInt_congr {w : Nat} {v v' : Int} (h : unsigned w v = unsigned w v') :
    ofInt w v = ofInt w v' := by
  rw [ofInt, ofInt, ← unsigned, ← unsigned, h]

theorem unsigned_of_lt {w : Nat} {v : Int} (h0 : 0 ≤ v) (hlt : v < 2 ^ w) : unsigned w v = v :=
  Int.emod_eq_of_lt h0 hlt

/-- A number is kept if it has no other bits than the low ones. -/
theorem unsigned_eq_self_iff {w : Nat} {v : Int} : unsigned w v = v ↔ 0 ≤ v ∧ v < 2 ^ w := by
  constructor
  · intro h
    have hpos : (0 : Int) < 2 ^ w := by positivity
    rw [unsigned] at h
    rw [← h]
    exact ⟨Int.emod_nonneg v (ne_of_gt hpos), Int.emod_lt_of_pos v hpos⟩
  · rintro ⟨h0, hlt⟩
    exact unsigned_of_lt h0 hlt

theorem toNat_ofInt_of_lt {w : Nat} {v : Int} (h0 : 0 ≤ v) (hlt : v < 2 ^ w) :
    (toNat (ofInt w v) : Int) = v := by
  rw [toNat_ofInt, unsigned_of_lt h0 hlt]

theorem toNat_lt_int (bs : Bits) {w : Nat} (h : bs.length = w) : (toNat bs : Int) < 2 ^ w := by
  have := toNat_lt bs
  rw [h] at this
  exact_mod_cast this

theorem ofInt_toNat (bs : Bits) {w : Nat} (h : bs.length = w) : ofInt w (toNat bs) = bs := by
  apply eq_of_toNat_eq (by rw [length_ofInt, h])
  have := toNat_ofInt_of_lt (Int.natCast_nonneg (toNat bs)) (toNat_lt_int bs h)
  exact_mod_cast this

/-! ## Two's complement -/

theorem unsigned_unsigned (w : Nat) (v : Int) : unsigned w (unsigned w v) = unsigned w v :=
  Int.emod_emod v _

/-- The reading in two's complement differs from the number by a multiple of `2 ^ w`. -/
theorem unsigned_signed (w : Nat) (v : Int) : unsigned w (signed w v) = unsigned w v := by
  simp only [signed]
  split
  · rw [unsigned, Int.sub_emod_right, ← unsigned, unsigned_unsigned]
  · exact unsigned_unsigned w v

theorem signed_congr {w : Nat} {v v' : Int} (h : unsigned w v = unsigned w v') :
    signed w v = signed w v' := by
  unfold signed
  rw [h]

/-- The reading in two's complement lies in the range of its width. -/
theorem signed_mem_range (w : Nat) (v : Int) :
    -2 ^ w ≤ signed (w + 1) v ∧ signed (w + 1) v < 2 ^ w := by
  have hpos : (0 : Int) < 2 ^ (w + 1) := by positivity
  have h0 : 0 ≤ unsigned (w + 1) v := Int.emod_nonneg v hpos.ne'
  have hlt : unsigned (w + 1) v < 2 ^ (w + 1) := Int.emod_lt_of_pos v hpos
  have hpow : (2 : Int) ^ (w + 1) = 2 * 2 ^ w := by ring
  simp only [signed, Nat.add_sub_cancel]
  split <;> omega

/-- A number in the range of its width is its own reading in two's complement. -/
theorem signed_of_mem_range {w : Nat} {v : Int} (hlo : -2 ^ w ≤ v) (hhi : v < 2 ^ w) :
    signed (w + 1) v = v := by
  have hpow : (2 : Int) ^ (w + 1) = 2 * 2 ^ w := by ring
  have hpos : (0 : Int) < 2 ^ w := by positivity
  simp only [signed, Nat.add_sub_cancel]
  by_cases hv : 0 ≤ v
  · rw [unsigned_of_lt hv (by omega), if_neg (by omega)]
  · have hu : unsigned (w + 1) v = v + 2 ^ (w + 1) := by
      rw [unsigned, ← Int.add_emod_right]
      exact Int.emod_eq_of_lt (by omega) (by omega)
    rw [hu, if_pos (by omega)]
    omega

/-! ## Numbers at a place -/

/-- The unsigned number that the `width` bits from `offset` on spell. -/
def uintAt (bs : Bits) (offset width : Nat) : Int :=
  toNat ((bs.drop offset).take width)

/-- The flag that stands at `offset`. -/
def flagAt (bs : Bits) (offset : Nat) : Bool :=
  uintAt bs offset 1 == 1

theorem uintAt_nonneg (bs : Bits) (offset width : Nat) : 0 ≤ uintAt bs offset width :=
  Int.natCast_nonneg _

theorem uintAt_lt (bs : Bits) (offset width : Nat) : uintAt bs offset width < 2 ^ width := by
  have h := toNat_lt ((bs.drop offset).take width)
  have hle : 2 ^ ((bs.drop offset).take width).length ≤ 2 ^ width :=
    Nat.pow_le_pow_right (by omega) (by simp)
  have : toNat ((bs.drop offset).take width) < 2 ^ width := h.trans_le hle
  unfold uintAt
  exact_mod_cast this

/-- Writing a number read from a place gives the bits of that place. -/
theorem ofInt_uintAt {bs : Bits} {offset width : Nat} (h : offset + width ≤ bs.length) :
    ofInt width (uintAt bs offset width) = (bs.drop offset).take width :=
  ofInt_toNat _ (by simp; omega)

theorem flagAt_cons (b : Bool) (rest : Bits) : flagAt (b :: rest) 0 = b := by
  cases b <;> rfl

/-- Writing a flag read from a place gives the bit of that place. -/
theorem singleton_flagAt {bs : Bits} {offset : Nat} (h : offset + 1 ≤ bs.length) :
    [flagAt bs offset] = (bs.drop offset).take 1 := by
  rw [flagAt, uintAt, List.drop_eq_getElem_cons (by omega)]
  cases bs[offset] <;> rfl

/-- A number is read from behind the first bits as from the rest. -/
theorem uintAt_append {as : Bits} {k : Nat} (h : as.length = k) (bs : Bits) (offset width : Nat) :
    uintAt (as ++ bs) (k + offset) width = uintAt bs offset width := by
  rw [uintAt, uintAt, ← List.drop_drop, List.drop_left' h]

/-- Of a number that was written the low bits are read back, whatever stands around them. -/
theorem uintAt_ofInt (w : Nat) (v : Int) {as : Bits} {k : Nat} (hk : as.length = k) (rest : Bits) :
    uintAt (as ++ (ofInt w v ++ rest)) k w = unsigned w v := by
  rw [← Nat.add_zero k, uintAt_append hk, uintAt, List.drop_zero,
    List.take_left' (length_ofInt w v), toNat_ofInt]

/-- Reading behind a piece of known length leaves the piece aside. -/
theorem uintAt_append_of_le {as : Bits} {k : Nat} (h : as.length ≤ k) (bs : Bits) (width : Nat) :
    uintAt (as ++ bs) k width = uintAt bs (k - as.length) width := by
  rw [← uintAt_append rfl bs, Nat.add_sub_cancel' h]

theorem flagAt_append_of_le {as : Bits} {k : Nat} (h : as.length ≤ k) (bs : Bits) :
    flagAt (as ++ bs) k = flagAt bs (k - as.length) := by
  rw [flagAt, uintAt_append_of_le h, flagAt]

theorem uintAt_cons (b : Bool) (bs : Bits) (k width : Nat) :
    uintAt (b :: bs) (k + 1) width = uintAt bs k width := rfl

theorem flagAt_cons_succ (b : Bool) (bs : Bits) (k : Nat) :
    flagAt (b :: bs) (k + 1) = flagAt bs k := rfl

/-- A number is read from the declared bits as from all bits at hand. -/
theorem flagAt_append {as : Bits} {k : Nat} (h : as.length = k) (bs : Bits) (offset : Nat) :
    flagAt (as ++ bs) (k + offset) = flagAt bs offset := by
  rw [flagAt, uintAt_append h, flagAt]

/-! ## Adjacent places -/

/-- The bits of two adjacent places are those of the place that spans them. -/
theorem take_drop_append {bs : Bits} {i a j : Nat} (h : i + a = j) (b : Nat) :
    (bs.drop i).take a ++ (bs.drop j).take b = (bs.drop i).take (a + b) := by
  rw [← h, ← List.drop_drop, List.take_add]

/-- The bits of a place and all after it are those from the start of the place on. -/
theorem take_drop_append_drop {bs : Bits} {i a j : Nat} (h : i + a = j) :
    (bs.drop i).take a ++ bs.drop j = bs.drop i := by
  rw [← h, ← List.drop_drop, List.take_append_drop]

end Bits

/-! ## Completing to a multiple -/

theorem fillBits_lt {unit : Nat} (hu : 0 < unit) (n : Int) : fillBits unit n < unit := by
  unfold fillBits
  have h0 := Int.emod_nonneg (-n) (by omega : (unit : Int) ≠ 0)
  have hlt := Int.emod_lt_of_pos (-n) (by omega : (0 : Int) < unit)
  omega

/-- The completed length is a multiple of the unit. -/
theorem add_fillBits_emod {unit : Nat} (hu : 0 < unit) (n : Nat) :
    (n + fillBits unit n) % unit = 0 := by
  unfold fillBits
  have h0 := Int.emod_nonneg (-(n : Int)) (by omega : (unit : Int) ≠ 0)
  apply Int.natCast_inj.mp
  push_cast
  rw [Int.toNat_of_nonneg h0, Int.add_emod_emod, Int.add_right_neg, Int.zero_emod]

/-- A completion by less than a unit that reaches a multiple is the least one. -/
theorem fillBits_eq {unit n k : Nat} (hk : k < unit) (h : (n + k) % unit = 0) :
    fillBits unit n = k := by
  have hu : 0 < unit := by omega
  have hlt := fillBits_lt hu n
  have hz := add_fillBits_emod hu n
  obtain ⟨a, ha⟩ := Nat.dvd_of_mod_eq_zero h
  obtain ⟨b, hb⟩ := Nat.dvd_of_mod_eq_zero hz
  have hab : a = b := by
    rcases Nat.lt_trichotomy a b with hc | hc | hc
    · have := Nat.mul_le_mul_left unit (Nat.succ_le_of_lt hc)
      rw [Nat.mul_succ] at this
      omega
    · exact hc
    · have := Nat.mul_le_mul_left unit (Nat.succ_le_of_lt hc)
      rw [Nat.mul_succ] at this
      omega
  subst hab
  omega

/-! ## Pieces -/

namespace Bits

theorem chunks_nil (unit : Nat) : chunks unit [] = [] := by
  rw [chunks]

/-- The pieces of a nonempty bit string: a full one and those of the rest. -/
theorem chunks_eq {unit : Nat} (hu : 0 < unit) {bs : Bits} (h : bs ≠ []) :
    chunks unit bs =
      (bs.take unit ++ zeros (unit - (bs.take unit).length)) :: chunks unit (bs.drop unit) := by
  obtain ⟨b, bs, rfl⟩ := List.exists_cons_of_ne_nil h
  obtain ⟨u, rfl⟩ : ∃ u, unit = u + 1 := ⟨unit - 1, by omega⟩
  rw [chunks]
  simp

theorem length_of_mem_chunks {unit : Nat} (hu : 0 < unit) {bs piece : Bits}
    (h : piece ∈ chunks unit bs) : piece.length = unit := by
  induction hn : bs.length using Nat.strong_induction_on generalizing bs with
  | _ n ih =>
    by_cases hb : bs = []
    · rw [hb, chunks_nil] at h
      exact absurd h (List.not_mem_nil)
    · have hpos := List.length_pos_iff.mpr hb
      rw [chunks_eq hu hb] at h
      rcases List.mem_cons.mp h with h | h
      · rw [h]
        simp
      · exact ih _ (by simp; omega) h rfl

/-- The pieces together are the bit string, completed by zeros. -/
theorem flatten_chunks {unit : Nat} (hu : 0 < unit) (bs : Bits) :
    (chunks unit bs).flatten = bs ++ zeros (fillBits unit bs.length) := by
  induction hn : bs.length using Nat.strong_induction_on generalizing bs with
  | _ n ih =>
    by_cases hb : bs = []
    · subst hb
      rw [chunks_nil, ← hn]
      simp [fillBits]
    · have hpos := List.length_pos_iff.mpr hb
      rw [chunks_eq hu hb, List.flatten_cons, ih _ (by simp; omega) (bs.drop unit) rfl]
      by_cases hle : bs.length ≤ unit
      · -- The only piece: nothing is left to be cut.
        have hf : fillBits unit n = unit - n := by
          apply fillBits_eq (by omega)
          rw [Nat.add_sub_cancel' (by omega), Nat.mod_self]
        rw [List.drop_of_length_le hle, List.take_of_length_le hle, hn, hf]
        simp [fillBits]
      · have hlen : (bs.drop unit).length = n - unit := by rw [List.length_drop, hn]
        have hf : fillBits unit n = fillBits unit (n - unit : Nat) := by
          apply fillBits_eq (fillBits_lt hu _)
          have := add_fillBits_emod hu (n - unit)
          have hs : n + fillBits unit (n - unit : Nat) =
              n - unit + fillBits unit (n - unit : Nat) + unit := by omega
          rw [hs, Nat.add_mod_right, this]
        have htake : (bs.take unit).length = unit := by
          rw [List.length_take]
          omega
        rw [htake, hlen, hf, Nat.sub_self, zeros_zero, List.append_nil, ← List.append_assoc,
          List.take_append_drop]

end Bits

end AisStation
