import AisStation.Proofs.Armor
import AisStation.SixBit.Text
import Mathlib.Data.List.DropRight

/-!
# Six-bit text and bits

A character of the six-bit alphabet and its code determine each other, so do a text of `k` of them
and `6 * k` bits. Filling a text up to a width and dropping the filling are inverse to each other on
texts that do not end in the filling character.
-/

namespace AisStation

namespace Text

/-- Whether every character of a text has a property is decided by trying these characters, not all
there are. -/
instance decidableForallMem (p : Char → Prop) [DecidablePred p] (cs : List Char) :
    Decidable (∀ c ∈ cs, p c) :=
  List.decidableBAll p cs

instance decidableExistsMem (p : Char → Prop) [DecidablePred p] (cs : List Char) :
    Decidable (∃ c ∈ cs, p c) :=
  List.decidableBEx p cs

/-! ## Dropping from the end -/

theorem dropTailWhile_append_of_forall {α : Type} {p : α → Bool} (xs : List α) {ys : List α}
    (h : ∀ y ∈ ys, p y = true) : dropTailWhile p (xs ++ ys) = dropTailWhile p xs := by
  rw [dropTailWhile, dropTailWhile, List.reverse_append, List.dropWhile_append_of_pos]
  intro y hy
  exact h y (List.mem_reverse.mp hy)

theorem dropTailWhile_eq_self {α : Type} {p : α → Bool} {xs : List α}
    (h : ∀ x, xs.getLast? = some x → p x = false) : dropTailWhile p xs = xs := by
  rcases List.eq_nil_or_concat xs with rfl | ⟨ys, y, rfl⟩
  · rfl
  · have hy := h y (by simp)
    rw [dropTailWhile, List.concat_eq_append, List.reverse_append]
    simp [hy]

/-- What is dropped from the end satisfies the predicate, and what is left does not end in anything
that does. -/
theorem dropTailWhile_spec {α : Type} (p : α → Bool) (xs : List α) :
    ∃ ys, xs = dropTailWhile p xs ++ ys ∧ (∀ y ∈ ys, p y = true) ∧
      ∀ x, (dropTailWhile p xs).getLast? = some x → p x = false := by
  induction xs using List.reverseRecOn with
  | nil => exact ⟨[], rfl, by simp, by simp [dropTailWhile]⟩
  | append_singleton xs x ih =>
    by_cases hx : p x = true
    · obtain ⟨ys, hys, hp, hlast⟩ := ih
      have hdrop : dropTailWhile p (xs ++ [x]) = dropTailWhile p xs :=
        dropTailWhile_append_of_forall xs (by simpa using hx)
      rw [hdrop]
      refine ⟨ys ++ [x], ?_, ?_, hlast⟩
      · rw [← List.append_assoc, ← hys]
      · intro y hy
        rcases List.mem_append.mp hy with hy | hy
        · exact hp y hy
        · rw [List.mem_singleton.mp hy]
          exact hx
    · have hself : dropTailWhile p (xs ++ [x]) = xs ++ [x] :=
        dropTailWhile_eq_self (by simpa using hx)
      rw [hself]
      exact ⟨[], by simp, by simp, by simpa using hx⟩

end Text

/-- A computation in two steps succeeds if both do. -/
theorem bind_eq_ok_iff {ε α β : Type} {x : Except ε α} {f : α → Except ε β} {b : β} :
    (x >>= f) = .ok b ↔ ∃ a, x = .ok a ∧ f a = .ok b := by
  cases x with
  | error why => exact iff_of_false (by rintro ⟨⟩) (by rintro ⟨a, ⟨⟩, -⟩)
  | ok a =>
    constructor
    · intro h
      exact ⟨a, rfl, h⟩
    · rintro ⟨a', ha, h⟩
      obtain rfl := Except.ok.inj ha
      exact h

theorem mapError_eq_ok_iff {ε ε' α : Type} {x : Except ε α} {f : ε → ε'} {a : α} :
    x.mapError f = .ok a ↔ x = .ok a := by
  cases x with
  | error why => exact iff_of_false (fun h => nomatch h) (fun h => nomatch h)
  | ok b => exact ⟨fun h => congrArg _ (Except.ok.inj h), fun h => congrArg _ (Except.ok.inj h)⟩

namespace SixBit

/-! ## Characters and codes -/

/-- The characters of the codes 0 to 63; letters are upper-case. -/
def alphabet : List Char :=
  (List.range 64).map char

theorem toNat_char (n : Nat) :
    (char n).toNat = if n % 64 < 32 then n % 64 + 64 else n % 64 := by
  simp only [char]
  rw [Armor.toNat_charOfNat (by split <;> omega)]

theorem toNat_char_mod (n : Nat) : (char n).toNat % 64 = n % 64 := by
  rw [toNat_char]
  split <;> omega

/-- Only the low six bits count. -/
theorem char_mod (n : Nat) : char (n % 64) = char n := by
  rw [char, char, Nat.mod_mod]

theorem char_toNat {c : Char} (h : 32 ≤ c.toNat ∧ c.toNat < 96) : char c.toNat = c := by
  simp only [char]
  split
  · rw [show c.toNat % 64 + 64 = c.toNat by omega, Char.ofNat_toNat]
  · rw [show c.toNat % 64 = c.toNat by omega, Char.ofNat_toNat]

theorem mem_alphabet {c : Char} : c ∈ alphabet ↔ 32 ≤ c.toNat ∧ c.toNat < 96 := by
  constructor
  · intro h
    obtain ⟨n, hn, rfl⟩ := List.mem_map.mp h
    have := List.mem_range.mp hn
    rw [toNat_char]
    split <;> omega
  · intro h
    refine List.mem_map.mpr ⟨c.toNat % 64, List.mem_range.mpr (by omega), ?_⟩
    rw [char_mod, char_toNat h]

theorem char_mem_alphabet (n : Nat) : char n ∈ alphabet := by
  rw [mem_alphabet, toNat_char]
  split <;> omega

theorem upper_of_mem {c : Char} (h : c ∈ alphabet) : upper c = c := by
  have hc := mem_alphabet.mp h
  have hne : ∀ d : Char, 96 ≤ d.toNat → c ≠ d := by
    rintro d hd rfl
    omega
  have hlower : ¬('a'.val ≤ c.val ∧ c.val ≤ 'z'.val) := by
    rintro ⟨hlo, -⟩
    have : 97 ≤ c.toNat := hlo
    omega
  rw [upper, if_neg (hne _ (by decide)), if_neg (hne _ (by decide))]
  exact dif_neg hlower

/-- A character that has a code, case ignored. -/
def Coded (c : Char) : Prop :=
  code? c ≠ none

instance (c : Char) : Decidable (Coded c) :=
  inferInstanceAs (Decidable (_ ≠ _))

theorem coded_iff {c : Char} : Coded c ↔ upper c ∈ alphabet := by
  rw [mem_alphabet, Coded, code?]
  split
  · rename_i h
    exact iff_of_true (by simp) h
  · rename_i h
    exact iff_of_false (by simp) h

theorem code?_of_coded {c : Char} (h : Coded c) : code? c = some ((upper c).toNat % 64) := by
  rw [code?, if_pos (mem_alphabet.mp (coded_iff.mp h))]

theorem coded_of_mem {c : Char} (h : c ∈ alphabet) : Coded c := by
  rw [coded_iff, upper_of_mem h]
  exact h

theorem forall_mem_map_upper {cs : List Char} (h : ∀ c ∈ cs, Coded c) :
    ∀ c ∈ cs.map upper, c ∈ alphabet := by
  intro c hc
  obtain ⟨d, hd, rfl⟩ := List.mem_map.mp hc
  exact coded_iff.mp (h d hd)

/-- A text of the alphabet has no lower case. -/
theorem map_upper_eq_self {cs : List Char} (h : ∀ c ∈ cs, c ∈ alphabet) : cs.map upper = cs := by
  rw [List.map_congr_left fun c hc => upper_of_mem (h c hc), List.map_id']

/-! ## Texts and bits -/

/-- The bits of a text of the alphabet, six a character. -/
def bitsOf (cs : List Char) : Bits :=
  cs.flatMap fun c => Bits.ofNat 6 (c.toNat % 64)

theorem bitsOf_cons (c : Char) (cs : List Char) :
    bitsOf (c :: cs) = Bits.ofNat 6 (c.toNat % 64) ++ bitsOf cs :=
  List.flatMap_cons

theorem length_bitsOf (cs : List Char) : (bitsOf cs).length = 6 * cs.length := by
  induction cs with
  | nil => rfl
  | cons c cs ih =>
    rw [bitsOf_cons, List.length_append, ih, Bits.length_ofNat, List.length_cons]
    ring

theorem bitsOf_append (cs ds : List Char) : bitsOf (cs ++ ds) = bitsOf cs ++ bitsOf ds :=
  List.flatMap_append

/-- A text is written in upper case. -/
theorem encode_of_coded {cs : List Char} (h : ∀ c ∈ cs, Coded c) :
    encode cs = .ok (bitsOf (cs.map upper)) := by
  induction cs with
  | nil => rfl
  | cons c cs ih =>
    obtain ⟨hc, hcs⟩ := List.forall_mem_cons.mp h
    rw [encode, codeOf, code?_of_coded hc, ih hcs]
    rfl

/-- Only a text all of whose characters have codes is written. -/
theorem coded_of_encode {cs : List Char} {bits : Bits} (h : encode cs = .ok bits) :
    ∀ c ∈ cs, Coded c := by
  induction cs generalizing bits with
  | nil => simp
  | cons c cs ih =>
    rw [encode] at h
    obtain ⟨code, hcode, h⟩ := bind_eq_ok_iff.mp h
    obtain ⟨rest, hrest, -⟩ := bind_eq_ok_iff.mp h
    have hcoded : Coded c := by
      intro hnone
      rw [codeOf, hnone] at hcode
      contradiction
    exact List.forall_mem_cons.mpr ⟨hcoded, ih hrest⟩

theorem encode_ok_iff {cs : List Char} : (∃ bits, encode cs = .ok bits) ↔ ∀ c ∈ cs, Coded c :=
  ⟨fun ⟨_, h⟩ => coded_of_encode h, fun h => ⟨_, encode_of_coded h⟩⟩

theorem encode_eq_ok {cs : List Char} {bits : Bits} (h : encode cs = .ok bits) :
    bits = bitsOf (cs.map upper) := by
  rw [encode_of_coded (coded_of_encode h)] at h
  exact (Except.ok.inj h).symm

theorem length_of_encode {cs : List Char} {bits : Bits} (h : encode cs = .ok bits) :
    bits.length = 6 * cs.length := by
  rw [encode_eq_ok h, length_bitsOf, List.length_map]

/-- A text of the alphabet is written as it is. -/
theorem encode_of_forall_mem {cs : List Char} (h : ∀ c ∈ cs, c ∈ alphabet) :
    encode cs = .ok (bitsOf cs) := by
  rw [encode_of_coded fun c hc => coded_of_mem (h c hc), map_upper_eq_self h]

/-- The first `count` characters that the bits spell. -/
def textAt : Nat → Bits → List Char
  | 0, _ => []
  | count + 1, bs => char (Bits.toNat (bs.take 6)) :: textAt count (bs.drop 6)

@[simp] theorem length_textAt (count : Nat) (bs : Bits) : (textAt count bs).length = count := by
  induction count generalizing bs with
  | zero => rfl
  | succ count ih => rw [textAt, List.length_cons, ih]

theorem mem_alphabet_of_mem_textAt {count : Nat} {bs : Bits} {c : Char}
    (h : c ∈ textAt count bs) : c ∈ alphabet := by
  induction count generalizing bs with
  | zero => exact absurd h List.not_mem_nil
  | succ count ih =>
    rcases List.mem_cons.mp h with rfl | h
    · exact char_mem_alphabet _
    · exact ih h

/-- Writing a text that was read gives the bits that were read. -/
theorem bitsOf_textAt {count : Nat} {bs : Bits} (h : 6 * count ≤ bs.length) :
    bitsOf (textAt count bs) = bs.take (6 * count) := by
  induction count generalizing bs with
  | zero => simp [textAt, bitsOf]
  | succ count ih =>
    have hlen : (bs.take 6).length = 6 := by
      rw [List.length_take]
      omega
    have hlt : Bits.toNat (bs.take 6) < 2 ^ 6 := by
      have := Bits.toNat_lt (bs.take 6)
      rwa [hlen] at this
    have hhead : Bits.ofNat 6 (Bits.toNat (bs.take 6)) = bs.take 6 := by
      have := Bits.ofNat_toNat (bs.take 6)
      rwa [hlen] at this
    rw [textAt, bitsOf_cons, toNat_char_mod, Nat.mod_eq_of_lt (by omega), hhead,
      ih (by rw [List.length_drop]; omega), show 6 * (count + 1) = 6 + 6 * count by ring,
      List.take_add]

/-- A text that was written is read back. -/
theorem textAt_bitsOf_append {cs : List Char} (h : ∀ c ∈ cs, c ∈ alphabet) (rest : Bits) :
    textAt cs.length (bitsOf cs ++ rest) = cs := by
  induction cs with
  | nil => rfl
  | cons c cs ih =>
    have hc := mem_alphabet.mp (h c List.mem_cons_self)
    rw [List.length_cons, textAt, bitsOf_cons, List.append_assoc,
      List.take_left' (Bits.length_ofNat _ _), List.drop_left' (Bits.length_ofNat _ _),
      ih fun d hd => h d (List.mem_cons_of_mem _ hd), Bits.toNat_ofNat]
    congr 1
    rw [Nat.mod_eq_of_lt (by omega), char_mod, char_toNat hc]

/-- Texts are read one after the other. -/
theorem textAt_add (m n : Nat) (bs : Bits) :
    textAt (m + n) bs = textAt m bs ++ textAt n (bs.drop (6 * m)) := by
  induction m generalizing bs with
  | zero => simp [textAt]
  | succ m ih =>
    rw [show m + 1 + n = m + n + 1 by ring, textAt, ih, textAt, List.drop_drop,
      show 6 * (m + 1) = 6 + 6 * m by ring]
    rfl

/-- Zero bits spell filling. -/
theorem textAt_zeros (count n : Nat) :
    textAt count (Bits.zeros n) = List.replicate count pad := by
  induction count generalizing n with
  | zero => rfl
  | succ count ih =>
    have htake : (Bits.zeros n).take 6 = Bits.zeros (min 6 n) := List.take_replicate
    have hdrop : (Bits.zeros n).drop 6 = Bits.zeros (n - 6) := List.drop_replicate
    rw [textAt, htake, hdrop, ih, Bits.toNat_zeros, List.replicate_succ]
    rfl

/-! ## Filling -/

theorem pad_mem_alphabet : pad ∈ alphabet := by
  rw [mem_alphabet]
  decide

/-- Filling has a code, so it is enough that the characters before it have one. -/
theorem forall_coded_fit {n : Nat} {cs : List Char} :
    (∀ c ∈ fit n cs, Coded c) ↔ ∀ c ∈ cs.take n, Coded c := by
  constructor
  · intro h c hc
    exact h c (List.mem_append_left _ hc)
  · intro h c hc
    rcases List.mem_append.mp hc with hc | hc
    · exact h c hc
    · rw [List.eq_of_mem_replicate hc]
      exact coded_of_mem pad_mem_alphabet

theorem map_upper_fit (n : Nat) (cs : List Char) :
    (fit n cs).map upper = (cs.take n).map upper ++ List.replicate (n - cs.length) pad := by
  rw [fit, List.map_append, List.map_replicate, upper_of_mem pad_mem_alphabet]

theorem length_fit (n : Nat) (cs : List Char) : (fit n cs).length = n := by
  rw [fit, List.length_append, List.length_take, List.length_replicate]
  omega

theorem stripPadding_append_replicate (cs : List Char) (k : Nat) :
    stripPadding (cs ++ List.replicate k pad) = stripPadding cs :=
  Text.dropTailWhile_append_of_forall cs fun y hy => by
    rw [List.eq_of_mem_replicate hy]
    rfl

theorem stripPadding_eq_self {cs : List Char} (h : cs.getLast? ≠ some pad) :
    stripPadding cs = cs :=
  Text.dropTailWhile_eq_self fun x hx => by
    rw [hx] at h
    simpa using h

/-- A text is what stripping leaves of it and filling. -/
theorem stripPadding_spec (cs : List Char) :
    ∃ k, cs = stripPadding cs ++ List.replicate k pad ∧
      (stripPadding cs).getLast? ≠ some pad := by
  obtain ⟨ys, hys, hpad, hlast⟩ := Text.dropTailWhile_spec (· = pad) cs
  refine ⟨ys.length, ?_, fun h => ?_⟩
  · have hrep : ys = List.replicate ys.length pad :=
      List.eq_replicate_iff.mpr ⟨rfl, fun y hy => by simpa using hpad y hy⟩
    rw [← hrep]
    exact hys
  · have := hlast pad h
    simp at this

theorem getLast?_stripPadding (cs : List Char) : (stripPadding cs).getLast? ≠ some pad :=
  (stripPadding_spec cs).choose_spec.2

theorem mem_of_mem_stripPadding {c : Char} {cs : List Char} (h : c ∈ stripPadding cs) :
    c ∈ cs := by
  obtain ⟨k, hk, -⟩ := stripPadding_spec cs
  rw [hk]
  exact List.mem_append_left _ h

theorem length_stripPadding_le (cs : List Char) : (stripPadding cs).length ≤ cs.length := by
  obtain ⟨k, hk, -⟩ := stripPadding_spec cs
  conv_rhs => rw [hk]
  rw [List.length_append]
  omega

/-- Filling a stripped text gives the text back. -/
theorem fit_stripPadding (cs : List Char) : fit cs.length (stripPadding cs) = cs := by
  obtain ⟨k, hk, -⟩ := stripPadding_spec cs
  have hle := length_stripPadding_le cs
  have hlen := congrArg List.length hk
  rw [List.length_append, List.length_replicate] at hlen
  rw [fit, List.take_of_length_le hle, show cs.length - (stripPadding cs).length = k by omega]
  exact hk.symm

end SixBit

end AisStation
