import AisStation.Proofs.BitString
import AisStation.Proofs.Wording
import AisStation.SixBit.Armor

/-!
# Armor and bits

An armor text of `k` characters and a bit string of `6 * k` bits determine each other: armoring
completes the bits to whole characters, and reading the text gives them back with the completion.
-/

namespace AisStation.Armor

/-- Below the surrogates a character and its code point are the same. -/
theorem toNat_charOfNat {n : Nat} (h : n < 0xD800) : (Char.ofNat n).toNat = n := by
  have hv : n.isValidChar := Or.inl h
  rw [Char.ofNat, dif_pos hv]
  rfl

/-- The characters of the values 0 to 63. -/
def alphabet : List Char :=
  (List.range 64).map char

theorem toNat_char {v : Nat} (hv : v < 64) :
    (char v).toNat = if v < 40 then v + 48 else v + 56 := by
  unfold char
  split
  · exact toNat_charOfNat (by omega)
  · exact toNat_charOfNat (by omega)

theorem value?_char {v : Nat} (hv : v < 64) : value? (char v) = some v := by
  simp only [value?, toNat_char hv]
  by_cases h : v < 40
  · rw [if_pos h, if_pos (by omega), Nat.add_sub_cancel]
  · rw [if_neg h, if_neg (by omega), if_pos (by omega), Nat.add_sub_cancel]

/-- Only the character of a value has that value. -/
theorem value?_eq_some {c : Char} {v : Nat} (h : value? c = some v) : v < 64 ∧ c = char v := by
  simp only [value?] at h
  split at h
  · rename_i hc
    obtain rfl := Option.some.inj h
    refine ⟨by omega, ?_⟩
    rw [char, if_pos (by omega), Nat.sub_add_cancel hc.1, Char.ofNat_toNat]
  · split at h
    · rename_i hc
      obtain rfl := Option.some.inj h
      refine ⟨by omega, ?_⟩
      rw [char, if_neg (by omega), Nat.sub_add_cancel (by omega), Char.ofNat_toNat]
    · exact absurd h (by simp)

theorem mem_alphabet {c : Char} : c ∈ alphabet ↔ ∃ v, value? c = some v := by
  constructor
  · intro h
    obtain ⟨v, hv, rfl⟩ := List.mem_map.mp h
    exact ⟨v, value?_char (List.mem_range.mp hv)⟩
  · rintro ⟨v, hv⟩
    obtain ⟨hlt, rfl⟩ := value?_eq_some hv
    exact List.mem_map.mpr ⟨v, List.mem_range.mpr hlt, rfl⟩

/-- Armor characters are printable ASCII characters, none of which separates fields of a
sentence. -/
theorem toNat_of_mem_alphabet {c : Char} (h : c ∈ alphabet) : 48 ≤ c.toNat ∧ c.toNat < 120 := by
  obtain ⟨v, hv, rfl⟩ := List.mem_map.mp h
  rw [toNat_char (List.mem_range.mp hv)]
  have := List.mem_range.mp hv
  split <;> omega

/-! ## Reading armor -/

/-- The bits of some values, six each. -/
def bitsOf (values : List Nat) : Bits :=
  values.flatMap (Bits.ofNat 6)

theorem length_bitsOf (values : List Nat) : (bitsOf values).length = 6 * values.length := by
  induction values with
  | nil => rfl
  | cons v vs ih =>
    rw [bitsOf, List.flatMap_cons, ← bitsOf, List.length_append, ih, Bits.length_ofNat,
      List.length_cons]
    ring

theorem decodeFrom_map_char (values : List Nat) (h : ∀ v ∈ values, v < 64) (index : Nat) :
    decodeFrom index (values.map char) = .ok (bitsOf values) := by
  induction values generalizing index with
  | nil => rfl
  | cons v vs ih =>
    have hv := h v List.mem_cons_self
    rw [List.map_cons, decodeFrom, value?_char hv, ih fun w hw => h w (List.mem_cons_of_mem _ hw)]
    rfl

/-- A text is read exactly if all its characters are armor. -/
theorem decodeFrom_cases (index : Nat) (cs : List Char) :
    ((∀ c ∈ cs, c ∈ alphabet) ∧ ∃ values : List Nat, (∀ v ∈ values, v < 64) ∧
        cs = values.map char ∧ decodeFrom index cs = .ok (bitsOf values)) ∨
      ((∃ c ∈ cs, c ∉ alphabet) ∧ ∃ why, why.IsTold ∧ decodeFrom index cs = .error why) := by
  induction cs generalizing index with
  | nil => exact .inl ⟨by simp, [], by simp, rfl, rfl⟩
  | cons c cs ih =>
    rw [decodeFrom]
    rcases hc : value? c with _ | v
    · refine .inr ⟨⟨c, List.mem_cons_self, fun hmem => ?_⟩, _, ⟨_, rfl⟩, rfl⟩
      obtain ⟨v, hv⟩ := mem_alphabet.mp hmem
      rw [hc] at hv
      exact absurd hv (by simp)
    · obtain ⟨hlt, rfl⟩ := value?_eq_some hc
      rcases ih (index + 1) with ⟨hall, values, hvs, rfl, hdec⟩ | ⟨⟨d, hd, hnd⟩, why, htold, hdec⟩
      · refine .inl ⟨?_, v :: values, ?_, rfl, ?_⟩
        · exact List.forall_mem_cons.mpr ⟨mem_alphabet.mpr ⟨v, hc⟩, hall⟩
        · exact List.forall_mem_cons.mpr ⟨hlt, hvs⟩
        · rw [hdec]
          rfl
      · refine .inr ⟨⟨d, List.mem_cons_of_mem _ hd, hnd⟩, why, htold, ?_⟩
        rw [hdec]
        rfl

/-- Armor characters are among the first 256, so they are never reported as foreign. -/
theorem findIdx?_foreign {cs : List Char} (h : ∀ c ∈ cs, c ∈ alphabet) :
    cs.findIdx? (255 < ·.toNat) = none := by
  rw [List.findIdx?_eq_none_iff]
  intro c hc
  have := toNat_of_mem_alphabet (h c hc)
  simp
  omega

/-- A text of armor characters spells the bits of their values. -/
theorem decode_of_forall_mem {text : String} (h : ∀ c ∈ text.toList, c ∈ alphabet) :
    ∃ values : List Nat, (∀ v ∈ values, v < 64) ∧ text.toList = values.map char ∧
      decode text = .ok (bitsOf values) := by
  rcases decodeFrom_cases 0 text.toList with ⟨-, values, hvs, htext, hdec⟩ | ⟨⟨c, hc, hn⟩, -⟩
  · refine ⟨values, hvs, htext, ?_⟩
    rw [decode, findIdx?_foreign h]
    exact hdec
  · exact absurd (h c hc) hn

/-- A text with a character that is no armor is not read. -/
theorem decode_of_not_mem {text : String} (h : ¬∀ c ∈ text.toList, c ∈ alphabet) :
    ∃ why, why.IsTold ∧ decode text = .error why := by
  rw [decode]
  split
  · exact ⟨_, ⟨_, rfl⟩, rfl⟩
  · rcases decodeFrom_cases 0 text.toList with ⟨hall, -⟩ | ⟨-, why, htold, hdec⟩
    · exact absurd hall h
    · exact ⟨why, htold, hdec⟩

theorem mem_alphabet_of_decode {text : String} {bits : Bits} (h : decode text = .ok bits) :
    ∀ c ∈ text.toList, c ∈ alphabet := by
  by_contra hnot
  obtain ⟨why, -, herror⟩ := decode_of_not_mem hnot
  rw [h] at herror
  contradiction

theorem decode_eq_ok {text : String} {bits : Bits} (h : decode text = .ok bits) :
    ∃ values : List Nat, (∀ v ∈ values, v < 64) ∧ text.toList = values.map char ∧
      bits = bitsOf values := by
  obtain ⟨values, hvs, htext, hdec⟩ := decode_of_forall_mem (mem_alphabet_of_decode h)
  rw [h] at hdec
  exact ⟨values, hvs, htext, Except.ok.inj hdec⟩

theorem length_of_decode {text : String} {bits : Bits} (h : decode text = .ok bits) :
    bits.length = 6 * text.length := by
  obtain ⟨values, -, htext, rfl⟩ := decode_eq_ok h
  rw [length_bitsOf, ← String.length_toList, htext, List.length_map]

theorem bitsOf_injective {vs ws : List Nat} (hv : ∀ v ∈ vs, v < 64) (hw : ∀ w ∈ ws, w < 64)
    (h : bitsOf vs = bitsOf ws) : vs = ws := by
  induction vs generalizing ws with
  | nil =>
    have hl := congrArg List.length h
    rw [length_bitsOf, length_bitsOf] at hl
    exact (List.length_eq_zero_iff.mp (by simpa using hl.symm)).symm
  | cons v vs ih =>
    cases ws with
    | nil =>
      have hl := congrArg List.length h
      rw [length_bitsOf, length_bitsOf] at hl
      simp at hl
    | cons w ws =>
      rw [bitsOf, bitsOf, List.flatMap_cons, List.flatMap_cons] at h
      obtain ⟨hhead, htail⟩ := List.append_inj h (by simp)
      have hvw := congrArg Bits.toNat hhead
      have hv64 := hv v List.mem_cons_self
      have hw64 := hw w List.mem_cons_self
      rw [Bits.toNat_ofNat, Bits.toNat_ofNat, Nat.mod_eq_of_lt (by omega),
        Nat.mod_eq_of_lt (by omega)] at hvw
      rw [hvw, ih (fun x hx => hv x (List.mem_cons_of_mem _ hx))
        (fun x hx => hw x (List.mem_cons_of_mem _ hx)) htail]

/-- Armor texts that spell the same bits are equal. -/
theorem eq_of_decode_eq {s t : String} {bits : Bits} (hs : decode s = .ok bits)
    (ht : decode t = .ok bits) : s = t := by
  obtain ⟨vs, hv, hsv, rfl⟩ := decode_eq_ok hs
  obtain ⟨ws, hw, htw, heq⟩ := decode_eq_ok ht
  have : vs = ws := bitsOf_injective hv hw heq
  rw [← String.toList_inj, hsv, htw, this]

/-! ## Writing armor -/

@[simp] theorem bitLength_encode (bits : Bits) : (encode bits).bitLength = bits.length := rfl

theorem toList_text_encode (bits : Bits) :
    (encode bits).text.toList = ((bits.chunks 6).map Bits.toNat).map char := by
  rw [encode, String.toList_ofList, List.map_map]
  rfl

theorem forall_mem_chunks_lt (bits : Bits) : ∀ v ∈ (bits.chunks 6).map Bits.toNat, v < 64 := by
  intro v hv
  obtain ⟨piece, hp, rfl⟩ := List.mem_map.mp hv
  have h := Bits.toNat_lt piece
  rw [Bits.length_of_mem_chunks (by omega) hp] at h
  exact h

theorem bitsOf_chunks (bits : Bits) :
    bitsOf ((bits.chunks 6).map Bits.toNat) = bits ++ Bits.zeros (fillBits 6 bits.length) := by
  have h : (bits.chunks 6).map (fun piece => Bits.ofNat 6 piece.toNat) = bits.chunks 6 := by
    conv_rhs => rw [← List.map_id (bits.chunks 6)]
    apply List.map_congr_left
    intro piece hp
    have hl := Bits.length_of_mem_chunks (by omega) hp
    rw [id, ← hl, Bits.ofNat_toNat]
  rw [bitsOf, List.flatMap_map, List.flatMap_def, h, Bits.flatten_chunks (by omega)]

theorem mem_alphabet_of_mem_encode {bits : Bits} {c : Char} (h : c ∈ (encode bits).text.toList) :
    c ∈ alphabet := by
  rw [toList_text_encode] at h
  obtain ⟨v, hv, rfl⟩ := List.mem_map.mp h
  exact mem_alphabet.mpr ⟨v, value?_char (forall_mem_chunks_lt bits v hv)⟩

/-- What was armored is read back, completed by the fill bits. -/
theorem decode_encode (bits : Bits) :
    decode (encode bits).text = .ok (bits ++ Bits.zeros (fillBits 6 bits.length)) := by
  have hall : ∀ c ∈ (encode bits).text.toList, c ∈ alphabet :=
    fun c hc => mem_alphabet_of_mem_encode hc
  obtain ⟨values, hvs, htext, hdec⟩ := decode_of_forall_mem hall
  have hcanon := decodeFrom_map_char _ (forall_mem_chunks_lt bits) 0
  rw [hdec, ← bitsOf_chunks]
  rw [toList_text_encode] at htext
  rw [htext, decodeFrom_map_char values hvs 0] at hcanon
  rw [Except.ok.inj hcanon]

/-- Armor text without bits beyond a completion by zeros is what armoring its bits gives. -/
theorem text_encode_eq {text : String} {bits : Bits}
    (h : decode text = .ok (bits ++ Bits.zeros (fillBits 6 bits.length))) :
    (encode bits).text = text :=
  eq_of_decode_eq (decode_encode bits) h

/-- The number of characters of armored bits. -/
theorem length_text_encode (bits : Bits) :
    6 * (encode bits).text.length = bits.length + fillBits 6 bits.length := by
  have h := length_of_decode (decode_encode bits)
  rw [List.length_append, Bits.length_zeros] at h
  exact h.symm

/-- The text of armored bits has as many characters as they need, and the missing bits are told. -/
theorem fillBits_encode (bs : Bits) :
    (encode bs).text.length = (bs.length + 5) / 6 ∧
      ((encode bs).fillBits : Int) = 6 * (encode bs).text.length - (encode bs).bitLength := by
  have hlen := length_text_encode bs
  have hlt := fillBits_lt (by decide : 0 < 6) (bs.length : Int)
  rw [Payload.fillBits, bitLength_encode]
  omega

end AisStation.Armor
