import AisStation.Message.View
import AisStation.Proofs.RoundTrip

/-!
# Auxiliary craft and their mother ships

The identity of an auxiliary craft has nine digits, of which the first two are 98, and the place of
the dimensions holds the identity of its mother ship. The view of the mother ship puts the thirty
bits of this place together again. Whether a craft is auxiliary is read off the digits of the
identity as they are printed, without zeros in front, so identities with fewer digits that begin
with 98 are taken for those of auxiliary craft too.
-/

namespace AisStation

/-! ## Digits in front -/

theorem toDigits_injective {m n : Nat} (h : Nat.toDigits 10 m = Nat.toDigits 10 n) :
    m = n := by
  rw [← Nat.ofDigitChars_ten_toDigits (n := m), h, Nat.ofDigitChars_ten_toDigits]

/-- The digits of `p` are the first of `n` exactly if `p` is left of `n` without some of its last
digits. -/
theorem toDigits_prefix_iff {p : Nat} (hp : 0 < p) (n : Nat) :
    Nat.toDigits 10 p <+: Nat.toDigits 10 n ↔ ∃ k, n / 10 ^ k = p := by
  induction n using Nat.strongRecOn with
  | ind n ih =>
    by_cases hn : n < 10
    · constructor
      · intro hprefix
        -- A single digit has no prefix but itself.
        have hsingle := Nat.toDigits_of_lt_base hn
        rw [hsingle, ← List.nil_append [n.digitChar], List.prefix_concat_iff, List.nil_append,
          ← hsingle, List.prefix_nil] at hprefix
        have hdigits := hprefix.resolve_right Nat.toDigits_ne_nil
        exact ⟨0, by rw [pow_zero, Nat.div_one, toDigits_injective hdigits]⟩
      · rintro ⟨k, rfl⟩
        cases k with
        | zero =>
          have hself : n / 10 ^ 0 = n := by rw [pow_zero, Nat.div_one]
          exact hself.symm ▸ List.prefix_refl _
        | succ k =>
          have hzero : n / 10 ^ (k + 1) = 0 :=
            Nat.div_eq_of_lt (hn.trans_le (Nat.le_self_pow k.succ_ne_zero 10))
          omega
    · have hsplit := Nat.toDigits_of_base_le (by decide : 1 < 10) (Nat.le_of_not_lt hn)
      have hrest := ih (n / 10) (by omega)
      rw [hsplit, List.prefix_concat_iff, ← hsplit, hrest]
      constructor
      · rintro (hdigits | ⟨k, hk⟩)
        · exact ⟨0, by rw [pow_zero, Nat.div_one, toDigits_injective hdigits]⟩
        · exact ⟨k + 1, by rw [pow_succ', ← Nat.div_div_eq_div_mul, hk]⟩
      · rintro ⟨k, hk⟩
        cases k with
        | zero =>
          rw [pow_zero, Nat.div_one] at hk
          rw [hk]
          exact .inl rfl
        | succ k => exact .inr ⟨k, by rw [Nat.div_div_eq_div_mul, ← pow_succ', hk]⟩

/-! ## Numbers side by side -/

namespace Bits

/-- A place that is made of two is read as the first, shifted by the width of the second, and the
second. -/
theorem uintAt_add {bs : Bits} {offset v w : Nat} (h : offset + (v + w) ≤ bs.length) :
    bs.uintAt offset (v + w) = bs.uintAt offset v * 2 ^ w + bs.uintAt (offset + v) w := by
  have hsplit : (bs.drop offset).take v ++ (bs.drop (offset + v)).take w =
      (bs.drop offset).take (v + w) := take_drop_append rfl w
  have hlength : ((bs.drop (offset + v)).take w).length = w := by
    rw [List.length_take, List.length_drop]
    omega
  have hjoined : toNat ((bs.drop offset).take v ++ (bs.drop (offset + v)).take w) =
      toNat ((bs.drop offset).take v) * 2 ^ w + toNat ((bs.drop (offset + v)).take w) := by
    rw [toNat, List.foldl_append, foldl_eq, hlength]
    rfl
  rw [uintAt, ← hsplit, hjoined, uintAt, uintAt]
  push_cast
  rfl

end Bits

/-- Where two numbers have no bit in common, joining their bits adds them. -/
theorem bitOr_eq_add {a b : Int} {w : Nat} (ha : 0 ≤ a) (hb : 0 ≤ b) (hlt : b < 2 ^ w) :
    bitOr (a * 2 ^ w) b = a * 2 ^ w + b := by
  obtain ⟨a, rfl⟩ := Int.eq_ofNat_of_zero_le ha
  obtain ⟨b, rfl⟩ := Int.eq_ofNat_of_zero_le hb
  have hlt' : b < 2 ^ w := by
    exact_mod_cast hlt
  have hshift : (a : Int) * 2 ^ w = ((2 ^ w * a : Nat) : Int) := by
    push_cast
    ring
  rw [hshift]
  show ((2 ^ w * a ||| b : Nat) : Int) = _
  rw [← Nat.two_pow_add_eq_or_of_lt hlt', Nat.cast_add]

/-! ## The views -/

namespace StaticDataReportPartB

variable {r : StaticDataReportPartB}

/-- The first digits of the identity are 98. -/
theorem isAuxiliary_iff (h : 0 ≤ r.mmsi) :
    r.isAuxiliary = true ↔ ∃ k : Nat, 98 * 10 ^ k ≤ r.mmsi ∧ r.mmsi < 99 * 10 ^ k := by
  obtain ⟨n, hn⟩ := Int.eq_ofNat_of_zero_le h
  have htext : (toString r.mmsi).toList = Nat.toDigits 10 n := by
    rw [hn]
    exact Nat.toList_repr
  have hdigits : ['9', '8'] = Nat.toDigits 10 98 := by decide
  rw [isAuxiliary, htext, hdigits, List.isPrefixOf_iff_prefix, toDigits_prefix_iff (by decide), hn]
  refine exists_congr fun k => ?_
  rw [Nat.div_eq_iff (by positivity)]
  have hcast : (10 : Int) ^ k = (10 ^ k : Nat) := by
    push_cast
    rfl
  have hpos : 0 < 10 ^ k := by positivity
  rw [hcast]
  generalize 10 ^ k = p at hpos
  omega

/-- The dimensions as one number of thirty bits. -/
theorem mothership?_eq (hbow : 0 ≤ r.toBow)
    (hstern : 0 ≤ r.toStern ∧ r.toStern < 2 ^ 9) (hport : 0 ≤ r.toPort ∧ r.toPort < 2 ^ 6)
    (hstarboard : 0 ≤ r.toStarboard ∧ r.toStarboard < 2 ^ 6) :
    r.mothership? = if r.isAuxiliary then
      some (((r.toBow * 2 ^ 9 + r.toStern) * 2 ^ 6 + r.toPort) * 2 ^ 6 + r.toStarboard)
      else none := by
  unfold mothership?
  split
  · have hsteps : bitOr (bitOr (bitOr (r.toBow * 2 ^ 21) (r.toStern * 2 ^ 12)) (r.toPort * 2 ^ 6))
        r.toStarboard =
          ((r.toBow * 2 ^ 9 + r.toStern) * 2 ^ 6 + r.toPort) * 2 ^ 6 + r.toStarboard := by
      rw [bitOr_eq_add hbow (by omega) (by omega)]
      have hlow : r.toBow * 2 ^ 21 + r.toStern * 2 ^ 12 =
          (r.toBow * 2 ^ 9 + r.toStern) * 2 ^ 12 := by ring
      rw [hlow, bitOr_eq_add (by omega) (by omega) (by omega)]
      have hlow : (r.toBow * 2 ^ 9 + r.toStern) * 2 ^ 12 + r.toPort * 2 ^ 6 =
          ((r.toBow * 2 ^ 9 + r.toStern) * 2 ^ 6 + r.toPort) * 2 ^ 6 := by ring
      rw [hlow, bitOr_eq_add (by omega) hstarboard.1 hstarboard.2]
    exact congrArg some hsteps
  · rfl

end StaticDataReportPartB

/-! ## Decoded reports -/

/-- The bits of a decoded message are those that its declared length takes of the text. -/
theorem exists_messageAt_of_decode {text : String} {declared : Option Int} {m : Message}
    (h : decode text declared = .ok m) :
    ∃ n : Nat, n ≤ (Armor.bits text).length ∧ m.kind.lengths.accepts n = true ∧
      m = m.kind.messageAt ((Armor.bits text).take n) := by
  obtain ⟨bits, n, hbits, -, hle, hacc, -, hm, -⟩ := exists_of_decode h
  rw [Armor.decode_eq_bits (Armor.mem_alphabet_of_decode hbits)] at hbits
  obtain rfl := Except.ok.inj hbits
  exact ⟨n, hle, hacc, hm⟩

/-- A decoded report of static data, part B. Its craft is auxiliary exactly if the digits of its
identity begin with 98, and then the mother ship is the number that the thirty bits of the
dimensions spell; otherwise there is none, and these bits are the dimensions. This agrees with the
numbering of auxiliary craft, by nine digits that begin with 98, exactly for the identities that are
not shorter numbers with these first digits. -/
theorem mothership_of_decode {text : String} {declared : Option Int} {r : StaticDataReportPartB}
    (h : decode text declared = .ok (.staticDataReportPartB r)) :
    let bs : Bits := (Armor.bits text).take 168
    bs.length = 168 ∧
    (r.toBow = bs.uintAt 132 9 ∧ r.toStern = bs.uintAt 141 9 ∧ r.toPort = bs.uintAt 150 6 ∧
      r.toStarboard = bs.uintAt 156 6) ∧
    r.mothership? = (if r.isAuxiliary then some (bs.uintAt 132 30) else none) ∧
    (r.isAuxiliary = true ↔ ∃ k ≤ 7, 98 * 10 ^ k ≤ r.mmsi ∧ r.mmsi < 99 * 10 ^ k) ∧
    ((r.isAuxiliary = true ↔ 980000000 ≤ r.mmsi ∧ r.mmsi ≤ 989999999) ↔
      ¬∃ k < 7, 98 * 10 ^ k ≤ r.mmsi ∧ r.mmsi < 99 * 10 ^ k) := by
  intro bs
  obtain ⟨n, hle, hacc, hm⟩ := exists_messageAt_of_decode h
  have hn : (n : Int) = 168 := by
    simpa [Message.kind, Message.visit, RecordKind.lengths, Lengths.accepts] using hacc
  obtain rfl : n = 168 := by omega
  have hlength : bs.length = 168 := by
    rw [List.length_take]
    omega
  have hr : r = WireRecord.ofHead (StaticDataReportPartB.layout.valuesAt bs 0) :=
    Message.staticDataReportPartB.inj hm
  have hmmsi : r.mmsi = bs.uintAt 8 30 := congrArg (·.mmsi) hr
  have hbow : r.toBow = bs.uintAt 132 9 := congrArg (·.toBow) hr
  have hstern : r.toStern = bs.uintAt 141 9 := congrArg (·.toStern) hr
  have hport : r.toPort = bs.uintAt 150 6 := congrArg (·.toPort) hr
  have hstarboard : r.toStarboard = bs.uintAt 156 6 := congrArg (·.toStarboard) hr
  have hauxiliary : r.isAuxiliary = true ↔
      ∃ k ≤ 7, 98 * 10 ^ k ≤ r.mmsi ∧ r.mmsi < 99 * 10 ^ k := by
    have hlt : r.mmsi < 2 ^ 30 := hmmsi ▸ bs.uintAt_lt 8 30
    rw [StaticDataReportPartB.isAuxiliary_iff (hmmsi ▸ bs.uintAt_nonneg 8 30)]
    refine exists_congr fun k => ⟨fun hk => ⟨?_, hk⟩, And.right⟩
    -- A number of thirty bits has no more than ten digits, and those that have begin with 10.
    by_contra hlong
    have hpow : (10 : Int) ^ 8 ≤ 10 ^ k := pow_le_pow_right₀ (by decide) (by omega)
    omega
  refine ⟨hlength, ⟨hbow, hstern, hport, hstarboard⟩, ?_, hauxiliary, ?_⟩
  · have hjoined : bs.uintAt 132 30 = ((bs.uintAt 132 9 * 2 ^ 9 + bs.uintAt 141 9) * 2 ^ 6 +
        bs.uintAt 150 6) * 2 ^ 6 + bs.uintAt 156 6 := by
      rw [Bits.uintAt_add (v := 24) (w := 6) (by omega), Bits.uintAt_add (v := 18) (w := 6)
        (by omega), Bits.uintAt_add (v := 9) (w := 9) (by omega)]
    rw [StaticDataReportPartB.mothership?_eq, hjoined, hbow, hstern, hport, hstarboard]
    · rw [hbow]
      exact bs.uintAt_nonneg 132 9
    · rw [hstern]
      exact ⟨bs.uintAt_nonneg 141 9, bs.uintAt_lt 141 9⟩
    · rw [hport]
      exact ⟨bs.uintAt_nonneg 150 6, bs.uintAt_lt 150 6⟩
    · rw [hstarboard]
      exact ⟨bs.uintAt_nonneg 156 6, bs.uintAt_lt 156 6⟩
  · rw [hauxiliary]
    constructor
    · rintro hagree ⟨k, hk, hlow, hhigh⟩
      have hpow : (10 : Int) ^ k ≤ 10 ^ 6 := pow_le_pow_right₀ (by decide) (by omega)
      have hrange := hagree.mp ⟨k, by omega, hlow, hhigh⟩
      omega
    · intro hshort
      constructor
      · rintro ⟨k, hk, hlow, hhigh⟩
        obtain rfl : k = 7 := by
          by_contra hne
          exact hshort ⟨k, by omega, hlow, hhigh⟩
        omega
      · exact fun hrange => ⟨7, by omega, by omega, by omega⟩

/-- The tender of a ship. -/
theorem mothership_of_decode_tender :
    let text := "H>`sjKlTCBD0000@4ooji0>UEud0"
    let r : StaticDataReportPartB := {
      mmsi := 982446703, shipType := 36, vendorId := "SRT", callsign := "PD7721", toBow := 116
      toStern := 341, toPort := 61, toStarboard := 44 }
    decode text (some 168) = .ok (.staticDataReportPartB r) ∧ r.isAuxiliary = true ∧
      r.mothership? = some 244670316 ∧
      Bits.uintAt ((Armor.bits text).take 168) 132 30 = 244670316 := by
  intro text r
  have h : decode text (some 168) = .ok (.staticDataReportPartB r) := by decide +kernel
  obtain ⟨-, -, hmothership, hauxiliary, -⟩ := mothership_of_decode h
  have hfirst : r.isAuxiliary = true := hauxiliary.mpr ⟨7, by decide, by decide, by decide⟩
  have hplace : Bits.uintAt ((Armor.bits text).take 168) 132 30 = 244670316 := by decide +kernel
  refine ⟨h, hfirst, ?_, hplace⟩
  rw [hmothership, if_pos hfirst, hplace]

/-- The identity 98 is not one of an auxiliary craft, and yet the dimensions of its vessel, 15 by 4
metres, are taken for the identity of a mother ship. -/
theorem auxiliary_short_identity :
    let r : StaticDataReportPartB := {
      mmsi := 98, toBow := 12, toStern := 3, toPort := 2, toStarboard := 2 }
    decode "H0000HT0000000000000001P3220" (some 168) = .ok (.staticDataReportPartB r) ∧
      ¬(r.isAuxiliary = true ↔ 980000000 ≤ r.mmsi ∧ r.mmsi ≤ 989999999) ∧
      r.mothership? = some 25178242 := by
  decide +kernel

end AisStation
