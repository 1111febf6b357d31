import AisStation.Proofs.Reception

/-!
# Round trips of messages

A canonical message is decoded from its armor text as it was. The other way round, a decoded message
is armored to the bits it was decoded from, except for what its type does not keep. It is canonical,
so these bits are decoded to the same message again.
-/

namespace AisStation

/-- A canonical message is armored from bits of a length of its kind, from which it is read back. -/
theorem Message.Canonical.exists_bits {m : Message} (h : m.Canonical) :
    ∃ bs, m.bits = .ok bs ∧ encode m = .ok (Armor.encode bs) ∧
      m.kind.lengths.accepts bs.length = true ∧ m.kind.messageAt bs = m := by
  obtain ⟨bs, hbits, hacc, -, hback⟩ := bits_of_fits h.head h.tail
  exact ⟨bs, hbits, encode_ok h.type hbits hacc, hacc, hback⟩

/-- A canonical message is armored from bits of which it is decoded again. -/
theorem Message.Canonical.exists_armor {m : Message} (h : m.Canonical) :
    ∃ bs : Bits, encode m = .ok (Armor.encode bs) ∧ 40 ≤ bs.length ∧
      decode (Armor.encode bs).text (some (bs.length : Int)) = .ok m := by
  obtain ⟨bs, hbits, hencode, hacc, hback⟩ := h.exists_bits
  have hpart : m.SendsOwnPart := by
    rw [← fitsPart_messageAt_iff hbits, hback]
    exact h.part
  have hdecode := (decode_armor_iff hbits h.type hacc).mpr ⟨hpart, hback.symm⟩
  exact ⟨bs, hencode, RecordKind.le_of_accepts hacc, hdecode⟩

/-- A canonical message can be encoded, and decoding the armor text with its length gives the
message back. -/
theorem Message.Canonical.decode_of_encode {m : Message} (h : m.Canonical) :
    ∃ payload, encode m = .ok payload ∧
      decode payload.text (some payload.bitLength) = .ok m := by
  obtain ⟨bs, hencode, -, hdecode⟩ := h.exists_armor
  exact ⟨_, hencode, hdecode⟩

/-- An aid to navigation whose name goes beyond the head. -/
theorem Message.decode_of_encode_aidToNavigationReport :
    let m : Message := .aidToNavigationReport
      { mmsi := 993692015, name := "CHARLESTON APPROACH ", nameExtension := "LIGHT 1" }
    m.Canonical ∧ ∃ payload, encode m = .ok payload ∧
      decode payload.text (some payload.bitLength) = .ok m :=
  have h : Message.Canonical _ := by decide
  ⟨h, h.decode_of_encode⟩

/-! ## Decoded messages -/

/-- The payload carries exactly the given bits: it has their length, and its text spells them,
completed by zeros to whole characters. -/
def Payload.Carries (p : Payload) (bs : Bits) : Prop :=
  p.bitLength = bs.length ∧
    Armor.decode p.text = .ok (bs ++ Bits.zeros (AisStation.fillBits 6 bs.length))

theorem Armor.carries_encode (bs : Bits) : (encode bs).Carries bs :=
  ⟨bitLength_encode bs, decode_encode bs⟩

/-- A decoded message is the message by place of its declared bits, and it is canonical. -/
theorem exists_of_decode {text : String} {declared : Option Int} {m : Message}
    (h : decode text declared = .ok m) :
    ∃ (bits : Bits) (n : Nat), Armor.decode text = .ok bits ∧ declared.getD bits.length = n ∧
      n ≤ bits.length ∧ m.kind.lengths.accepts n = true ∧
        (m.kind.headAt (bits.take n)).HasRoom n ∧ m = m.kind.messageAt (bits.take n) ∧
          m.Canonical := by
  cases hbits : Armor.decode text with
  | error why =>
    simp only [decode, Decode.result, Decode.ofArmor, Reader.ofArmor, hbits, bind, Except.bind] at h
    contradiction
  | ok bits =>
    by_cases hn : declared.getD bits.length < 0 ∨ (bits.length : Int) < declared.getD bits.length
    · have hs := Reader.ofArmor_error hbits hn
      simp only [decode, Decode.result, Decode.ofArmor, hs] at h
      contradiction
    · obtain ⟨n, hn⟩ : ∃ n : Nat, declared.getD bits.length = n :=
        Int.eq_ofNat_of_zero_le (by omega)
      have hle : n ≤ bits.length := by omega
      obtain ⟨s, hs, h0, hlen, hrest⟩ := Reader.ofArmor_ok hbits hn hle
      obtain ⟨s', hm⟩ := (decode_eq_ok_iff hs).mp h
      obtain ⟨kind, hacc, hroom, rfl, htype, hpart⟩ := Decode.message_eq_ok h0 hm
      have hkind := RecordKind.kind_messageAt kind s.rest
      rw [hlen] at hacc hroom
      have hlen' : s.rest.length = n := by
        rw [hrest, List.length_take]
        omega
      obtain ⟨hhead, htail⟩ := RecordKind.fits_messageAt (by rw [hlen']; exact hacc)
        (by rw [hlen']; exact hroom)
      refine ⟨bits, n, rfl, hn, hle, ?_⟩
      rw [← hrest, hkind]
      refine ⟨hacc, hroom, rfl, ?_, hpart, hhead, htail⟩
      rw [hkind]
      exact htype

/-- The bits behind the declared ones are a completion, if they are less than a character and all of
them zero. -/
theorem Bits.eq_zeros_fillBits {bits : Bits} {n chars : Nat} (hlen : bits.length = 6 * chars)
    (hle : n ≤ bits.length) (hchars : chars = (n + 5) / 6) (hzero : ∀ b ∈ bits.drop n, b = false) :
    bits.drop n = zeros (fillBits 6 n) := by
  have hfill : fillBits 6 n = bits.length - n := fillBits_eq (by omega) (by omega)
  rw [hfill, zeros, List.eq_replicate_iff]
  exact ⟨List.length_drop, hzero⟩

/-- A decoded message is encoded again with the bits that its type keeps. -/
theorem encode_messageAt {kind : RecordKind} {bs : Bits} (hm : (kind.messageAt bs).Canonical)
    (hacc : kind.lengths.accepts bs.length = true) (hroom : (kind.headAt bs).HasRoom bs.length) :
    encode (kind.messageAt bs) = .ok (Armor.encode ((kind.messageAt bs).resent bs)) := by
  obtain ⟨sent, hbits, hencode, -⟩ := hm.exists_bits
  rw [RecordKind.bits_messageAt hacc hroom] at hbits
  rw [hencode, Except.ok.inj hbits]

namespace Message

variable {m : Message}

/-- Only texts, reservations and aids to navigation are sent again with other bits. -/
theorem resent_eq_self (htype : m.messageType ∈ m.kind.types)
    (h : m.messageType ∉ ([12, 14, 20, 21] : List Int)) (bs : Bits) : m.resent bs = bs := by
  have hne (t : Int) (ht : t ∈ ([12, 14, 20, 21] : List Int)) : m.messageType ≠ t :=
    fun h' => h (h' ▸ ht)
  cases m with
  | addressedSafetyMessage r => exact absurd (List.mem_singleton.mp htype) (hne 12 (by decide))
  | safetyBroadcastMessage r => exact absurd (List.mem_singleton.mp htype) (hne 14 (by decide))
  | dataLinkManagement r => exact absurd (List.mem_singleton.mp htype) (hne 20 (by decide))
  | aidToNavigationReport r => exact absurd (List.mem_singleton.mp htype) (hne 21 (by decide))
  | _ => rfl

/-- Only static data reports share their type. -/
theorem kind_eq_of_messageType (kind : RecordKind) {t : Int} (htype : m.messageType ∈ m.kind.types)
    (ht : m.messageType = t) (h : t ∈ kind.types) (h24 : t ≠ 24) : m.kind = kind := by
  have hall : ∀ k ∈ RecordKind.all, ∀ k' ∈ RecordKind.all, ∀ t ∈ k.types, t ∈ k'.types → t ≠ 24 →
      k = k' := by decide
  exact hall _ m.kind.mem_all _ kind.mem_all t (ht ▸ htype) h h24

/-! ### What is sent again of the declared bits -/

theorem resent_addressedSafetyMessage (h : m.kind = .addressedSafetyMessage) {bits : Bits} {n : Nat}
    (hlen : (bits.take n).length = n) :
    m.resent (bits.take n) = bits.take (n - (n - 72) % 6) := by
  cases m with
  | addressedSafetyMessage r => rw [resent, hlen, List.take_take, min_eq_left (Nat.sub_le _ _)]
  | _ => contradiction

theorem resent_safetyBroadcastMessage (h : m.kind = .safetyBroadcastMessage) {bits : Bits} {n : Nat}
    (hlen : (bits.take n).length = n) :
    m.resent (bits.take n) = bits.take (n - (n - 40) % 6) := by
  cases m with
  | safetyBroadcastMessage r => rw [resent, hlen, List.take_take, min_eq_left (Nat.sub_le _ _)]
  | _ => contradiction

theorem resent_dataLinkManagement {r : DataLinkManagement} {bits : Bits} {n kept : Nat}
    (hlen : (bits.take n).length = n) (hkept : 40 + 30 * r.reservations.length = kept)
    (hle : kept ≤ n) :
    (dataLinkManagement r).resent (bits.take n) = bits.take kept ++ Bits.zeros (n - kept) := by
  simp only [resent, hkept]
  rw [hlen, List.take_take, min_eq_left hle]

theorem resent_aidToNavigationReport {r : AidToNavigationReport} {bits : Bits} {n kept : Nat}
    (hkept : 272 + 6 * r.nameExtension.length = kept) (hle : kept ≤ n) :
    (aidToNavigationReport r).resent (bits.take n) =
      bits.take kept ++ Bits.zeros (fillBits 8 kept) := by
  simp only [resent, hkept]
  rw [List.take_take, min_eq_left hle]

theorem exists_dataLinkManagement (h : m.kind = .dataLinkManagement) :
    ∃ r, m = dataLinkManagement r := by
  cases m with
  | dataLinkManagement r => exact ⟨r, rfl⟩
  | _ => contradiction

theorem exists_aidToNavigationReport (h : m.kind = .aidToNavigationReport) :
    ∃ r, m = aidToNavigationReport r := by
  cases m with
  | aidToNavigationReport r => exact ⟨r, rfl⟩
  | _ => contradiction

/-- All reservations of a message that was read stand within it. -/
theorem le_of_messageAt_dataLinkManagement {r : DataLinkManagement} {bs : Bits} (h : 40 ≤ bs.length)
    (hr : RecordKind.dataLinkManagement.messageAt bs = dataLinkManagement r) :
    40 + 30 * r.reservations.length ≤ bs.length := by
  obtain rfl := Message.dataLinkManagement.inj hr
  have hlen : (groupsAt SlotReservation.ofBits 30 bs 40).length = (bs.length - 40) / 30 := by simp
  show 40 + 30 * (groupsAt SlotReservation.ofBits 30 bs 40).length ≤ bs.length
  rw [hlen]
  omega

/-- All of a name extension that was read stands within the message. -/
theorem le_of_messageAt_aidToNavigationReport {r : AidToNavigationReport} {bs : Bits}
    (h : 272 ≤ bs.length)
    (hr : RecordKind.aidToNavigationReport.messageAt bs = aidToNavigationReport r) :
    272 + 6 * r.nameExtension.length ≤ bs.length := by
  obtain rfl := Message.aidToNavigationReport.inj hr
  have hlen := SixBit.length_stripPadding_le
    (SixBit.textAt (AidToNavigationReport.extensionCount bs.length) (bs.drop 272))
  show 272 + 6 * (String.ofList (SixBit.stripPadding
    (SixBit.textAt (AidToNavigationReport.extensionCount bs.length) (bs.drop 272)))).length ≤
      bs.length
  rw [SixBit.length_textAt, AidToNavigationReport.extensionCount] at hlen
  rw [String.length_ofList, AidToNavigationReport.extensionCount]
  omega

end Message

/-- A message that was decoded from an armor text can be encoded, and the payload carries the
declared bits of the text again: all of them, for most types. Texts lose the bits that make no
character; the completion of reservations and of aids to navigation becomes zeros. -/
theorem encode_of_decode {text : String} {declared : Option Int} {m : Message}
    (h : decode text declared = .ok m) :
    ∃ (bits : Bits) (n : Nat) (payload : Payload), Armor.decode text = .ok bits ∧
      declared.getD bits.length = n ∧ n ≤ bits.length ∧ encode m = .ok payload ∧
      (m.messageType ∉ ([12, 14, 20, 21] : List Int) →
        payload.bitLength = n ∧ payload.Carries (bits.take n) ∧
          (text.length = (n + 5) / 6 → (∀ b ∈ bits.drop n, b = false) → payload.text = text)) ∧
      (m.messageType = 12 → payload.Carries (bits.take (n - (n - 72) % 6))) ∧
      (m.messageType = 14 → payload.Carries (bits.take (n - (n - 40) % 6))) ∧
      (m.messageType = 20 → ∃ r, m = .dataLinkManagement r ∧
        let kept := 40 + 30 * r.reservations.length
        kept ≤ n ∧ payload.bitLength = n ∧
          payload.Carries (bits.take kept ++ Bits.zeros (n - kept))) ∧
      (m.messageType = 21 → ∃ r, m = .aidToNavigationReport r ∧
        let kept := 272 + 6 * r.nameExtension.length
        kept ≤ n ∧ payload.Carries (bits.take kept ++ Bits.zeros (fillBits 8 kept))) := by
  obtain ⟨bits, n, hbits, hn, hle, hacc, hroom, hm, hcanonical⟩ := exists_of_decode h
  have hlen : (bits.take n).length = n := by
    rw [List.length_take]
    omega
  have htype := hcanonical.type
  have hencode : encode m = .ok (Armor.encode (m.resent (bits.take n))) := by
    rw [hm]
    exact encode_messageAt (by rw [← hm]; exact hcanonical) (by rw [hlen]; exact hacc)
      (by rw [hlen]; exact hroom)
  refine ⟨bits, n, _, hbits, hn, hle, hencode, fun hother => ?_, fun h12 => ?_, fun h14 => ?_,
    fun h20 => ?_, fun h21 => ?_⟩
  · have hself : m.resent (bits.take n) = bits.take n := Message.resent_eq_self htype hother _
    rw [hself]
    refine ⟨?_, Armor.carries_encode _, fun hchars hzero => ?_⟩
    · rw [Armor.bitLength_encode, hlen]
    · apply Armor.text_encode_eq
      rw [hlen, hbits, ← Bits.eq_zeros_fillBits (Armor.length_of_decode hbits) hle hchars hzero,
        List.take_append_drop]
  · have hkind := Message.kind_eq_of_messageType .addressedSafetyMessage htype h12 (by decide)
      (by decide)
    rw [Message.resent_addressedSafetyMessage hkind hlen]
    exact Armor.carries_encode _
  · have hkind := Message.kind_eq_of_messageType .safetyBroadcastMessage htype h14 (by decide)
      (by decide)
    rw [Message.resent_safetyBroadcastMessage hkind hlen]
    exact Armor.carries_encode _
  · have hkind := Message.kind_eq_of_messageType .dataLinkManagement htype h20 (by decide)
      (by decide)
    obtain ⟨r, rfl⟩ := Message.exists_dataLinkManagement hkind
    have h40 : 40 ≤ (bits.take n).length := by
      rw [hlen]
      exact RecordKind.le_of_accepts hacc
    have hkept := Message.le_of_messageAt_dataLinkManagement h40 hm.symm
    rw [hlen] at hkept
    rw [Message.resent_dataLinkManagement hlen rfl hkept]
    refine ⟨r, rfl, hkept, ?_, Armor.carries_encode _⟩
    rw [Armor.bitLength_encode, List.length_append, List.length_take, Bits.length_zeros]
    omega
  · have hkind := Message.kind_eq_of_messageType .aidToNavigationReport htype h21 (by decide)
      (by decide)
    obtain ⟨r, rfl⟩ := Message.exists_aidToNavigationReport hkind
    have h272 : 272 ≤ (bits.take n).length := by
      rw [hlen]
      exact (Lengths.accepts_between.mp hacc).1
    have hkept := Message.le_of_messageAt_aidToNavigationReport h272 hm.symm
    rw [hlen] at hkept
    rw [Message.resent_aidToNavigationReport rfl hkept]
    exact ⟨r, rfl, hkept, Armor.carries_encode _⟩

/-- A text whose last two bits make no character is sent again without them. -/
theorem encode_safetyBroadcastMessage_of_decode :
    let text := ">5?Per18=HB1U:1@E=B0m<L"
    let m : Message := .safetyBroadcastMessage { mmsi := 351809000, text := "RCVD YR TEST MSG" }
    decode text none = .ok m ∧ ∃ bits payload, Armor.decode text = .ok bits ∧ bits.length = 138 ∧
      encode m = .ok payload ∧ payload.Carries (bits.take 136) := by
  intro text m
  have h : decode text none = .ok m := by decide +kernel
  obtain ⟨bits, n, payload, hbits, hn, -, hencode, -, -, h14, -⟩ := encode_of_decode h
  have hchars : ">5?Per18=HB1U:1@E=B0m<L".length = 23 := by decide +kernel
  have hlen : bits.length = 138 := by
    rw [Armor.length_of_decode hbits, hchars]
  obtain rfl : n = 138 := by
    rw [Option.getD_none, hlen] at hn
    omega
  exact ⟨h, bits, payload, hbits, hlen, hencode, h14 rfl⟩

/-- Encoding a decoded message and decoding the payload changes nothing more, also where the payload
has other bits than the text that the message was decoded from. -/
theorem decode_of_encode_of_decode {text : String} {declared : Option Int} {m : Message}
    (h : decode text declared = .ok m) :
    ∃ payload, encode m = .ok payload ∧
      decode payload.text (some payload.bitLength) = .ok m := by
  obtain ⟨-, -, -, -, -, -, -, -, hcanonical⟩ := exists_of_decode h
  obtain ⟨bs, hencode, -, hdecode⟩ := hcanonical.exists_armor
  exact ⟨Armor.encode bs, hencode, hdecode⟩

/-- An aid to navigation of an odd length, whose name extension ends in filling. -/
theorem decode_of_encode_of_decode_aidToNavigationReport :
    let text := "E>kb9Kh1T0a62ab7W@0`897PQT@6NAc0J2@`000000N000@:"
    let m : Message := .aidToNavigationReport
      { mmsi := 993692015, name := "CHARLESTON APPROACH ", nameExtension := "A" }
    decode text (some 287) = .ok m ∧ ∃ payload, encode m = .ok payload ∧
      decode payload.text (some payload.bitLength) = .ok m := by
  intro text m
  have h : decode text (some 287) = .ok m := by decide +kernel
  exact ⟨h, decode_of_encode_of_decode h⟩

end AisStation
