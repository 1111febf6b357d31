import AisStation.Proofs.Encoding

/-!
# Received messages

What a receiver makes of a message that was encoded, whatever its fields hold. The class of a record
is told by its type and its length, and for the parts of a static data report also by two bits of
their own: a record that writes the number of another part is sent, but no receiver can decode it.
All others are decoded as records of their class.
-/

namespace AisStation

/-- The number that a part of a static data report writes is its own. -/
def Message.SendsOwnPart (m : Message) : Prop :=
  match m with
  | staticDataReportPartA r => unsigned 2 r.partNumber = 0
  | staticDataReportPartB r => unsigned 2 r.partNumber = 1
  | _ => True

/-! ## What the bits of a message tell -/

/-- The class of a record is told by its type and its length. -/
theorem RecordKind.eq_of_accepts {kind kind' : RecordKind} {t : Int} {n : Nat}
    (ht : t ∈ kind.types) (ht' : t ∈ kind'.types) (hacc : kind.lengths.accepts n = true)
    (hacc' : kind'.lengths.accepts n = true) : kind = kind' := by
  have hall : ∀ k ∈ all, ∀ k' ∈ all, ∀ t ∈ k.types, t ∈ k'.types → k = k' ∨
      k.lengths = .exactly [160] ∧ k'.lengths = .exactly [168] ∨
        k.lengths = .exactly [168] ∧ k'.lengths = .exactly [160] := by decide
  rcases hall kind kind.mem_all kind' kind'.mem_all t ht ht' with hkind | ⟨h, h'⟩ | ⟨h, h'⟩
  · exact hkind
  all_goals
    rw [h] at hacc
    rw [h'] at hacc'
    simp [Lengths.accepts] at hacc hacc'
    omega

namespace Message

variable {m : Message} {bs : Bits}

/-- The flags of a message announce the sections that are sent. -/
theorem hasRoom_bits (h : m.bits = .ok bs) : (m.kind.headAt bs).HasRoom bs.length := by
  have hlen := length_bits h
  cases m with
  | singleSlotBinaryMessage r =>
    have hvalues := WireRecord.valuesAt_of_encode (r := r) h
    have haddressed : bs.flagAt 38 = r.addressed := congrArg (·.2.2.2.1) hvalues
    have hstructured : bs.flagAt 39 = r.structured := congrArg (·.2.2.2.2.1) hvalues
    show slotData (bs.flagAt 38) (bs.flagAt 39) ≤ bs.length
    rw [haddressed, hstructured, hlen, sentLength_singleSlotBinaryMessage]
    omega
  | multipleSlotBinaryMessage r =>
    have hvalues := WireRecord.valuesAt_of_encode (r := r) h
    have haddressed : bs.flagAt 38 = r.addressed := congrArg (·.2.2.2.1) hvalues
    have hstructured : bs.flagAt 39 = r.structured := congrArg (·.2.2.2.2.1) hvalues
    show slotData (bs.flagAt 38) (bs.flagAt 39) + 20 ≤ bs.length
    rw [haddressed, hstructured, hlen, sentLength_multipleSlotBinaryMessage]
    omega
  | _ => trivial

/-- A message of a registered type is read back with it. -/
theorem messageType_bits (h : m.bits = .ok bs) (htype : m.messageType ∈ m.kind.types) :
    bs.uintAt 0 6 = m.messageType := by
  have hbounds := m.kind.bounds_of_mem_types htype
  rw [uintAt_bits h, Bits.unsigned_of_lt (by omega) (by omega)]

/-- What is read back of a static data report fits its part if the report sent its own part. -/
theorem fitsPart_messageAt_iff (h : m.bits = .ok bs) :
    (m.kind.messageAt bs).FitsPart ↔ m.SendsOwnPart := by
  cases m with
  | staticDataReportPartA r =>
    have hvalues := WireRecord.valuesAt_of_encode (r := r) h
    have hpart : bs.uintAt 38 2 = unsigned 2 r.partNumber := congrArg (·.2.2.2.1) hvalues
    show bs.uintAt 38 2 = 0 ↔ unsigned 2 r.partNumber = 0
    rw [hpart]
  | staticDataReportPartB r =>
    have hvalues := WireRecord.valuesAt_of_encode (r := r) h
    have hpart : bs.uintAt 38 2 = unsigned 2 r.partNumber := congrArg (·.2.2.2.1) hvalues
    show bs.uintAt 38 2 = 1 ↔ unsigned 2 r.partNumber = 1
    rw [hpart]
  | _ => exact Iff.rfl

end Message

/-! ## Decoding -/

/-- What is decoded of a message that was encoded is what stands in its bits; nothing is decoded of
a part of a static data report that did not send its own number. -/
theorem decode_armor_iff {m : Message} {bs : Bits} (hbits : m.bits = .ok bs)
    (htype : m.messageType ∈ m.kind.types) (hacc : m.kind.lengths.accepts bs.length = true)
    {m' : Message} :
    decode (Armor.encode bs).text (some (bs.length : Int)) = .ok m' ↔
      m.SendsOwnPart ∧ m' = m.kind.messageAt bs := by
  obtain ⟨s, hs, h0, hlen, rfl⟩ := Reader.ofArmor_encode bs
  have hsent := Message.messageType_bits hbits htype
  have hroom := Message.hasRoom_bits hbits
  rw [← hlen] at hacc hroom
  rw [← hlen, decode_eq_ok_iff (hlen ▸ hs)]
  constructor
  · rintro ⟨s', hm⟩
    obtain ⟨kind, hacc', -, rfl, htype', hpart⟩ := Decode.message_eq_ok h0 hm
    rw [RecordKind.messageType_messageAt, hsent] at htype'
    obtain rfl := RecordKind.eq_of_accepts htype htype' hacc hacc'
    exact ⟨(Message.fitsPart_messageAt_iff hbits).mp hpart, rfl⟩
  · rintro ⟨hpart, rfl⟩
    obtain ⟨carrier, hcarrier, hcarries⟩ := Carrier.ofType?_of_mem htype
    have h40 := RecordKind.le_of_accepts hacc
    have hfits := (Message.fitsPart_messageAt_iff hbits).mpr hpart
    have hkind := m.kind.kind_messageAt s.rest
    have hnat : ((s.rest.uintAt 0 6).toNat : Int) = m.messageType := by
      rw [Int.toNat_of_nonneg (s.rest.uintAt_nonneg 0 6), hsent]
    apply Decode.message_ok h0 (by omega) (by rw [hnat]; exact hcarrier) hcarries ?_ hacc hroom
    intro hstatic
    have hpart? := Message.partKind?_of_fitsPart hfits (by rw [hkind]) (by
      rw [hkind, ← hstatic]
      exact hcarries)
    rwa [hkind] at hpart?

/-- A message that was encoded is decoded as a record of its class and type, whatever its fields
hold, except for a part of a static data report with the number of another part: that one is not
decoded at all. -/
theorem Message.received_of_encode {m : Message} {payload : Payload}
    (h : encode m = .ok payload) :
    (m.SendsOwnPart → ∃ m', decode payload.text (some payload.bitLength) = .ok m' ∧
      m'.kind = m.kind ∧ m'.messageType = m.messageType) ∧
    (¬m.SendsOwnPart → ∀ m', decode payload.text (some payload.bitLength) ≠ .ok m') := by
  obtain ⟨bs, hbits, rfl, htype, hacc⟩ := encode_eq_ok h
  constructor
  · intro hpart
    refine ⟨m.kind.messageAt bs, (decode_armor_iff hbits htype hacc).mpr ⟨hpart, rfl⟩, ?_, ?_⟩
    · exact m.kind.kind_messageAt bs
    · rw [RecordKind.messageType_messageAt, messageType_bits hbits htype]
  · intro hpart m' hdecode
    exact hpart ((decode_armor_iff hbits htype hacc).mp hdecode).1

/-- A part A with a number that goes beyond its two bits but keeps them zero. -/
theorem Message.received_of_encode_staticDataReportPartA :
    let m : Message := .staticDataReportPartA { mmsi := -1, partNumber := 4, shipname := "Aurora" }
    let payload : Payload := ⟨"H?wwwwh5E8u8400000000000000", 160⟩
    encode m = .ok payload ∧ m.SendsOwnPart ∧
      ∃ m', decode payload.text (some payload.bitLength) = .ok m' ∧
        m'.kind = m.kind ∧ m'.messageType = m.messageType := by
  intro m payload
  have h : encode m = .ok payload := by decide +kernel
  have hpart : m.SendsOwnPart := by
    show unsigned 2 4 = 0
    decide
  exact ⟨h, hpart, (received_of_encode h).1 hpart⟩

/-- A part A that says to be part B is sent, but it is too short to be decoded. -/
theorem Message.not_received_staticDataReportPartA :
    let m : Message := .staticDataReportPartA { partNumber := 1 }
    ∃ payload, encode m = .ok payload ∧
      ¬∃ m', decode payload.text (some payload.bitLength) = .ok m' := by
  intro m
  refine ⟨⟨"H00000400000000000000000000", 160⟩, by decide +kernel, ?_⟩
  rintro ⟨m', hdecode⟩
  have herror : decode "H00000400000000000000000000" (some 160) =
      .error (.codec (.wrongLength 24 160 (.exactly [168]))) := by decide +kernel
  rw [herror] at hdecode
  contradiction

end AisStation
