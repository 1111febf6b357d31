import AisStation.Message.Encode
import AisStation.Proofs.Acceptance
import AisStation.Proofs.Sent

/-!
# Encoded messages

How encoding ends, told by the type and the class of the message, the characters that are written,
and the number of groups and of data bits. Whatever numbers the other fields hold, they play no
part. A type that is too long to be written makes encoding end in another way than an unknown one.
-/

namespace AisStation

/-- The ways in which encoding ends. A length that is refused is reported with its type, a message
that is encoded has the given number of bits; a number that is too long to be told leaves nothing to
report. -/
inductive EncodeOutcome
  | unwritable
  | unknownType (messageType : Int)
  | wrongCarrier (kind : RecordKind) (messageType : Int)
  | malformed
  | wrongLength (messageType length : Int)
  | encoded (length : Int)
deriving DecidableEq, Repr

/-- The way in which encoding ended. -/
def EncodeOutcome.of : Except EncodeError Payload → EncodeOutcome
  | .ok payload => encoded payload.bitLength
  | .error .unwritable => unwritable
  | .error (.wrongCarrier kind messageType) => wrongCarrier kind messageType
  | .error (.codec (.unknownType messageType)) => unknownType messageType
  | .error (.codec (.malformed _)) => malformed
  | .error (.codec (.wrongLength messageType length _)) => wrongLength messageType length

/-- The part of a static data report that records of a class are; for others it does not matter. -/
def RecordKind.part : RecordKind → Nat
  | staticDataReportPartB => 1
  | _ => 0

/-- How encoding a message has to end. -/
def EncodeOutcome.expected (m : Message) : EncodeOutcome :=
  if m.messageType < 1 ∨ 27 < m.messageType then unknownType m.messageType
  else if m.kind ≠ classOf m.messageType.toNat m.kind.part then wrongCarrier m.kind m.messageType
  else if ∃ c ∈ m.writtenText, ¬SixBit.Coded c then malformed
  else if m.Misfits then wrongLength m.messageType m.sentLength
  else encoded m.sentLength

/-! ## Carriers -/

theorem RecordKind.bounds_of_mem_types {kind : RecordKind} {t : Int} (h : t ∈ kind.types) :
    1 ≤ t ∧ t ≤ 27 := by
  have hall : ∀ kind ∈ RecordKind.all, ∀ t ∈ kind.types, 1 ≤ t ∧ t ≤ 27 := by decide
  exact hall kind kind.mem_all t h

/-- Only the types from 1 to 27 have a carrier. -/
theorem Carrier.ofType?_eq_none_iff {t : Int} :
    Carrier.ofType? t = none ↔ t < 1 ∨ 27 < t := by
  constructor
  · intro h
    by_contra hbounds
    have hcarrier := ofType?_eq (by omega : t.toNat < 64)
    rw [Int.toNat_of_nonneg (by omega), h, if_neg (by omega)] at hcarrier
    split at hcarrier <;> contradiction
  · intro h
    cases hc : Carrier.ofType? t with
    | none => rfl
    | some carrier =>
      cases carrier with
      | record kind =>
        have := RecordKind.bounds_of_mem_types (Carrier.mem_types_of_ofType? hc).1
        omega
      | staticData =>
        have := Carrier.eq_of_ofType?_staticData hc
        omega

/-- The carrier of a type carries the records that have the type among their own. -/
theorem Carrier.carries_iff {kind : RecordKind} {t : Int} {carrier : Carrier}
    (hc : Carrier.ofType? t = some carrier) : carrier.carries kind = true ↔ t ∈ kind.types := by
  constructor
  · intro h
    cases carrier with
    | record kind' =>
      obtain rfl : kind' = kind := beq_iff_eq.mp h
      exact (Carrier.mem_types_of_ofType? hc).1
    | staticData =>
      obtain rfl := Carrier.eq_of_ofType?_staticData hc
      rcases Bool.or_eq_true_iff.mp h with hkind | hkind
      · rw [beq_iff_eq.mp hkind]
        exact List.mem_singleton.mpr rfl
      · rw [beq_iff_eq.mp hkind]
        exact List.mem_singleton.mpr rfl
  · intro h
    obtain ⟨carrier', hc', hcarries⟩ := Carrier.ofType?_of_mem h
    obtain rfl := Option.some.inj (hc.symm.trans hc')
    exact hcarries

/-- The types of a record are those that have its class. -/
theorem RecordKind.mem_types_iff {kind : RecordKind} {t : Int} (h : 1 ≤ t ∧ t ≤ 27) :
    t ∈ kind.types ↔ kind = classOf t.toNat kind.part := by
  have hall : ∀ n < 28, n ≠ 0 → ∀ kind ∈ RecordKind.all,
      ((n : Nat) : Int) ∈ kind.types ↔ kind = classOf n kind.part := by decide
  have hn : ((t.toNat : Nat) : Int) = t := Int.toNat_of_nonneg (by omega)
  have hmem := hall t.toNat (by omega) (by omega) kind kind.mem_all
  rwa [hn] at hmem

/-- The lengths of a record are those of its type. -/
theorem RecordKind.accepts_iff {kind : RecordKind} {t : Int} (h : t ∈ kind.types) (n : Nat) :
    kind.lengths.accepts n = true ↔ AllowedLength t.toNat kind.part n := by
  have hbounds := kind.bounds_of_mem_types h
  have hclass := (kind.mem_types_iff hbounds).mp h
  by_cases h24 : t.toNat = 24
  · have hpart : kind.part < 2 := by cases kind <;> decide
    have hacc := accepts_staticData hpart n
    rw [h24] at hclass ⊢
    rwa [← hclass] at hacc
  · have hacc := accepts_classOf (by omega) (by omega) h24 kind.part n
    rw [classOf_eq h24] at hclass
    rwa [← hclass] at hacc

/-! ## Steps -/

section

variable {m : Message} {carrier : Carrier} {bs : Bits}

theorem encode_unknown (hc : Carrier.ofType? m.messageType = none) :
    encode m = .error (.raised (.unknownType m.messageType)) := by
  simp only [encode, hc]

theorem encode_wrongCarrier (hc : Carrier.ofType? m.messageType = some carrier)
    (h : m.messageType ∉ m.kind.types) :
    encode m = .error (.wrongCarrier m.kind m.messageType) := by
  have hcarries : carrier.carries m.kind = false :=
    Bool.eq_false_iff.mpr (mt (Carrier.carries_iff hc).mp h)
  simp only [encode, hc, hcarries, Bool.not_false, if_true]

theorem encode_malformed (h : m.messageType ∈ m.kind.types) {why : Malformed}
    (hbits : m.bits = .error why) : encode m = .error (.codec (.malformed why)) := by
  obtain ⟨carrier, hc, hcarries⟩ := Carrier.ofType?_of_mem h
  simp only [encode, hc, hcarries, hbits, Bool.not_true, Bool.false_eq_true, if_false]

theorem encode_wrongLength (h : m.messageType ∈ m.kind.types) (hbits : m.bits = .ok bs)
    (hacc : ¬m.kind.lengths.accepts bs.length = true) :
    encode m = .error (.codec (.wrongLength m.messageType bs.length m.kind.lengths)) := by
  obtain ⟨carrier, hc, hcarries⟩ := Carrier.ofType?_of_mem h
  simp only [encode, hc, hcarries, hbits, Lengths.check, hacc, Bool.not_true, Bool.false_eq_true,
    if_false]

theorem encode_ok (h : m.messageType ∈ m.kind.types) (hbits : m.bits = .ok bs)
    (hacc : m.kind.lengths.accepts bs.length = true) : encode m = .ok (Armor.encode bs) := by
  obtain ⟨carrier, hc, hcarries⟩ := Carrier.ofType?_of_mem h
  simp only [encode, hc, hcarries, hbits, Lengths.check, hacc, if_true, Bool.not_true,
    Bool.false_eq_true, if_false]

/-- A message that is encoded is armored from its bits, and they are as many as its type allows. -/
theorem encode_eq_ok {payload : Payload} (h : encode m = .ok payload) :
    ∃ bs, m.bits = .ok bs ∧ payload = Armor.encode bs ∧ m.messageType ∈ m.kind.types ∧
      m.kind.lengths.accepts bs.length = true := by
  cases hc : Carrier.ofType? m.messageType with
  | none =>
    rw [encode_unknown hc] at h
    contradiction
  | some carrier =>
    by_cases htype : m.messageType ∈ m.kind.types
    · cases hbits : m.bits with
      | error why =>
        rw [encode_malformed htype hbits] at h
        contradiction
      | ok bs =>
        by_cases hacc : m.kind.lengths.accepts bs.length = true
        · rw [encode_ok htype hbits hacc] at h
          exact ⟨bs, rfl, (Except.ok.inj h).symm, htype, hacc⟩
        · rw [encode_wrongLength htype hbits hacc] at h
          contradiction
    · rw [encode_wrongCarrier hc htype] at h
      contradiction

end

/-! ## Outcomes -/

/-- Encoding a record that may carry its type ends as its characters and its length tell. -/
theorem EncodeOutcome.of_carried {m : Message} (h : m.messageType ∈ m.kind.types) :
    EncodeOutcome.of (encode m) =
      if ∃ c ∈ m.writtenText, ¬SixBit.Coded c then malformed
      else if m.Misfits then wrongLength m.messageType m.sentLength
      else encoded m.sentLength := by
  have hwritten := m.bits_ok_iff
  cases hbits : m.bits with
  | error why =>
    rw [hbits] at hwritten
    have hforeign : ∃ c ∈ m.writtenText, ¬SixBit.Coded c := by
      by_contra hnone
      push Not at hnone
      obtain ⟨bs, hbs⟩ := hwritten.mpr hnone
      contradiction
    rw [encode_malformed h hbits, if_pos hforeign]
    rfl
  | ok bs =>
    have hcoded := hwritten.mp ⟨bs, hbits⟩
    have hnone : ¬∃ c ∈ m.writtenText, ¬SixBit.Coded c := by
      push Not
      exact hcoded
    have hlen := Message.length_bits hbits
    have hacc := Message.accepts_sentLength h
    rw [if_neg hnone]
    rw [← hlen] at hacc ⊢
    by_cases hmisfits : m.Misfits
    · rw [if_pos hmisfits, encode_wrongLength h hbits fun hok => hacc.mp hok hmisfits]
      rfl
    · rw [if_neg hmisfits, encode_ok h hbits (hacc.mpr hmisfits)]
      rfl

/-- Encoding ends as the type, the class, the characters and the length of a message tell. -/
theorem EncodeOutcome.of_encode {m : Message} (htold : Text.IsWritable m.messageType) :
    EncodeOutcome.of (encode m) = .expected m := by
  rw [EncodeOutcome.expected]
  by_cases hunknown : m.messageType < 1 ∨ 27 < m.messageType
  · rw [if_pos hunknown, encode_unknown (Carrier.ofType?_eq_none_iff.mpr hunknown),
      EncodeError.raised_unknownType htold]
    rfl
  · rw [if_neg hunknown]
    have htypes := m.kind.mem_types_iff (by omega : 1 ≤ m.messageType ∧ m.messageType ≤ 27)
    by_cases htype : m.messageType ∈ m.kind.types
    · rw [if_neg (not_not.mpr (htypes.mp htype)), EncodeOutcome.of_carried htype]
    · cases hc : Carrier.ofType? m.messageType with
      | none => exact absurd (Carrier.ofType?_eq_none_iff.mp hc) hunknown
      | some carrier =>
        rw [if_pos (mt htypes.mpr htype), encode_wrongCarrier hc htype]
        rfl

/-- A type that is too long to be told belongs to no record. -/
theorem encode_overlong {m : Message} (h : ¬Text.IsWritable m.messageType) :
    encode m = .error .unwritable := by
  have hunknown : m.messageType < 1 ∨ 27 < m.messageType := by
    by_contra hbounds
    exact h (Text.isWritable_of_lt (by omega))
  rw [encode_unknown (Carrier.ofType?_eq_none_iff.mpr hunknown),
    EncodeError.raised_unknownType_overlong h]

/-- Only a type that is too long to be told is not told. -/
theorem encode_eq_unwritable_iff {m : Message} :
    encode m = .error .unwritable ↔ ¬Text.IsWritable m.messageType := by
  refine ⟨fun h htold => ?_, encode_overlong⟩
  have hexpected := EncodeOutcome.of_encode htold
  rw [h, EncodeOutcome.expected] at hexpected
  split at hexpected
  · contradiction
  · split at hexpected
    · contradiction
    · split at hexpected
      · contradiction
      · split at hexpected <;> contradiction

/-- Encoding a record ends in exactly one way: its type is unknown, its class is not that of its
type, a character that is written has no code, its length is wrong, or it is encoded; then the
length is one of its type, and the text is the shortest armor of that length. The exception is a
type that is too long to be told. -/
theorem outcome_encode (m : Message) :
    EncodeOutcome.of (encode m) =
        (if Text.IsWritable m.messageType then .expected m else .unwritable) ∧
      ∀ payload, encode m = .ok payload →
        payload.bitLength = m.sentLength ∧
          AllowedLength m.messageType.toNat m.kind.part m.sentLength ∧
            payload.text.length = (m.sentLength + 5) / 6 ∧
              (∀ c ∈ payload.text.toList, c ∈ Armor.alphabet) ∧
                (payload.fillBits : Int) = 6 * payload.text.length - payload.bitLength := by
  constructor
  · split
    · exact EncodeOutcome.of_encode ‹_›
    · rw [encode_overlong ‹_›]
      rfl
  · intro payload h
    obtain ⟨bs, hbits, rfl, htype, hacc⟩ := encode_eq_ok h
    obtain ⟨hchars, hfill⟩ := Armor.fillBits_encode bs
    rw [m.kind.accepts_iff htype] at hacc
    rw [← Message.length_bits hbits]
    exact ⟨rfl, hacc, hchars, fun c hc => Armor.mem_alphabet_of_mem_encode hc, hfill⟩

/-- A number out of range and a text in lower case are no reason to refuse a message. -/
example : EncodeOutcome.expected (.safetyBroadcastMessage { mmsi := -1, text := "rcvd yr test" }) =
    .encoded 112 := by
  decide +kernel

/-- The type is none from 1 to 27 and too long to be told: encoding ends, but not with an unknown
type. -/
theorem not_unknownType_overlong :
    let m : Message := .positionReport { messageType := Text.overlong }
    EncodeOutcome.expected m = .unknownType Text.overlong ∧
      encode m = .error .unwritable := by
  intro m
  have hlong : ¬Text.IsWritable m.messageType := Text.not_isWritable_overlong
  have hunknown : m.messageType < 1 ∨ 27 < m.messageType := by
    by_contra hbounds
    exact hlong (Text.isWritable_of_lt (by omega))
  exact ⟨if_pos hunknown, encode_overlong hlong⟩

end AisStation
