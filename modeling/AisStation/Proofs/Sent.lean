import AisStation.Proofs.Record
import Mathlib.Tactic.IntervalCases

/-!
# What is sent of a message

Whatever the fields of a message hold, its wire form exists if the characters that are written have
codes, and then its length is told by the form: by the number of groups, the sections that are
there, the characters of a text and the bits of the data. Only a message without a group and one
with too many data have a length that is not of their kind.
-/

namespace AisStation

open WireRecord

/-! ## Records -/

namespace WireRecord

variable {R : Type} [WireRecord R] {r : R} {bs : Bits}

/-- The bits of a record are those of its head and its tail. -/
theorem encode_eq_ok (h : WireRecord.encode r = .ok bs) :
    ∃ first tail, (layout R).encode (head r) = .ok first ∧ encodeTail r = .ok tail ∧
      bs = first ++ tail := by
  rw [WireRecord.encode] at h
  obtain ⟨first, hfirst, h⟩ := bind_eq_ok_iff.mp h
  obtain ⟨tail, htail, h⟩ := bind_eq_ok_iff.mp h
  exact ⟨first, tail, hfirst, htail, (Except.ok.inj h).symm⟩

/-- The values of the head are read back as far as their fields keep them. -/
theorem valuesAt_of_encode (h : WireRecord.encode r = .ok bs) :
    (layout R).valuesAt bs 0 = (layout R).kept (head r) := by
  obtain ⟨first, tail, hfirst, -, rfl⟩ := encode_eq_ok h
  exact (Layout.valuesAt_of_encode hfirst).2 [] 0 rfl tail

theorem encode_ok_iff :
    (∃ bs, WireRecord.encode r = .ok bs) ↔
      (∀ c ∈ (layout R).writtenText (head r), SixBit.Coded c) ∧
        ∃ tail, encodeTail r = .ok tail := by
  rw [← Layout.encode_ok_iff]
  constructor
  · rintro ⟨bs, h⟩
    obtain ⟨first, tail, hfirst, htail, -⟩ := encode_eq_ok h
    exact ⟨⟨first, hfirst⟩, ⟨tail, htail⟩⟩
  · rintro ⟨⟨first, hfirst⟩, ⟨tail, htail⟩⟩
    refine ⟨first ++ tail, ?_⟩
    rw [WireRecord.encode, hfirst, htail]
    rfl

end WireRecord

namespace Message

/-! ## Characters and lengths -/

/-- The characters behind the head that are written. -/
def tailText (m : Message) : List Char :=
  match m with
  | addressedSafetyMessage r => r.text.toList.take AddressedSafetyMessage.maxText
  | safetyBroadcastMessage r => r.text.toList.take SafetyBroadcastMessage.maxText
  | aidToNavigationReport r => r.nameExtension.toList.take AidToNavigationReport.maxExtension
  | _ => []

/-- The characters of a message that are written: of every text as many as its field has, or as a
message of its kind carries. -/
def writtenText (m : Message) : List Char :=
  (m.visit fun {R} _ r => (layout R).writtenText (head r)) ++ m.tailText

/-- The number of bits behind the head. -/
def tailLength (m : Message) : Nat :=
  match m with
  | addressedBinaryMessage r => r.data.length
  | binaryAcknowledge r => 32 * min maxGroups r.acks.length
  | binaryBroadcastMessage r => r.data.length
  | addressedSafetyMessage r => 6 * min AddressedSafetyMessage.maxText r.text.length
  | safetyBroadcastMessage r => 6 * min SafetyBroadcastMessage.maxText r.text.length
  | interrogation r => if r.mmsi2.isSome then 72 else if r.type12.isSome then 22 else 0
  | assignedModeCommand r => if r.destMmsiB.isSome then 52 else 4
  | dgnssBroadcast r => r.data.length
  | dataLinkManagement r =>
    let n := 30 * min maxGroups r.reservations.length
    n + fillBits 8 (40 + n : Nat)
  | aidToNavigationReport r =>
    let n := 6 * min AidToNavigationReport.maxExtension r.nameExtension.length
    n + fillBits 8 (272 + n : Nat)
  | channelManagement _ => 99
  | singleSlotBinaryMessage r => slotData r.addressed r.structured - 40 + r.data.length
  | multipleSlotBinaryMessage r => slotData r.addressed r.structured - 40 + r.data.length + 20
  | _ => 0

/-- The number of bits of a message. -/
def sentLength (m : Message) : Nat :=
  m.kind.layout.width + m.tailLength

/-- No message of its kind has the form of this one: it has no group to send, or more data than
there is room for. -/
def Misfits (m : Message) : Prop :=
  match m with
  | binaryAcknowledge r => r.acks = []
  | dataLinkManagement r => r.reservations = []
  | addressedBinaryMessage r => 1008 < 88 + r.data.length
  | binaryBroadcastMessage r => 1008 < 56 + r.data.length
  | dgnssBroadcast r => 816 < 80 + r.data.length
  | singleSlotBinaryMessage r => 168 < slotData r.addressed r.structured + r.data.length
  | multipleSlotBinaryMessage r => 1064 < slotData r.addressed r.structured + r.data.length + 20
  | _ => False

instance : (m : Message) → Decidable m.Misfits
  | binaryAcknowledge r => inferInstanceAs (Decidable (r.acks = []))
  | dataLinkManagement r => inferInstanceAs (Decidable (r.reservations = []))
  | addressedBinaryMessage _ | binaryBroadcastMessage _ | dgnssBroadcast _
  | singleSlotBinaryMessage _ | multipleSlotBinaryMessage _ => inferInstanceAs (Decidable (_ < _))
  | bareMessage _ | positionReport _ | baseStationReport _ | staticAndVoyageData _
  | sarAircraftPositionReport _ | utcDateInquiry _ | addressedSafetyMessage _
  | safetyBroadcastMessage _ | interrogation _ | assignedModeCommand _
  | standardClassBPositionReport _ | extendedClassBPositionReport _ | aidToNavigationReport _
  | channelManagement _ | groupAssignmentCommand _ | staticDataReportPartA _
  | staticDataReportPartB _ | longRangeBroadcast _ => .isFalse id

/-! ## Tails -/

theorem aidToNavigation_encodeTail {r : AidToNavigationReport} {tail : Bits}
    (h : encodeTail r = .ok tail) :
    ∃ bits, SixBit.encode (r.nameExtension.toList.take AidToNavigationReport.maxExtension) =
      .ok bits ∧ tail = bits ++ Bits.zeros (fillBits 8 (272 + bits.length : Nat)) := by
  rw [encodeTail] at h
  obtain ⟨bits, hbits, h⟩ := bind_eq_ok_iff.mp h
  exact ⟨bits, hbits, (Except.ok.inj h).symm⟩

/-- A tail is written if its characters have codes. -/
theorem tail_ok_iff (m : Message) :
    (∃ tail, m.visit encodeTail = .ok tail) ↔ ∀ c ∈ m.tailText, SixBit.Coded c := by
  cases m with
  | addressedSafetyMessage r => exact SixBit.encode_ok_iff
  | safetyBroadcastMessage r => exact SixBit.encode_ok_iff
  | aidToNavigationReport r =>
    refine Iff.trans ?_ SixBit.encode_ok_iff
    constructor
    · rintro ⟨tail, htail⟩
      obtain ⟨bits, hbits, -⟩ := aidToNavigation_encodeTail htail
      exact ⟨bits, hbits⟩
    · rintro ⟨bits, hbits⟩
      have hextension : SixBit.encode (r.nameExtension.toList.take
          AidToNavigationReport.maxExtension) = .ok bits := hbits
      refine ⟨bits ++ Bits.zeros (fillBits 8 (272 + bits.length : Nat)), ?_⟩
      simp only [visit, encodeTail, hextension]
      rfl
  | assignedModeCommand r =>
    refine iff_of_true ?_ (by simp [tailText])
    cases hstation : r.destMmsiB with
    | none => exact ⟨Bits.ofInt 4 r.spare2, by simp only [visit, encodeTail, hstation]⟩
    | some station =>
      exact ⟨Bits.ofInt 30 station ++ Bits.ofInt 12 r.offsetB ++ Bits.ofInt 10 r.incrementB,
        by simp only [visit, encodeTail, hstation]⟩
  | _ => exact iff_of_true ⟨_, rfl⟩ (by simp [tailText])

/-- The length of a tail depends on its form only. -/
theorem length_tail {m : Message} {tail : Bits} (h : m.visit encodeTail = .ok tail) :
    tail.length = m.tailLength := by
  cases m with
  | binaryAcknowledge r =>
    obtain rfl := Except.ok.inj h
    have hlen := Acknowledgement.lawful.length_flatMap (r.acks.take maxGroups)
    rw [List.length_take] at hlen
    exact hlen
  | dataLinkManagement r =>
    obtain rfl := Except.ok.inj h
    have hlen := SlotReservation.lawful.length_flatMap (r.reservations.take maxGroups)
    rw [List.length_take] at hlen
    show (DataLinkManagement.completed (r.reservations.take maxGroups)).length = _
    rw [DataLinkManagement.completed, List.length_append, Bits.length_zeros, hlen]
    rfl
  | addressedSafetyMessage r =>
    rw [SixBit.length_of_encode h, List.length_take, String.length_toList]
    rfl
  | safetyBroadcastMessage r =>
    rw [SixBit.length_of_encode h, List.length_take, String.length_toList]
    rfl
  | aidToNavigationReport r =>
    obtain ⟨bits, hbits, rfl⟩ := aidToNavigation_encodeTail h
    have hlen := SixBit.length_of_encode hbits
    rw [List.length_take, String.length_toList] at hlen
    rw [List.length_append, Bits.length_zeros, hlen]
    rfl
  | interrogation r =>
    obtain rfl := Except.ok.inj h
    rw [tailLength]
    rcases r.type12 with _ | type12 <;> rcases r.mmsi2 with _ | mmsi2 <;> simp
  | assignedModeCommand r =>
    rw [tailLength]
    cases hstation : r.destMmsiB with
    | none =>
      simp only [visit, encodeTail, hstation] at h
      obtain rfl := Except.ok.inj h
      simp
    | some station =>
      simp only [visit, encodeTail, hstation] at h
      obtain rfl := Except.ok.inj h
      simp
  | channelManagement r =>
    obtain rfl := Except.ok.inj h
    have hbits : Grid.coarse.bits = 35 := rfl
    rw [tailLength]
    cases r.addressed <;> simp [hbits]
  | singleSlotBinaryMessage r =>
    obtain rfl := Except.ok.inj h
    have hslot := SlotAddress.length_encode r.addressed r.structured r.destMmsi r.spare r.appId
    rw [List.length_append, tailLength, ← hslot, Nat.add_sub_cancel_left]
    rfl
  | multipleSlotBinaryMessage r =>
    obtain rfl := Except.ok.inj h
    have hslot := SlotAddress.length_encode r.addressed r.structured r.destMmsi r.spare r.appId
    rw [List.length_append, List.length_append, tailLength, ← hslot, Nat.add_sub_cancel_left,
      List.length_cons, Bits.length_ofInt]
    rfl
  | _ =>
    obtain rfl := Except.ok.inj h
    rfl

/-! ## Messages -/

/-- A message has a wire form if all characters that are written have codes. -/
theorem bits_ok_iff (m : Message) :
    (∃ bs, m.bits = .ok bs) ↔ ∀ c ∈ m.writtenText, SixBit.Coded c := by
  have htail := m.tail_ok_iff
  rw [writtenText, List.forall_mem_append, ← htail]
  obtain ⟨R, _, message, tailAt, r, h, rfl⟩ := m.exists_record
  rw [bits, h.visit_message, h.visit_message, h.visit_message]
  exact WireRecord.encode_ok_iff

/-- The wire form of a message has the length that the form tells. -/
theorem length_bits {m : Message} {bs : Bits} (h : m.bits = .ok bs) :
    bs.length = m.sentLength := by
  have htail := fun tail => @length_tail m tail
  obtain ⟨R, _, message, tailAt, r, hrep, rfl⟩ := m.exists_record
  rw [bits, hrep.visit_message] at h
  obtain ⟨first, tail, hfirst, hencode, rfl⟩ := WireRecord.encode_eq_ok h
  have hlen := (Layout.valuesAt_of_encode hfirst).1
  rw [List.length_append, hlen, htail tail (by rw [hrep.visit_message, hencode]), sentLength,
    RecordKind.layout, hrep.visit_kind]

theorem sentLength_singleSlotBinaryMessage (r : SingleSlotBinaryMessage) :
    (singleSlotBinaryMessage r).sentLength =
      slotData r.addressed r.structured + r.data.length := by
  have h40 := le_slotData r.addressed r.structured
  show 40 + (slotData r.addressed r.structured - 40 + r.data.length) = _
  omega

theorem sentLength_multipleSlotBinaryMessage (r : MultipleSlotBinaryMessage) :
    (multipleSlotBinaryMessage r).sentLength =
      slotData r.addressed r.structured + r.data.length + 20 := by
  have h40 := le_slotData r.addressed r.structured
  show 40 + (slotData r.addressed r.structured - 40 + r.data.length + 20) = _
  omega

/-- Reservations are completed to a length of their kind, if there is one. -/
theorem accepts_reservations {count : Nat} (h : count ≤ maxGroups) :
    RecordKind.dataLinkManagement.lengths.accepts
      (40 + (30 * count + fillBits 8 (40 + 30 * count : Nat)) : Nat) = true ↔ count ≠ 0 := by
  rw [maxGroups] at h
  rw [dataLinkManagement_lengths]
  interval_cases count
  · exact iff_of_false (by decide) (by decide)
  all_goals exact iff_of_true (by decide) (by decide)

/-- A name extension is completed to whole bytes, of which there is room for fourteen characters. -/
theorem accepts_nameExtension {count : Nat} (h : count ≤ AidToNavigationReport.maxExtension) :
    RecordKind.aidToNavigationReport.lengths.accepts
      (272 + (6 * count + fillBits 8 (272 + 6 * count : Nat)) : Nat) = true := by
  rw [AidToNavigationReport.maxExtension] at h
  have hfill := fillBits_lt (by decide : 0 < 8) (272 + 6 * count : Nat)
  have hbyte := add_fillBits_emod (by decide : 0 < 8) (272 + 6 * count)
  show (Lengths.between 272 360).accepts _ = true
  rw [Lengths.accepts_between]
  omega

/-- Only a message without a group and one with too many data have a length not of their kind. -/
theorem accepts_sentLength {m : Message} (h : m.messageType ∈ m.kind.types) :
    m.kind.lengths.accepts m.sentLength = true ↔ ¬m.Misfits := by
  cases m with
  | bareMessage r => exact absurd h List.not_mem_nil
  | addressedBinaryMessage r =>
    show (Lengths.between 88 1008).accepts (88 + r.data.length : Nat) = true ↔ ¬1008 < _
    rw [Lengths.accepts_between]
    omega
  | binaryBroadcastMessage r =>
    show (Lengths.between 56 1008).accepts (56 + r.data.length : Nat) = true ↔ ¬1008 < _
    rw [Lengths.accepts_between]
    omega
  | dgnssBroadcast r =>
    show (Lengths.between 80 816).accepts (80 + r.data.length : Nat) = true ↔ ¬816 < _
    rw [Lengths.accepts_between]
    omega
  | binaryAcknowledge r =>
    show RecordKind.binaryAcknowledge.lengths.accepts
      (40 + 32 * min maxGroups r.acks.length : Nat) = true ↔ ¬r.acks = []
    rw [binaryAcknowledge_lengths, ← List.length_eq_zero_iff, maxGroups]
    omega
  | dataLinkManagement r =>
    have hacc := accepts_reservations (min_le_left maxGroups r.reservations.length)
    refine hacc.trans (not_congr ?_)
    show min maxGroups r.reservations.length = 0 ↔ r.reservations = []
    rw [← List.length_eq_zero_iff, maxGroups]
    omega
  | addressedSafetyMessage r =>
    refine iff_of_true ?_ id
    show (Lengths.between 72 1008).accepts
      (72 + 6 * min AddressedSafetyMessage.maxText r.text.length : Nat) = true
    rw [Lengths.accepts_between, AddressedSafetyMessage.maxText]
    omega
  | safetyBroadcastMessage r =>
    refine iff_of_true ?_ id
    show (Lengths.between 40 1008).accepts
      (40 + 6 * min SafetyBroadcastMessage.maxText r.text.length : Nat) = true
    rw [Lengths.accepts_between, SafetyBroadcastMessage.maxText]
    omega
  | aidToNavigationReport r =>
    refine iff_of_true ?_ id
    exact accepts_nameExtension (min_le_left AidToNavigationReport.maxExtension
      r.nameExtension.length)
  | interrogation r =>
    refine iff_of_true ?_ id
    show RecordKind.interrogation.lengths.accepts
      (88 + if r.mmsi2.isSome then 72 else if r.type12.isSome then 22 else 0 : Nat) = true
    cases r.mmsi2.isSome <;> cases r.type12.isSome <;> decide
  | assignedModeCommand r =>
    refine iff_of_true ?_ id
    show RecordKind.assignedModeCommand.lengths.accepts
      (92 + if r.destMmsiB.isSome then 52 else 4 : Nat) = true
    cases r.destMmsiB.isSome <;> decide
  | singleSlotBinaryMessage r =>
    rw [sentLength_singleSlotBinaryMessage]
    show (Lengths.between 40 168).accepts _ = true ↔ ¬168 < _
    rw [Lengths.accepts_between]
    have h40 := le_slotData r.addressed r.structured
    omega
  | multipleSlotBinaryMessage r =>
    rw [sentLength_multipleSlotBinaryMessage]
    show (Lengths.between 60 1064).accepts _ = true ↔ ¬1064 < _
    rw [Lengths.accepts_between]
    have h40 := le_slotData r.addressed r.structured
    omega
  | _ => exact iff_of_true rfl id

/-! ## Laid out fields -/

/-- The fields that are laid out, with their values. -/
def wireFields (m : Message) : Fields :=
  m.visit fun {R} _ r => (layout R).toFields (head r)

/-- The fields that are laid out, with what they keep of their values. -/
def keptFields (m : Message) : Fields :=
  m.visit fun {R} _ r => (layout R).toFields ((layout R).kept (head r))

/-- What stands in the bits of a message is what its fields keep. -/
theorem wireFields_messageAt {m : Message} {bs : Bits} (h : m.bits = .ok bs) :
    (m.kind.messageAt bs).wireFields = m.keptFields := by
  obtain ⟨R, _, message, tailAt, r, hrep, rfl⟩ := m.exists_record
  rw [bits, hrep.visit_message] at h
  rw [RecordKind.messageAt, RecordKind.headAt, hrep.visit_kind, WireRecord.valuesAt_of_encode h,
    ← hrep.lawful.message_tailAt, wireFields, keptFields, hrep.visit_message, hrep.visit_message,
    hrep.lawful.head_tailAt, hrep.lawful.head_ofHead]

theorem head?_wireFields (m : Message) :
    m.wireFields.head? = some ("message_type", .number m.messageType) := by
  cases m <;> rfl

theorem head?_keptFields (m : Message) :
    m.keptFields.head? = some ("message_type", .number (unsigned 6 m.messageType)) := by
  cases m <;> rfl

/-- The first bits of a message tell its type. -/
theorem uintAt_bits {m : Message} {bs : Bits} (h : m.bits = .ok bs) :
    bs.uintAt 0 6 = unsigned 6 m.messageType := by
  have hfields := congrArg List.head? (wireFields_messageAt h)
  rw [head?_wireFields, head?_keptFields, RecordKind.messageType_messageAt] at hfields
  simpa using hfields

end Message

end AisStation
