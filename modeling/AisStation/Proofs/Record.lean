import AisStation.Proofs.Lawful.Binary
import AisStation.Proofs.Lawful.Fixed
import AisStation.Proofs.Lawful.Groups
import AisStation.Proofs.Lawful.Sections
import AisStation.Proofs.Lawful.Texts

/-!
# Messages of all kinds

Every kind of messages has a lawful type of records. So reading a message of any kind gives the
message by place, which is canonical and is sent again with the bits it was read from, and a
canonical message is the message by place of its own bits.
-/

namespace AisStation

open WireRecord

/-- The records of a kind are those of the type `R`, and they obey the laws. -/
structure RecordKind.Represents (kind : RecordKind) (R : Type) [WireRecord R]
    (message : R → Message) (tailAt : R → Bits → R) : Prop where
  lawful : LawfulRecord R kind.lengths message tailAt
  kind_message : ∀ r, (message r).kind = kind
  visit_message : ∀ {α : Type} (r : R) (f : {R : Type} → [WireRecord R] → R → α),
    (message r).visit f = f r
  visit_kind : ∀ {α : Type} (f : (R : Type) → [WireRecord R] → (R → Message) → α),
    kind.visit f = f R message

/-- Every message is a record of a lawful type. -/
theorem Message.exists_record (m : Message) :
    ∃ (R : Type) (_ : WireRecord R) (message : R → Message) (tailAt : R → Bits → R) (r : R),
      m.kind.Represents R message tailAt ∧ message r = m := by
  cases m with
  | bareMessage r =>
    exact ⟨_, _, _, _, r, ⟨bareMessage_lawful, fun _ => rfl, fun _ _ => rfl, fun _ => rfl⟩, rfl⟩
  | positionReport r =>
    exact ⟨_, _, _, _, r, ⟨positionReport_lawful, fun _ => rfl, fun _ _ => rfl, fun _ => rfl⟩, rfl⟩
  | baseStationReport r =>
    exact ⟨_, _, _, _, r,
      ⟨baseStationReport_lawful, fun _ => rfl, fun _ _ => rfl, fun _ => rfl⟩, rfl⟩
  | staticAndVoyageData r =>
    exact ⟨_, _, _, _, r,
      ⟨staticAndVoyageData_lawful, fun _ => rfl, fun _ _ => rfl, fun _ => rfl⟩, rfl⟩
  | addressedBinaryMessage r =>
    exact ⟨_, _, _, _, r,
      ⟨addressedBinaryMessage_lawful, fun _ => rfl, fun _ _ => rfl, fun _ => rfl⟩, rfl⟩
  | binaryAcknowledge r =>
    exact ⟨_, _, _, _, r,
      ⟨binaryAcknowledge_lawful, fun _ => rfl, fun _ _ => rfl, fun _ => rfl⟩, rfl⟩
  | binaryBroadcastMessage r =>
    exact ⟨_, _, _, _, r,
      ⟨binaryBroadcastMessage_lawful, fun _ => rfl, fun _ _ => rfl, fun _ => rfl⟩, rfl⟩
  | sarAircraftPositionReport r =>
    exact ⟨_, _, _, _, r,
      ⟨sarAircraftPositionReport_lawful, fun _ => rfl, fun _ _ => rfl, fun _ => rfl⟩, rfl⟩
  | utcDateInquiry r =>
    exact ⟨_, _, _, _, r, ⟨utcDateInquiry_lawful, fun _ => rfl, fun _ _ => rfl, fun _ => rfl⟩, rfl⟩
  | addressedSafetyMessage r =>
    exact ⟨_, _, _, _, r,
      ⟨addressedSafetyMessage_lawful, fun _ => rfl, fun _ _ => rfl, fun _ => rfl⟩, rfl⟩
  | safetyBroadcastMessage r =>
    exact ⟨_, _, _, _, r,
      ⟨safetyBroadcastMessage_lawful, fun _ => rfl, fun _ _ => rfl, fun _ => rfl⟩, rfl⟩
  | interrogation r =>
    exact ⟨_, _, _, _, r, ⟨interrogation_lawful, fun _ => rfl, fun _ _ => rfl, fun _ => rfl⟩, rfl⟩
  | assignedModeCommand r =>
    exact ⟨_, _, _, _, r,
      ⟨assignedModeCommand_lawful, fun _ => rfl, fun _ _ => rfl, fun _ => rfl⟩, rfl⟩
  | dgnssBroadcast r =>
    exact ⟨_, _, _, _, r, ⟨dgnssBroadcast_lawful, fun _ => rfl, fun _ _ => rfl, fun _ => rfl⟩, rfl⟩
  | standardClassBPositionReport r =>
    exact ⟨_, _, _, _, r,
      ⟨standardClassBPositionReport_lawful, fun _ => rfl, fun _ _ => rfl, fun _ => rfl⟩, rfl⟩
  | extendedClassBPositionReport r =>
    exact ⟨_, _, _, _, r,
      ⟨extendedClassBPositionReport_lawful, fun _ => rfl, fun _ _ => rfl, fun _ => rfl⟩, rfl⟩
  | dataLinkManagement r =>
    exact ⟨_, _, _, _, r,
      ⟨dataLinkManagement_lawful, fun _ => rfl, fun _ _ => rfl, fun _ => rfl⟩, rfl⟩
  | aidToNavigationReport r =>
    exact ⟨_, _, _, _, r,
      ⟨aidToNavigationReport_lawful, fun _ => rfl, fun _ _ => rfl, fun _ => rfl⟩, rfl⟩
  | channelManagement r =>
    exact ⟨_, _, _, _, r,
      ⟨channelManagement_lawful, fun _ => rfl, fun _ _ => rfl, fun _ => rfl⟩, rfl⟩
  | groupAssignmentCommand r =>
    exact ⟨_, _, _, _, r,
      ⟨groupAssignmentCommand_lawful, fun _ => rfl, fun _ _ => rfl, fun _ => rfl⟩, rfl⟩
  | staticDataReportPartA r =>
    exact ⟨_, _, _, _, r,
      ⟨staticDataReportPartA_lawful, fun _ => rfl, fun _ _ => rfl, fun _ => rfl⟩, rfl⟩
  | staticDataReportPartB r =>
    exact ⟨_, _, _, _, r,
      ⟨staticDataReportPartB_lawful, fun _ => rfl, fun _ _ => rfl, fun _ => rfl⟩, rfl⟩
  | singleSlotBinaryMessage r =>
    exact ⟨_, _, _, _, r,
      ⟨singleSlotBinaryMessage_lawful, fun _ => rfl, fun _ _ => rfl, fun _ => rfl⟩, rfl⟩
  | multipleSlotBinaryMessage r =>
    exact ⟨_, _, _, _, r,
      ⟨multipleSlotBinaryMessage_lawful, fun _ => rfl, fun _ _ => rfl, fun _ => rfl⟩, rfl⟩
  | longRangeBroadcast r =>
    exact ⟨_, _, _, _, r,
      ⟨longRangeBroadcast_lawful, fun _ => rfl, fun _ _ => rfl, fun _ => rfl⟩, rfl⟩

/-- Every kind has a lawful type of records. -/
theorem RecordKind.exists_record (kind : RecordKind) :
    ∃ (R : Type) (_ : WireRecord R) (message : R → Message) (tailAt : R → Bits → R),
      kind.Represents R message tailAt := by
  obtain ⟨R, inst, message, tailAt, -, h, -⟩ := kind.blank.exists_record
  have hkind : kind.blank.kind = kind := by cases kind <;> rfl
  rw [hkind] at h
  exact ⟨R, inst, message, tailAt, h⟩

namespace RecordKind

variable {kind : RecordKind}

/-- With a length of its kind and room for all that is announced, a message is read by place. -/
theorem read_ok {s : Reader} (h0 : s.position = 0) (hacc : kind.lengths.accepts s.length = true)
    (hroom : (kind.headAt s.rest).HasRoom s.length) :
    ∃ s', kind.read s = .ok (kind.messageAt s.rest) s' := by
  obtain ⟨R, _, message, tailAt, h⟩ := kind.exists_record
  rw [headAt, h.visit_kind] at hroom
  rw [RecordKind.read, h.visit_kind, messageAt, headAt, h.visit_kind]
  exact h.lawful.read_ok h0 hacc hroom

/-- Without room a message is not read. -/
theorem read_error {s : Reader} (h0 : s.position = 0)
    (hacc : kind.lengths.accepts s.length = true)
    (hroom : ¬(kind.headAt s.rest).HasRoom s.length) :
    Read.Fails kind.read s := by
  obtain ⟨R, _, message, tailAt, h⟩ := kind.exists_record
  rw [headAt, h.visit_kind] at hroom
  rw [RecordKind.read, h.visit_kind]
  exact h.lawful.read_error h0 hacc hroom

/-- A message of a kind is of that kind. -/
theorem kind_messageAt (kind : RecordKind) (bs : Bits) : (kind.messageAt bs).kind = kind := by
  obtain ⟨R, _, message, tailAt, h⟩ := kind.exists_record
  rw [messageAt, headAt, h.visit_kind, ← h.lawful.message_tailAt, h.kind_message]

/-- A message carries the type that its first bits tell. -/
theorem messageType_messageAt (kind : RecordKind) (bs : Bits) :
    (kind.messageAt bs).messageType = bs.uintAt 0 6 := by
  obtain ⟨R, _, message, tailAt, h⟩ := kind.exists_record
  rw [messageAt, headAt, h.visit_kind, h.lawful.type_at]

/-- A message that was read is sent again with the bits it was read from, as far as it keeps
them. -/
theorem bits_messageAt {bs : Bits} (hacc : kind.lengths.accepts bs.length = true)
    (hroom : (kind.headAt bs).HasRoom bs.length) :
    (kind.messageAt bs).bits = .ok ((kind.messageAt bs).resent bs) := by
  obtain ⟨R, _, message, tailAt, h⟩ := kind.exists_record
  rw [headAt, h.visit_kind] at hroom
  rw [messageAt, headAt, h.visit_kind]
  obtain ⟨r, hr, hbits⟩ := h.lawful.encode_at hacc hroom
  rw [← hr, Message.bits, h.visit_message, hbits]

/-- The fields of a message that was read fit. -/
theorem fits_messageAt {bs : Bits} (hacc : kind.lengths.accepts bs.length = true)
    (hroom : (kind.headAt bs).HasRoom bs.length) :
    (kind.messageAt bs).FitsHead ∧ (kind.messageAt bs).FitsTail := by
  obtain ⟨R, _, message, tailAt, h⟩ := kind.exists_record
  rw [headAt, h.visit_kind] at hroom
  rw [messageAt, headAt, h.visit_kind]
  obtain ⟨r, hr, hhead, htail⟩ := h.lawful.fits_at hacc hroom
  rw [← hr, Message.FitsHead, h.visit_message]
  exact ⟨hhead, htail⟩

end RecordKind

/-- A message whose fields fit has bits of a length of its kind, from which it is read back. -/
theorem Message.bits_of_fits {m : Message} (hhead : m.FitsHead) (htail : m.FitsTail) :
    ∃ bs, m.bits = .ok bs ∧ m.kind.lengths.accepts bs.length = true ∧
      (m.kind.headAt bs).HasRoom bs.length ∧ m.kind.messageAt bs = m := by
  obtain ⟨R, _, message, tailAt, r, h, hr⟩ := m.exists_record
  rw [← hr] at hhead htail
  rw [FitsHead, h.visit_message] at hhead
  obtain ⟨bs, hbits, hacc, hroom, hback⟩ := h.lawful.encode_of_fits hhead htail
  refine ⟨bs, ?_, hacc, ?_, ?_⟩
  · rw [← hr, Message.bits, h.visit_message, hbits]
  · rw [RecordKind.headAt, h.visit_kind]
    exact hroom
  · rw [RecordKind.messageAt, RecordKind.headAt, h.visit_kind, hback, hr]

end AisStation
