import AisStation.Proofs.Lawful

/-!
# Records without a tail

All these records are laid out by their heads alone, and their messages have the length of the
layout. So their laws are those of layouts.
-/

namespace AisStation

open WireRecord

/-- What a record without a tail is: its head is the whole record, nothing is read or written behind
it, and a message of it announces nothing and is sent again as it was read. -/
structure IsFixed (R : Type) [WireRecord R] (message : R → Message) : Prop where
  wellFormed : (layout R).all fun field => decide (field.kind ≠ .signed 0)
  head_ofHead : ∀ values, head (ofHead values : R) = values
  ofHead_head : ∀ r : R, ofHead (head r) = r
  type_ofHead : ∀ bs : Bits, (message (ofHead ((layout R).valuesAt bs 0))).messageType =
    bs.uintAt 0 6
  readTail_eq : ∀ r : R, readTail r = pure r
  encodeTail_eq : ∀ r : R, encodeTail r = .ok []
  tailAt_eq : ∀ r bs, (message r).tailAt bs = message r
  hasRoom : ∀ r n, (message r).HasRoom n
  fitsTail : ∀ r, (message r).FitsTail
  resent_eq : ∀ r bs, (message r).resent bs = bs

/-- A record without a tail is lawful if its messages have the length of its layout. -/
theorem IsFixed.lawful {R : Type} [WireRecord R] {message : R → Message} (h : IsFixed R message) :
    LawfulRecord R (.exactly [(layout R).width]) message fun r _ => r where
  message_tailAt r bs := (h.tailAt_eq r bs).symm
  wellFormed := Layout.wellFormed_of_all h.wellFormed
  head_ofHead := h.head_ofHead
  head_tailAt r bs := rfl
  type_ofHead := h.type_ofHead
  type_tailAt r bs := rfl
  width_le n hacc := by
    have : n = (layout R).width := by simpa [Lengths.accepts] using hacc
    omega
  readTail_ok r s h0 hacc hr := ⟨s.skip (layout R).width, by rw [h.readTail_eq]; rfl⟩
  readTail_error r s h0 hacc hr := absurd (h.hasRoom r _) hr
  encodeTail_tailAt r bs _ hacc hr := by
    have : bs.length = (layout R).width := by simpa [Lengths.accepts] using hacc
    refine ⟨[], h.encodeTail_eq r, ?_⟩
    rw [h.resent_eq, List.append_nil, List.take_of_length_le (by omega)]
  fitsTail_tailAt r bs _ hacc hr := h.fitsTail r
  encodeTail_of_fits r hf := by
    refine ⟨[], h.encodeTail_eq r, ?_, h.hasRoom _ _, fun first hfirst => h.ofHead_head r⟩
    simp [Lengths.accepts]

/-- Bare messages have no length that is allowed, so nothing is asked of them. -/
theorem bareMessage_lawful :
    LawfulRecord BareMessage RecordKind.bareMessage.lengths .bareMessage fun r _ => r where
  message_tailAt r bs := rfl
  wellFormed := Layout.wellFormed_of_all rfl
  head_ofHead values := rfl
  head_tailAt r bs := rfl
  type_ofHead bs := rfl
  type_tailAt r bs := rfl
  width_le n hacc := absurd hacc (by simp [RecordKind.lengths, Lengths.accepts])
  readTail_ok r s h0 hacc := absurd hacc (by simp [RecordKind.lengths, Lengths.accepts])
  readTail_error r s h0 hacc := absurd hacc (by simp [RecordKind.lengths, Lengths.accepts])
  encodeTail_tailAt r bs _ hacc := absurd hacc (by simp [RecordKind.lengths, Lengths.accepts])
  fitsTail_tailAt r bs _ hacc := absurd hacc (by simp [RecordKind.lengths, Lengths.accepts])
  encodeTail_of_fits r hf := absurd hf (by simp [Message.FitsTail])

theorem positionReport_lawful :
    LawfulRecord PositionReport RecordKind.positionReport.lengths .positionReport fun r _ => r :=
  IsFixed.lawful (by constructor <;> intros <;> first | rfl | trivial)

theorem baseStationReport_lawful :
    LawfulRecord BaseStationReport RecordKind.baseStationReport.lengths .baseStationReport
      fun r _ => r :=
  IsFixed.lawful (by constructor <;> intros <;> first | rfl | trivial)

theorem staticAndVoyageData_lawful :
    LawfulRecord StaticAndVoyageData RecordKind.staticAndVoyageData.lengths .staticAndVoyageData
      fun r _ => r :=
  IsFixed.lawful (by constructor <;> intros <;> first | rfl | trivial)

theorem sarAircraftPositionReport_lawful :
    LawfulRecord SarAircraftPositionReport RecordKind.sarAircraftPositionReport.lengths
      .sarAircraftPositionReport fun r _ => r :=
  IsFixed.lawful (by constructor <;> intros <;> first | rfl | trivial)

theorem utcDateInquiry_lawful :
    LawfulRecord UtcDateInquiry RecordKind.utcDateInquiry.lengths .utcDateInquiry fun r _ => r :=
  IsFixed.lawful (by constructor <;> intros <;> first | rfl | trivial)

theorem standardClassBPositionReport_lawful :
    LawfulRecord StandardClassBPositionReport RecordKind.standardClassBPositionReport.lengths
      .standardClassBPositionReport fun r _ => r :=
  IsFixed.lawful (by constructor <;> intros <;> first | rfl | trivial)

theorem extendedClassBPositionReport_lawful :
    LawfulRecord ExtendedClassBPositionReport RecordKind.extendedClassBPositionReport.lengths
      .extendedClassBPositionReport fun r _ => r :=
  IsFixed.lawful (by constructor <;> intros <;> first | rfl | trivial)

theorem groupAssignmentCommand_lawful :
    LawfulRecord GroupAssignmentCommand RecordKind.groupAssignmentCommand.lengths
      .groupAssignmentCommand fun r _ => r :=
  IsFixed.lawful (by constructor <;> intros <;> first | rfl | trivial)

theorem staticDataReportPartA_lawful :
    LawfulRecord StaticDataReportPartA RecordKind.staticDataReportPartA.lengths
      .staticDataReportPartA fun r _ => r :=
  IsFixed.lawful (by constructor <;> intros <;> first | rfl | trivial)

theorem staticDataReportPartB_lawful :
    LawfulRecord StaticDataReportPartB RecordKind.staticDataReportPartB.lengths
      .staticDataReportPartB fun r _ => r :=
  IsFixed.lawful (by constructor <;> intros <;> first | rfl | trivial)

theorem longRangeBroadcast_lawful :
    LawfulRecord LongRangeBroadcast RecordKind.longRangeBroadcast.lengths .longRangeBroadcast
      fun r _ => r :=
  IsFixed.lawful (by constructor <;> intros <;> first | rfl | trivial)

end AisStation
