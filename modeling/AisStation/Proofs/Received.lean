import AisStation.Proofs.Normal
import AisStation.Proofs.Reception

/-!
# The normal form is received

A receiver reads what was sent and no more. So of a message that was encoded it gets the normal
form, section by section and group by group. The one exception is the extension of a name, where
filling at the end cannot be told from characters of the name and is dropped.
-/

namespace AisStation

open WireRecord

theorem SixBit.fitsRest_sentText {count : Nat} {s : String}
    (h : ∀ c ∈ s.toList.take count, Coded c) : FitsRest count (sentText count s) := by
  constructor
  · rw [sentText, String.length_ofList, List.length_map]
    exact List.length_take_le count s.toList
  · intro c hc
    rw [sentText, String.toList_ofList] at hc
    exact forall_mem_map_upper h c hc

/-- One group at least is sent, and not more than there is room for. -/
theorem fitsGroups_sentGroups {α : Type} {Fits : α → Prop} {normal : α → α} {groups : List α}
    (hfits : ∀ group, Fits (normal group)) (hne : groups ≠ []) :
    FitsGroups Fits (sentGroups normal groups) := by
  have hpos := List.length_pos_of_ne_nil hne
  refine ⟨?_, ?_, fun group hgroup => ?_⟩
  · rw [sentGroups, List.length_map, List.length_take, maxGroups]
    omega
  · rw [sentGroups, List.length_map]
    exact List.length_take_le maxGroups groups
  · obtain ⟨sent, -, rfl⟩ := List.mem_map.mp hgroup
    exact hfits sent

theorem Acknowledgement.fits_normal (ack : Acknowledgement) : ack.normal.Fits :=
  ⟨Bits.fitsUnsigned_unsigned 30 ack.mmsi, Bits.fitsUnsigned_unsigned 2 ack.sequence⟩

theorem SlotReservation.fits_normal (slot : SlotReservation) : slot.normal.Fits :=
  ⟨Bits.fitsUnsigned_unsigned 12 slot.offset, Bits.fitsUnsigned_unsigned 4 slot.slots,
    Bits.fitsUnsigned_unsigned 3 slot.timeout, Bits.fitsUnsigned_unsigned 11 slot.increment⟩

theorem Position.fits_kept {grid : Grid} (p : Position grid) : p.kept.Fits :=
  ⟨Bits.fitsUnsigned_unsigned _ p.longitude, Bits.fitsUnsigned_unsigned _ p.latitude⟩

theorem Interrogation.fitsTail_normal (r : Interrogation) : r.normal.FitsTail := by
  obtain ⟨header, spare, mmsi1, type11, offset11, spare2, type12, offset12, spare3, mmsi2, type21,
    offset21, spare4⟩ := r
  have hfits := Bits.fitsUnsigned_unsigned
  cases mmsi2 with
  | some mmsi2 =>
    refine ⟨⟨hfits 2 spare2, hfits 6 _, hfits 12 offset12, hfits 2 spare3⟩, ?_⟩
    exact ⟨hfits 30 mmsi2, hfits 6 type21, hfits 12 offset21, hfits 2 spare4⟩
  | none =>
    cases type12 with
    | some type12 =>
      refine ⟨⟨hfits 2 spare2, hfits 6 type12, hfits 12 offset12, hfits 2 spare3⟩, ?_⟩
      exact ⟨rfl, rfl, rfl⟩
    | none => exact ⟨⟨rfl, rfl, rfl⟩, ⟨rfl, rfl, rfl⟩⟩

theorem AssignedModeCommand.fitsTail_normal (r : AssignedModeCommand) : r.normal.FitsTail := by
  obtain ⟨header, spare, destMmsiA, offsetA, incrementA, destMmsiB, offsetB, incrementB, spare2⟩ :=
    r
  have hfits := Bits.fitsUnsigned_unsigned
  cases destMmsiB with
  | some destMmsiB => exact ⟨hfits 30 destMmsiB, hfits 12 offsetB, hfits 10 incrementB, rfl⟩
  | none => exact ⟨rfl, rfl, hfits 4 spare2⟩

theorem ChannelManagement.fitsTail_normal (r : ChannelManagement) : r.normal.FitsTail := by
  have hfits := Bits.fitsUnsigned_unsigned
  refine ⟨?_, hfits 3 r.zoneSize, hfits 23 r.spare4⟩
  have hflag : r.normal.addressed = r.addressed := rfl
  rw [hflag]
  cases haddressed : r.addressed with
  | true =>
    simp only [normal, haddressed, if_true]
    exact ⟨hfits 30 r.destMmsiA, hfits 5 r.spare2, hfits 30 r.destMmsiB, hfits 5 r.spare3, rfl, rfl⟩
  | false =>
    simp only [normal, haddressed]
    exact ⟨r.nePosition.fits_kept, r.swPosition.fits_kept, rfl, rfl, rfl, rfl⟩

theorem fitsSlot_normal (addressed structured : Bool) (destMmsi spare appId : Int) :
    FitsSlot addressed structured (if addressed then unsigned 30 destMmsi else 0)
      (if addressed then unsigned 2 spare else 0)
      (if structured then unsigned 16 appId else 0) := by
  have hfits := Bits.fitsUnsigned_unsigned
  refine ⟨?_, ?_, ?_⟩
  · cases addressed with
    | true => exact hfits 30 destMmsi
    | false => rfl
  · cases addressed with
    | true => exact hfits 2 spare
    | false => rfl
  · cases structured with
    | true => exact hfits 16 appId
    | false => rfl

namespace Message

variable {m : Message} {bs : Bits}

/-- The normal form of a message that is sent fits its wire form. -/
theorem fitsTail_normal (h : m.bits = .ok bs) (hfit : ¬m.Misfits) (hbare : m.kind ≠ .bareMessage)
    (haid : m.kind ≠ .aidToNavigationReport) : m.normal.FitsTail := by
  have hcoded : ∀ c ∈ m.tailText, SixBit.Coded c := by
    have hall := m.bits_ok_iff.mp ⟨bs, h⟩
    rw [writtenText, List.forall_mem_append] at hall
    exact hall.2
  cases m with
  | bareMessage r => exact absurd rfl hbare
  | aidToNavigationReport r => exact absurd rfl haid
  | addressedBinaryMessage r => exact not_lt.mp hfit
  | binaryBroadcastMessage r => exact not_lt.mp hfit
  | dgnssBroadcast r => exact not_lt.mp hfit
  | binaryAcknowledge r => exact fitsGroups_sentGroups Acknowledgement.fits_normal hfit
  | dataLinkManagement r => exact fitsGroups_sentGroups SlotReservation.fits_normal hfit
  | addressedSafetyMessage r => exact SixBit.fitsRest_sentText hcoded
  | safetyBroadcastMessage r => exact SixBit.fitsRest_sentText hcoded
  | interrogation r => exact r.fitsTail_normal
  | assignedModeCommand r => exact r.fitsTail_normal
  | channelManagement r => exact r.fitsTail_normal
  | singleSlotBinaryMessage r =>
    exact ⟨fitsSlot_normal r.addressed r.structured r.destMmsi r.spare r.appId, not_lt.mp hfit⟩
  | multipleSlotBinaryMessage r =>
    refine ⟨fitsSlot_normal r.addressed r.structured r.destMmsi r.spare r.appId, ?_,
      Bits.fitsUnsigned_unsigned 19 r.radio⟩
    have hroom := not_lt.mp hfit
    show slotData r.addressed r.structured + 20 + r.data.length ≤ 1064
    omega
  | _ => trivial

/-- What stands in the bits of a message is its normal form. -/
theorem messageAt_bits (h : m.bits = .ok bs) (hfit : ¬m.Misfits) (hbare : m.kind ≠ .bareMessage)
    (haid : m.kind ≠ .aidToNavigationReport) : m.kind.messageAt bs = m.normal := by
  obtain ⟨hnormal, hhead⟩ := bits_normal h
  have htail := fitsTail_normal h hfit hbare haid
  obtain ⟨bs', hbits', -, -, hback⟩ := bits_of_fits hhead htail
  rw [hnormal] at hbits'
  obtain rfl := Except.ok.inj hbits'
  rwa [kind_normal] at hback

end Message

end AisStation
