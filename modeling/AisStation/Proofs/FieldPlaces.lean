import AisStation.Proofs.RoundTrip

/-!
# Every field from its place

The fields of a decoded message as a table of places. A field of the head stands behind the fields
that are declared before it. A field of a tail stands at a place counted from the start of the
message; whether it is sent is told by the length of the message or by flags at fixed places, and
one that is not sent has its default. The tables mention neither the cursor nor the record, so they
say what the standard says.
-/

namespace AisStation

open WireRecord

/-! ## Fields of the head -/

namespace Layout

/-- The place of the field with number `i`: the widths of the fields before it. -/
def offset (layout : Layout) (i : Nat) : Nat :=
  width (layout.take i)

/-- The fields with the values that stand at their places. -/
def fieldsAt (layout : Layout) (bs : Bits) : Fields :=
  layout.mapIdx fun i field =>
    (field.name, field.kind.toValue (field.kind.valueAt bs (layout.offset i)))

theorem offset_zero (layout : Layout) : layout.offset 0 = 0 := rfl

theorem offset_cons_succ (field : Field) (layout : Layout) (i : Nat) :
    offset (field :: layout) (i + 1) = field.kind.width + layout.offset i := by
  rw [offset, List.take_succ_cons, width_cons, offset]

/-- Reading goes from field to field; the place it has come to is that of the next field. -/
theorem toFields_valuesAt (layout : Layout) (bs : Bits) (start : Nat) :
    layout.toFields (layout.valuesAt bs start) = layout.mapIdx fun i field =>
      (field.name, field.kind.toValue (field.kind.valueAt bs (start + layout.offset i))) := by
  induction layout generalizing start with
  | nil => rfl
  | cons field layout ih =>
    have hrest := ih (start + field.kind.width)
    rw [valuesAt, toFields, List.mapIdx_cons, hrest, offset_zero, Nat.add_zero]
    simp only [offset_cons_succ, Nat.add_assoc]

theorem toFields_valuesAt_zero (layout : Layout) (bs : Bits) :
    layout.toFields (layout.valuesAt bs 0) = layout.fieldsAt bs := by
  rw [toFields_valuesAt, fieldsAt]
  simp only [Nat.zero_add]

/-- In a position report the speed stands at 50, the position at 61, the course at 116. -/
example : (List.range 16).map RecordKind.positionReport.layout.offset =
    [0, 6, 8, 38, 42, 50, 60, 61, 116, 128, 137, 143, 145, 148, 149, 168] := by decide

end Layout

/-! ## Fields of tails -/

namespace Bits

variable (bs : Bits)

/-- The number at a place, if it is sent. -/
def numberIf (sent : Bool) (offset width : Nat) : FieldValue :=
  .number (if sent then bs.uintAt offset width else 0)

/-- The number at a place that is missing if it is not sent. -/
def optionalIf (sent : Bool) (offset width : Nat) : FieldValue :=
  .optional (if sent then some (bs.uintAt offset width) else none)

/-- The corner at a place, if it is sent. -/
def cornerIf (sent : Bool) (offset : Nat) : FieldValue :=
  .position (if sent then Position.ofBits .coarse bs offset else {})

/-- The characters from a place on. -/
def charactersAt (count offset : Nat) : List Char :=
  SixBit.textAt count (bs.drop offset)

/-- The address and the application identifier that the flags at 38 and 39 announce, and the data
behind them up to the last `trailer` bits. -/
def slotFieldsAt (trailer : Nat) : Fields :=
  let addressed := bs.flagAt 38
  let structured := bs.flagAt 39
  let application := if addressed then 72 else 40
  let data := application + if structured then 16 else 0
  [("dest_mmsi", bs.numberIf addressed 40 30), ("spare", bs.numberIf addressed 70 2),
    ("app_id", bs.numberIf structured application 16),
    ("data", .data ⟨(bs.take (bs.length - trailer)).drop data⟩)]

end Bits

/-! ## Tables of tails -/

def BinaryAcknowledge.tailFieldsAt (bs : Bits) : Fields :=
  let acks := (List.range ((bs.length - 40) / 32)).map fun i =>
    ⟨bs.uintAt (40 + 32 * i) 30, bs.uintAt (70 + 32 * i) 2⟩
  [("acks", .acknowledgements acks)]

def DataLinkManagement.tailFieldsAt (bs : Bits) : Fields :=
  let reservations := (List.range ((bs.length - 40) / 30)).map fun i =>
    ⟨bs.uintAt (40 + 30 * i) 12, bs.uintAt (52 + 30 * i) 4, bs.uintAt (56 + 30 * i) 3,
      bs.uintAt (59 + 30 * i) 11⟩
  [("reservations", .reservations reservations)]

def Interrogation.tailFieldsAt (bs : Bits) : Fields :=
  let second := 110 ≤ bs.length
  let other := bs.length = 160
  [("spare2", bs.numberIf second 88 2), ("type1_2", bs.optionalIf second 90 6),
    ("offset1_2", bs.numberIf second 96 12), ("spare3", bs.numberIf second 108 2),
    ("mmsi2", bs.optionalIf other 110 30), ("type2_1", bs.numberIf other 140 6),
    ("offset2_1", bs.numberIf other 146 12), ("spare4", bs.numberIf other 158 2)]

def AssignedModeCommand.tailFieldsAt (bs : Bits) : Fields :=
  let one := bs.length = 96
  let two := bs.length = 144
  [("dest_mmsi_b", bs.optionalIf two 92 30), ("offset_b", bs.numberIf two 122 12),
    ("increment_b", bs.numberIf two 134 10), ("spare2", bs.numberIf one 92 4)]

def ChannelManagement.tailFieldsAt (bs : Bits) : Fields :=
  let addressed := bs.flagAt 139
  [("ne_position", bs.cornerIf (!addressed) 69), ("sw_position", bs.cornerIf (!addressed) 104),
    ("dest_mmsi_a", bs.numberIf addressed 69 30), ("spare2", bs.numberIf addressed 99 5),
    ("dest_mmsi_b", bs.numberIf addressed 104 30), ("spare3", bs.numberIf addressed 134 5),
    ("addressed", .flag addressed), ("band_a", .flag (bs.flagAt 140)),
    ("band_b", .flag (bs.flagAt 141)), ("zone_size", .number (bs.uintAt 142 3)),
    ("spare4", .number (bs.uintAt 145 23))]

def AidToNavigationReport.tailFieldsAt (bs : Bits) : Fields :=
  let extension := SixBit.stripPadding (bs.charactersAt (min ((bs.length - 272) / 6) 14) 272)
  [("name_extension", .text (String.ofList extension))]

def MultipleSlotBinaryMessage.tailFieldsAt (bs : Bits) : Fields :=
  bs.slotFieldsAt 20 ++
    [("radio_selector", .flag (bs.flagAt (bs.length - 20))),
      ("radio", .number (bs.uintAt (bs.length - 19) 19))]

/-- The fields of the tail of a message of a kind, each at its place. -/
def RecordKind.tailFieldsAt (kind : RecordKind) (bs : Bits) : Fields :=
  match kind with
  | addressedBinaryMessage => [("data", .data ⟨bs.drop 88⟩)]
  | binaryBroadcastMessage => [("data", .data ⟨bs.drop 56⟩)]
  | dgnssBroadcast => [("data", .data ⟨bs.drop 80⟩)]
  | addressedSafetyMessage =>
    [("text", .text (String.ofList (bs.charactersAt ((bs.length - 72) / 6) 72)))]
  | safetyBroadcastMessage =>
    [("text", .text (String.ofList (bs.charactersAt ((bs.length - 40) / 6) 40)))]
  | aidToNavigationReport => AidToNavigationReport.tailFieldsAt bs
  | binaryAcknowledge => BinaryAcknowledge.tailFieldsAt bs
  | dataLinkManagement => DataLinkManagement.tailFieldsAt bs
  | interrogation => Interrogation.tailFieldsAt bs
  | assignedModeCommand => AssignedModeCommand.tailFieldsAt bs
  | channelManagement => ChannelManagement.tailFieldsAt bs
  | singleSlotBinaryMessage => bs.slotFieldsAt 0
  | multipleSlotBinaryMessage => MultipleSlotBinaryMessage.tailFieldsAt bs
  | _ => []

/-! ## Tails by place -/

section Tails

variable {bs : Bits}

theorem BinaryAcknowledge.tailFields_tailAt (r : BinaryAcknowledge) (bs : Bits) :
    tailFields (r.tailAt bs) = BinaryAcknowledge.tailFieldsAt bs := by
  have hack (i : Nat) : Acknowledgement.ofBits bs (40 + 32 * i) =
      ⟨bs.uintAt (40 + 32 * i) 30, bs.uintAt (70 + 32 * i) 2⟩ := by
    rw [Acknowledgement.ofBits, Nat.add_right_comm]
  rw [BinaryAcknowledge.tailFieldsAt]
  simp only [← hack]
  rfl

theorem DataLinkManagement.tailFields_tailAt (r : DataLinkManagement) (bs : Bits) :
    tailFields (r.tailAt bs) = DataLinkManagement.tailFieldsAt bs := by
  have hreservation (i : Nat) : SlotReservation.ofBits bs (40 + 30 * i) =
      ⟨bs.uintAt (40 + 30 * i) 12, bs.uintAt (52 + 30 * i) 4, bs.uintAt (56 + 30 * i) 3,
        bs.uintAt (59 + 30 * i) 11⟩ := by
    rw [SlotReservation.ofBits, Nat.add_right_comm 40 _ 12, Nat.add_right_comm 40 _ 16,
      Nat.add_right_comm 40 _ 19]
  rw [DataLinkManagement.tailFieldsAt]
  simp only [← hreservation]
  rfl

/-- Sections that the length does not announce have the defaults that the head left. -/
theorem Interrogation.tailFields_tailAt {r : Interrogation} (hblank : ofHead (head r) = r)
    (hn : bs.length = 88 ∨ bs.length = 110 ∨ bs.length = 160) :
    tailFields (r.tailAt bs) = Interrogation.tailFieldsAt bs := by
  rw [← hblank, Interrogation.tailFieldsAt]
  simp only [Bits.numberIf, Bits.optionalIf]
  rcases hn with hn | hn | hn
  · rw [Interrogation.tailAt, if_neg (by omega), if_neg (by omega), hn]
    rfl
  · rw [Interrogation.tailAt, if_neg (by omega), if_pos (by omega), hn]
    rfl
  · rw [Interrogation.tailAt, if_pos (by omega), hn]
    rfl

theorem AssignedModeCommand.tailFields_tailAt {r : AssignedModeCommand}
    (hblank : ofHead (head r) = r) (hn : bs.length = 96 ∨ bs.length = 144) :
    tailFields (r.tailAt bs) = AssignedModeCommand.tailFieldsAt bs := by
  rw [← hblank, AssignedModeCommand.tailFieldsAt]
  simp only [Bits.numberIf, Bits.optionalIf]
  rcases hn with hn | hn
  · rw [AssignedModeCommand.tailAt, if_neg (by omega), hn]
    rfl
  · rw [AssignedModeCommand.tailAt, if_pos hn, hn]
    rfl

theorem ChannelManagement.tailFields_tailAt {r : ChannelManagement} (hblank : ofHead (head r) = r)
    (bs : Bits) : tailFields (r.tailAt bs) = ChannelManagement.tailFieldsAt bs := by
  have hflag : bs.flagAt addressedOffset = bs.flagAt 139 := rfl
  rw [← hblank, ChannelManagement.tailAt, ChannelManagement.tailFieldsAt, hflag]
  cases bs.flagAt 139 <;> rfl

/-- The flags of the head stand at 38 and 39. -/
theorem SingleSlotBinaryMessage.tailFields_tailAt (bs : Bits) :
    tailFields (SingleSlotBinaryMessage.tailAt
      (ofHead (SingleSlotBinaryMessage.layout.valuesAt bs 0)) bs) = bs.slotFieldsAt 0 := by
  rw [Bits.slotFieldsAt, Nat.sub_zero, List.take_length]
  rfl

end Tails

/-! ## Messages -/

namespace Message

/-- The fields behind those that are laid out. -/
def tailFields (m : Message) : Fields :=
  m.visit WireRecord.tailFields

theorem toFields_eq_append (m : Message) : m.toFields = m.wireFields ++ m.tailFields := by
  obtain ⟨R, _, message, tailAt, r, h, rfl⟩ := m.exists_record
  rw [toFields, wireFields, tailFields, h.visit_message, h.visit_message, h.visit_message,
    WireRecord.toFields]

/-- What a head announces is not changed by its tail. -/
theorem hasRoom_tailAt (m : Message) (bs : Bits) (n : Nat) :
    (m.tailAt bs).HasRoom n ↔ m.HasRoom n := by
  cases m <;> rfl

end Message

namespace RecordKind

variable {kind : RecordKind} {bs : Bits}

/-- The fields of the head of a message by place are those of the table. -/
theorem wireFields_messageAt (kind : RecordKind) (bs : Bits) :
    (kind.messageAt bs).wireFields = kind.layout.fieldsAt bs := by
  obtain ⟨R, _, message, tailAt, h⟩ := kind.exists_record
  rw [messageAt, headAt, h.visit_kind, ← h.lawful.message_tailAt, Message.wireFields,
    h.visit_message, h.lawful.head_tailAt, h.lawful.head_ofHead, layout, h.visit_kind,
    Layout.toFields_valuesAt_zero]

/-- The fields of the tail of a message by place are those of the table. -/
theorem tailFields_messageAt (h : kind.lengths.accepts bs.length = true) :
    (kind.messageAt bs).tailFields = kind.tailFieldsAt bs := by
  cases kind with
  | binaryAcknowledge => exact BinaryAcknowledge.tailFields_tailAt _ bs
  | dataLinkManagement => exact DataLinkManagement.tailFields_tailAt _ bs
  | interrogation => exact Interrogation.tailFields_tailAt rfl (interrogation_lengths.mp h)
  | assignedModeCommand =>
    exact AssignedModeCommand.tailFields_tailAt rfl (assignedModeCommand_lengths.mp h)
  | channelManagement => exact ChannelManagement.tailFields_tailAt rfl bs
  | singleSlotBinaryMessage => exact SingleSlotBinaryMessage.tailFields_tailAt bs
  | _ => rfl

end RecordKind

/-- The fields of a decoded message are those that stand at their places in its declared bits. -/
theorem toFields_of_decode {text : String} {declared : Option Int} {m : Message}
    (h : decode text declared = .ok m) :
    (∀ c ∈ text.toList, c ∈ Armor.alphabet) ∧
    ∃ n : Nat, declared.getD (6 * text.length : Nat) = n ∧ n ≤ 6 * text.length ∧
      m.kind.lengths.accepts n = true ∧ m.HasRoom n ∧
      m.toFields = m.kind.layout.fieldsAt ((Armor.bits text).take n) ++
        m.kind.tailFieldsAt ((Armor.bits text).take n) := by
  obtain ⟨bits, n, hbits, hn, hle, hacc, hroom, hm, -⟩ := exists_of_decode h
  have hroom' : m.HasRoom n := by
    rw [hm]
    exact (Message.hasRoom_tailAt _ _ n).mpr hroom
  have halphabet := Armor.mem_alphabet_of_decode hbits
  have hlength := Armor.length_of_decode hbits
  rw [Armor.decode_eq_bits halphabet] at hbits
  obtain rfl := Except.ok.inj hbits
  rw [hlength] at hn hle
  have htake : ((Armor.bits text).take n).length = n := by
    rw [List.length_take]
    omega
  have haccepts : m.kind.lengths.accepts ((Armor.bits text).take n).length = true := by
    rw [htake]
    exact hacc
  refine ⟨halphabet, n, hn, hle, hacc, hroom', ?_⟩
  calc m.toFields
      = (m.kind.messageAt ((Armor.bits text).take n)).toFields := congrArg Message.toFields hm
    _ = _ := Message.toFields_eq_append _
    _ = _ := by rw [RecordKind.wireFields_messageAt, RecordKind.tailFields_messageAt haccepts]

/-- Two stations are told the channels of an area: the flag at 139 is set. -/
theorem toFields_channelManagement_of_decode :
    let m : Message := .channelManagement {
      repeatIndicator := 1, mmsi := 338870539, channelA := 2467, channelB := 1975, txrx := 13
      power := true, destMmsiA := 567857061, spare2 := 5, destMmsiB := 515397772, spare3 := 17
      addressed := true, bandA := false, bandB := false, zoneSize := 7, spare4 := 7730037 }
    let bs := (Armor.bits "FE3;12jJ=sOL>iWlaGcQHS8kuO=m").take 168
    decode "FE3;12jJ=sOL>iWlaGcQHS8kuO=m" (some 168) = .ok m ∧
      m.toFields = RecordKind.channelManagement.layout.fieldsAt bs ++
        RecordKind.channelManagement.tailFieldsAt bs := by
  intro m bs
  have h : decode "FE3;12jJ=sOL>iWlaGcQHS8kuO=m" (some 168) = .ok m := by decide +kernel
  obtain ⟨-, n, hn, -, -, -, hfields⟩ := toFields_of_decode h
  obtain rfl : 168 = n := Int.ofNat.inj hn
  exact ⟨h, hfields⟩

end AisStation
