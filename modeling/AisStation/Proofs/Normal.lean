import AisStation.Proofs.Encoding

/-!
# The normal form of a message

A message may hold more than its wire form does: numbers beyond the width of their fields, texts
that are too long or in lower case, a fifth group, fields of a section that is not sent. Its normal
form holds what is sent and no more. Sending the normal form gives the very bits of the message, so
nothing else of a message has an influence on any bit.
-/

namespace AisStation

open WireRecord

/-! ## Fields -/

theorem Bits.ofInt_unsigned (w : Nat) (v : Int) : ofInt w (unsigned w v) = ofInt w v :=
  ofInt_congr (unsigned_unsigned w v)

theorem Bits.ofInt_signed (w : Nat) (v : Int) : ofInt w (signed w v) = ofInt w v :=
  ofInt_congr (unsigned_signed w v)

theorem Bits.fitsUnsigned_unsigned (w : Nat) (v : Int) : FitsUnsigned w (unsigned w v) := by
  have hpos : (0 : Int) < 2 ^ w := by positivity
  exact ⟨Int.emod_nonneg v hpos.ne', Int.emod_lt_of_pos v hpos⟩

theorem Position.encode_kept {grid : Grid} (p : Position grid) : p.kept.encode = p.encode := by
  rw [Position.encode, kept, Bits.ofInt_unsigned, Bits.ofInt_unsigned, Position.encode]

namespace SixBit

/-- A text in upper case has the bits of the text. -/
theorem encode_map_upper {cs : List Char} {bits : Bits} (h : encode cs = .ok bits) :
    encode (cs.map upper) = .ok bits := by
  rw [encode_of_forall_mem (forall_mem_map_upper (coded_of_encode h)), encode_eq_ok h]

/-- What was dropped as filling is filled in again. -/
theorem fit_stripPadding_map_upper (n : Nat) (cs : List Char) :
    fit n (stripPadding ((cs.take n).map upper)) = (fit n cs).map upper := by
  have hstrip : stripPadding ((fit n cs).map upper) = stripPadding ((cs.take n).map upper) := by
    rw [map_upper_fit, stripPadding_append_replicate]
  have hfill := fit_stripPadding ((fit n cs).map upper)
  rwa [List.length_map, length_fit, hstrip] at hfill

/-- The text that is sent of a text for which there is room for `count` characters. -/
def sentText (count : Nat) (s : String) : String :=
  String.ofList ((s.toList.take count).map upper)

theorem take_toList_sentText (count : Nat) (s : String) :
    (sentText count s).toList.take count = (s.toList.take count).map upper := by
  rw [sentText, String.toList_ofList]
  apply List.take_of_length_le
  rw [List.length_map]
  exact List.length_take_le count s.toList

end SixBit

/-- A value has the bits of what its field keeps of it. -/
theorem FieldKind.encode_kept {kind : FieldKind} {value : kind.Carrier} {bits : Bits}
    (h : kind.encode value = .ok bits) : kind.encode (kind.kept value) = .ok bits := by
  cases kind with
  | unsigned width | spare width =>
    rw [← h]
    exact congrArg Except.ok (Bits.ofInt_unsigned width value)
  | signed width =>
    rw [← h]
    exact congrArg Except.ok (Bits.ofInt_signed width value)
  | flag => exact h
  | text chars =>
    rw [kept, FieldKind.encode, String.toList_ofList, SixBit.fit_stripPadding_map_upper]
    exact SixBit.encode_map_upper h
  | position grid =>
    rw [← h]
    exact congrArg Except.ok value.encode_kept

/-- What a field keeps of a value that it was given fits it. -/
theorem FieldKind.fits_kept {kind : FieldKind} (hw : kind.WellFormed) {value : kind.Carrier}
    {bits : Bits} (h : kind.encode value = .ok bits) : kind.Fits (kind.kept value) := by
  cases kind with
  | unsigned width | spare width => exact Bits.fitsUnsigned_unsigned width value
  | signed width =>
    obtain ⟨w, rfl⟩ : ∃ w, width = w + 1 := ⟨width - 1, (Nat.sub_add_cancel hw).symm⟩
    exact Bits.signed_mem_range w value
  | flag => trivial
  | text chars =>
    have hcoded := SixBit.forall_coded_fit.mp (SixBit.coded_of_encode h)
    refine ⟨?_, fun c hc => ?_, ?_⟩
    · rw [kept, String.length_ofList]
      refine (SixBit.length_stripPadding_le _).trans ?_
      rw [List.length_map]
      exact List.length_take_le chars value.toList
    · rw [kept, String.toList_ofList] at hc
      exact SixBit.forall_mem_map_upper hcoded c (SixBit.mem_of_mem_stripPadding hc)
    · rw [kept, String.toList_ofList]
      exact SixBit.getLast?_stripPadding _
  | position grid =>
    exact ⟨Bits.fitsUnsigned_unsigned _ value.longitude, Bits.fitsUnsigned_unsigned _ value.latitude⟩

/-- Values have the bits of what the fields of their layout keep of them. -/
theorem Layout.encode_kept {layout : Layout} {values : layout.Values} {bits : Bits}
    (h : layout.encode values = .ok bits) : layout.encode (layout.kept values) = .ok bits := by
  induction layout generalizing bits with
  | nil => exact h
  | cons field layout ih =>
    obtain ⟨value, values⟩ := values
    obtain ⟨first, rest, hfirst, hrest, rfl⟩ := encode_cons h
    rw [kept, Layout.encode, FieldKind.encode_kept hfirst, ih hrest]
    rfl

theorem Layout.fits_kept {layout : Layout} (hw : layout.WellFormed) {values : layout.Values}
    {bits : Bits} (h : layout.encode values = .ok bits) : layout.Fits (layout.kept values) := by
  induction layout generalizing bits with
  | nil => trivial
  | cons field layout ih =>
    obtain ⟨value, values⟩ := values
    obtain ⟨hfield, hlayout⟩ := List.forall_mem_cons.mp hw
    obtain ⟨first, rest, hfirst, hrest, -⟩ := encode_cons h
    exact ⟨FieldKind.fits_kept hfield hfirst, ih hlayout hrest⟩

/-! ## Records -/

namespace WireRecord

variable {R : Type} [WireRecord R] {r r' : R} {bs : Bits}

/-- The record with what the fields of its head keep of their values, and with nothing behind the
head. -/
def keptHead (r : R) : R :=
  ofHead ((layout R).kept (head r))

/-- The head of `r'` holds what the fields of the head of `r` keep, and their tails are sent
alike. -/
structure SentAs (r r' : R) : Prop where
  head_eq : head r' = (layout R).kept (head r)
  encodeTail_eq : ∀ tail, encodeTail r = .ok tail → encodeTail r' = .ok tail

/-- Both records have the same bits, and the head of the second one fits. -/
theorem SentAs.encode_eq (h : SentAs r r') (hr : WireRecord.encode r = .ok bs)
    (hw : (layout R).WellFormed) :
    WireRecord.encode r' = .ok bs ∧ (layout R).Fits (head r') := by
  obtain ⟨first, tail, hfirst, htail, rfl⟩ := encode_eq_ok hr
  constructor
  · rw [WireRecord.encode, h.head_eq, Layout.encode_kept hfirst, h.encodeTail_eq tail htail]
    rfl
  · rw [h.head_eq]
    exact Layout.fits_kept hw hfirst

end WireRecord

/-! ### Repeated groups -/

/-- The acknowledgement as it is sent. -/
def Acknowledgement.normal (ack : Acknowledgement) : Acknowledgement where
  mmsi := unsigned 30 ack.mmsi
  sequence := unsigned 2 ack.sequence

/-- The reservation as it is sent. -/
def SlotReservation.normal (slot : SlotReservation) : SlotReservation where
  offset := unsigned 12 slot.offset
  slots := unsigned 4 slot.slots
  timeout := unsigned 3 slot.timeout
  increment := unsigned 11 slot.increment

/-- The groups that are sent, each as it is sent. -/
def sentGroups {α : Type} (normal : α → α) (groups : List α) : List α :=
  (groups.take maxGroups).map normal

/-- Groups are sent like the groups that are sent of them. -/
theorem flatMap_take_sentGroups {α : Type} {normal : α → α} {encode : α → Bits}
    (h : ∀ group, encode (normal group) = encode group) (groups : List α) :
    ((sentGroups normal groups).take maxGroups).flatMap encode =
      (groups.take maxGroups).flatMap encode := by
  rw [sentGroups, ← List.map_take, List.take_take, min_self, List.flatMap_map]
  exact List.flatMap_congr fun group _ => h group

theorem Acknowledgement.encode_normal (ack : Acknowledgement) :
    ack.normal.encode = ack.encode := by
  simp only [Acknowledgement.encode, normal, Bits.ofInt_unsigned]

theorem SlotReservation.encode_normal (slot : SlotReservation) :
    slot.normal.encode = slot.encode := by
  simp only [SlotReservation.encode, normal, Bits.ofInt_unsigned]

/-- The acknowledgements that are sent. -/
def BinaryAcknowledge.normal (r : BinaryAcknowledge) : BinaryAcknowledge :=
  { keptHead r with acks := sentGroups Acknowledgement.normal r.acks }

theorem BinaryAcknowledge.sentAs_normal (r : BinaryAcknowledge) : SentAs r r.normal where
  head_eq := rfl
  encodeTail_eq tail h := by
    rw [← h]
    exact congrArg Except.ok (flatMap_take_sentGroups Acknowledgement.encode_normal r.acks)

/-- The reservations that are sent. -/
def DataLinkManagement.normal (r : DataLinkManagement) : DataLinkManagement :=
  { keptHead r with reservations := sentGroups SlotReservation.normal r.reservations }

theorem DataLinkManagement.sentAs_normal (r : DataLinkManagement) : SentAs r r.normal where
  head_eq := rfl
  encodeTail_eq tail h := by
    have hgroups := flatMap_take_sentGroups SlotReservation.encode_normal r.reservations
    rw [← h]
    simp only [encodeTail, normal, hgroups]

/-! ### Optional sections -/

namespace Interrogation

/-- The record with the second request of `r` to the first station; its message is type zero if
there is none. -/
def withSecond (base r : Interrogation) : Interrogation :=
  { base with
    spare2 := unsigned 2 r.spare2
    type12 := some (unsigned 6 (r.type12.getD 0))
    offset12 := unsigned 12 r.offset12
    spare3 := unsigned 2 r.spare3 }

/-- The record with the request of `r` to a second station. -/
def withOther (base r : Interrogation) (mmsi2 : Int) : Interrogation :=
  { base with
    mmsi2 := some (unsigned 30 mmsi2)
    type21 := unsigned 6 r.type21
    offset21 := unsigned 12 r.offset21
    spare4 := unsigned 2 r.spare4 }

/-- The requests that are sent; one to a second station takes the second one to the first station
with it. -/
def normal (r : Interrogation) : Interrogation :=
  match r.mmsi2 with
  | some mmsi2 => ((keptHead r).withSecond r).withOther r mmsi2
  | none => if r.type12.isSome then (keptHead r).withSecond r else keptHead r

theorem mmsi2_keptHead (r : Interrogation) : (keptHead r).mmsi2 = none := rfl

theorem sentAs_normal (r : Interrogation) : SentAs r r.normal := by
  obtain ⟨header, spare, mmsi1, type11, offset11, spare2, type12, offset12, spare3, mmsi2, type21,
    offset21, spare4⟩ := r
  cases mmsi2 with
  | some mmsi2 =>
    refine ⟨rfl, fun tail h => ?_⟩
    rw [← h]
    simp [encodeTail, normal, withSecond, withOther, Bits.ofInt_unsigned]
  | none =>
    cases type12 with
    | some type12 =>
      refine ⟨rfl, fun tail h => ?_⟩
      rw [← h]
      simp [encodeTail, normal, withSecond, mmsi2_keptHead, Bits.ofInt_unsigned]
    | none => exact ⟨rfl, fun tail h => h⟩

end Interrogation

namespace AssignedModeCommand

/-- The second station if there is one, else the completing bits. -/
def normal (r : AssignedModeCommand) : AssignedModeCommand :=
  match r.destMmsiB with
  | some destMmsiB => { keptHead r with
      destMmsiB := some (unsigned 30 destMmsiB)
      offsetB := unsigned 12 r.offsetB
      incrementB := unsigned 10 r.incrementB }
  | none => { keptHead r with spare2 := unsigned 4 r.spare2 }

theorem sentAs_normal (r : AssignedModeCommand) : SentAs r r.normal := by
  obtain ⟨header, spare, destMmsiA, offsetA, incrementA, destMmsiB, offsetB, incrementB, spare2⟩ :=
    r
  cases destMmsiB with
  | some destMmsiB =>
    refine ⟨rfl, fun tail h => ?_⟩
    rw [← h]
    simp only [encodeTail, normal, Bits.ofInt_unsigned]
  | none =>
    refine ⟨rfl, fun tail h => ?_⟩
    rw [← h]
    exact congrArg Except.ok (Bits.ofInt_unsigned 4 spare2)

end AssignedModeCommand

namespace ChannelManagement

/-- The two stations or the region, whichever the flag tells. -/
def normal (r : ChannelManagement) : ChannelManagement :=
  let area :=
    if r.addressed then { keptHead r with
      destMmsiA := unsigned 30 r.destMmsiA
      spare2 := unsigned 5 r.spare2
      destMmsiB := unsigned 30 r.destMmsiB
      spare3 := unsigned 5 r.spare3 }
    else { keptHead r with
      nePosition := r.nePosition.kept
      swPosition := r.swPosition.kept }
  { area with
    addressed := r.addressed
    bandA := r.bandA
    bandB := r.bandB
    zoneSize := unsigned 3 r.zoneSize
    spare4 := unsigned 23 r.spare4 }

theorem sentAs_normal (r : ChannelManagement) : SentAs r r.normal := by
  cases haddressed : r.addressed with
  | true =>
    refine ⟨?_, fun tail h => ?_⟩
    · simp only [normal, haddressed, if_true]
      rfl
    · rw [← h]
      simp only [encodeTail, normal, haddressed, if_true, Bits.ofInt_unsigned]
  | false =>
    refine ⟨?_, fun tail h => ?_⟩
    · simp only [normal, haddressed]
      rfl
    · rw [← h]
      simp [encodeTail, normal, haddressed, Bits.ofInt_unsigned, Position.encode_kept]

end ChannelManagement

/-! ### Texts -/

/-- The text that is sent. -/
def AddressedSafetyMessage.normal (r : AddressedSafetyMessage) : AddressedSafetyMessage :=
  { keptHead r with text := SixBit.sentText maxText r.text }

theorem AddressedSafetyMessage.sentAs_normal (r : AddressedSafetyMessage) : SentAs r r.normal where
  head_eq := rfl
  encodeTail_eq tail h := by
    show SixBit.encode ((SixBit.sentText maxText r.text).toList.take maxText) = .ok tail
    rw [SixBit.take_toList_sentText]
    exact SixBit.encode_map_upper h

/-- The text that is sent. -/
def SafetyBroadcastMessage.normal (r : SafetyBroadcastMessage) : SafetyBroadcastMessage :=
  { keptHead r with text := SixBit.sentText maxText r.text }

theorem SafetyBroadcastMessage.sentAs_normal (r : SafetyBroadcastMessage) : SentAs r r.normal where
  head_eq := rfl
  encodeTail_eq tail h := by
    show SixBit.encode ((SixBit.sentText maxText r.text).toList.take maxText) = .ok tail
    rw [SixBit.take_toList_sentText]
    exact SixBit.encode_map_upper h

/-- The characters of the extension that are sent. -/
def AidToNavigationReport.normal (r : AidToNavigationReport) : AidToNavigationReport :=
  { keptHead r with nameExtension := SixBit.sentText maxExtension r.nameExtension }

theorem AidToNavigationReport.sentAs_normal (r : AidToNavigationReport) : SentAs r r.normal where
  head_eq := rfl
  encodeTail_eq tail h := by
    obtain ⟨bits, hbits, rfl⟩ := Message.aidToNavigation_encodeTail h
    have hsent : SixBit.encode (r.normal.nameExtension.toList.take maxExtension) = .ok bits := by
      show SixBit.encode ((SixBit.sentText maxExtension r.nameExtension).toList.take maxExtension) =
        .ok bits
      rw [SixBit.take_toList_sentText]
      exact SixBit.encode_map_upper hbits
    simp only [encodeTail, hsent]
    rfl

/-! ### Opaque data -/

/-- The address and the application identifier as far as they are announced, and the data. -/
def SingleSlotBinaryMessage.normal (r : SingleSlotBinaryMessage) : SingleSlotBinaryMessage :=
  { keptHead r with
    destMmsi := if r.addressed then unsigned 30 r.destMmsi else 0
    spare := if r.addressed then unsigned 2 r.spare else 0
    appId := if r.structured then unsigned 16 r.appId else 0
    data := r.data }

/-- The address and the application identifier as far as they are announced, the data, and the
communication state. -/
def MultipleSlotBinaryMessage.normal (r : MultipleSlotBinaryMessage) : MultipleSlotBinaryMessage :=
  { keptHead r with
    destMmsi := if r.addressed then unsigned 30 r.destMmsi else 0
    spare := if r.addressed then unsigned 2 r.spare else 0
    appId := if r.structured then unsigned 16 r.appId else 0
    data := r.data
    radioSelector := r.radioSelector
    radio := unsigned 19 r.radio }

/-- What is not announced has no influence, and what is announced is sent by its low bits. -/
theorem SlotAddress.encode_normal (addressed structured : Bool) (mmsi spare application : Int) :
    SlotAddress.encode addressed structured (if addressed then unsigned 30 mmsi else 0)
        (if addressed then unsigned 2 spare else 0)
        (if structured then unsigned 16 application else 0) =
      SlotAddress.encode addressed structured mmsi spare application := by
  cases addressed <;> cases structured <;> simp [SlotAddress.encode, Bits.ofInt_unsigned]

theorem SingleSlotBinaryMessage.sentAs_normal (r : SingleSlotBinaryMessage) :
    SentAs r r.normal where
  head_eq := rfl
  encodeTail_eq tail h := by
    have haddress :=
      SlotAddress.encode_normal r.addressed r.structured r.destMmsi r.spare r.appId
    rw [← h]
    exact congrArg (fun address => Except.ok (address ++ r.data.bits)) haddress

theorem MultipleSlotBinaryMessage.sentAs_normal (r : MultipleSlotBinaryMessage) :
    SentAs r r.normal where
  head_eq := rfl
  encodeTail_eq tail h := by
    have haddress :=
      SlotAddress.encode_normal r.addressed r.structured r.destMmsi r.spare r.appId
    have hradio := Bits.ofInt_unsigned 19 r.radio
    rw [← h]
    exact congrArg₂
      (fun address radio => Except.ok (address ++ r.data.bits ++ r.radioSelector :: radio))
      haddress hradio

/-! ## Messages -/

namespace Message

/-- The message that holds what is sent of a message. A record without a tail is its head, and
opaque data are sent as they are. -/
def normal : Message → Message
  | bareMessage r => bareMessage (keptHead r)
  | positionReport r => positionReport (keptHead r)
  | baseStationReport r => baseStationReport (keptHead r)
  | staticAndVoyageData r => staticAndVoyageData (keptHead r)
  | addressedBinaryMessage r => addressedBinaryMessage { keptHead r with data := r.data }
  | binaryAcknowledge r => binaryAcknowledge r.normal
  | binaryBroadcastMessage r => binaryBroadcastMessage { keptHead r with data := r.data }
  | sarAircraftPositionReport r => sarAircraftPositionReport (keptHead r)
  | utcDateInquiry r => utcDateInquiry (keptHead r)
  | addressedSafetyMessage r => addressedSafetyMessage r.normal
  | safetyBroadcastMessage r => safetyBroadcastMessage r.normal
  | interrogation r => interrogation r.normal
  | assignedModeCommand r => assignedModeCommand r.normal
  | dgnssBroadcast r => dgnssBroadcast { keptHead r with data := r.data }
  | standardClassBPositionReport r => standardClassBPositionReport (keptHead r)
  | extendedClassBPositionReport r => extendedClassBPositionReport (keptHead r)
  | dataLinkManagement r => dataLinkManagement r.normal
  | aidToNavigationReport r => aidToNavigationReport r.normal
  | channelManagement r => channelManagement r.normal
  | groupAssignmentCommand r => groupAssignmentCommand (keptHead r)
  | staticDataReportPartA r => staticDataReportPartA (keptHead r)
  | staticDataReportPartB r => staticDataReportPartB (keptHead r)
  | singleSlotBinaryMessage r => singleSlotBinaryMessage r.normal
  | multipleSlotBinaryMessage r => multipleSlotBinaryMessage r.normal
  | longRangeBroadcast r => longRangeBroadcast (keptHead r)

theorem kind_normal (m : Message) : m.normal.kind = m.kind := by
  cases m <;> rfl

theorem messageType_normal (m : Message) :
    m.normal.messageType = unsigned 6 m.messageType := by
  cases m with
  | interrogation r => exact congrArg Prod.fst r.sentAs_normal.head_eq
  | assignedModeCommand r => exact congrArg Prod.fst r.sentAs_normal.head_eq
  | channelManagement r => exact congrArg Prod.fst r.sentAs_normal.head_eq
  | _ => rfl

/-- The normal form has the bits of the message, and the fields of its head fit. -/
theorem bits_normal {m : Message} {bs : Bits} (h : m.bits = .ok bs) :
    m.normal.bits = .ok bs ∧ m.normal.FitsHead := by
  cases m with
  | binaryAcknowledge r => exact r.sentAs_normal.encode_eq h (Layout.wellFormed_of_all rfl)
  | dataLinkManagement r => exact r.sentAs_normal.encode_eq h (Layout.wellFormed_of_all rfl)
  | interrogation r => exact r.sentAs_normal.encode_eq h (Layout.wellFormed_of_all rfl)
  | assignedModeCommand r => exact r.sentAs_normal.encode_eq h (Layout.wellFormed_of_all rfl)
  | channelManagement r => exact r.sentAs_normal.encode_eq h (Layout.wellFormed_of_all rfl)
  | addressedSafetyMessage r => exact r.sentAs_normal.encode_eq h (Layout.wellFormed_of_all rfl)
  | safetyBroadcastMessage r => exact r.sentAs_normal.encode_eq h (Layout.wellFormed_of_all rfl)
  | aidToNavigationReport r => exact r.sentAs_normal.encode_eq h (Layout.wellFormed_of_all rfl)
  | singleSlotBinaryMessage r => exact r.sentAs_normal.encode_eq h (Layout.wellFormed_of_all rfl)
  | multipleSlotBinaryMessage r => exact r.sentAs_normal.encode_eq h (Layout.wellFormed_of_all rfl)
  | _ =>
    exact SentAs.encode_eq ⟨rfl, fun tail htail => htail⟩ h (Layout.wellFormed_of_all rfl)

end Message

/-- The normal form of a message that is encoded is encoded to the same payload. -/
theorem Message.normal_of_encode {m : Message} {payload : Payload} (h : encode m = .ok payload) :
    encode m.normal = .ok payload ∧ m.normal.messageType = m.messageType ∧
      m.normal.FitsHead := by
  obtain ⟨bs, hbits, rfl, htype, hacc⟩ := encode_eq_ok h
  obtain ⟨hnormal, hfits⟩ := bits_normal hbits
  have hbounds := m.kind.bounds_of_mem_types htype
  have hkept : m.normal.messageType = m.messageType := by
    rw [messageType_normal, Bits.unsigned_of_lt (by omega) (by omega)]
  refine ⟨encode_ok ?_ hnormal ?_, hkept, hfits⟩
  · rwa [kind_normal, hkept]
  · rwa [kind_normal]

/-- A message is encoded like its normal form, which is of its class and type and whose fields fit
their widths. So two messages with the same normal form are never sent differently, whatever their
fields hold beyond it. -/
theorem encode_normal_of_encode {m : Message} {payload : Payload} (h : encode m = .ok payload) :
    encode m.normal = .ok payload ∧ m.normal.kind = m.kind ∧
      m.normal.messageType = m.messageType ∧ m.normal.FitsHead ∧
        ∀ m' payload', encode m' = .ok payload' → m'.normal = m.normal → payload' = payload := by
  obtain ⟨hencode, htype, hfits⟩ := Message.normal_of_encode h
  refine ⟨hencode, m.kind_normal, htype, hfits, fun m' payload' h' hnormal => ?_⟩
  obtain ⟨hencode', -, -⟩ := Message.normal_of_encode h'
  rw [hnormal, hencode] at hencode'
  exact (Except.ok.inj hencode').symm

/-- Numbers that are negative, too wide or not sent at all, and a second station without a second
request to the first one. -/
theorem encode_normal_of_encode_interrogation :
    let m : Message := .interrogation {
      repeatIndicator := -1, mmsi := 2 ^ 64 + 5, mmsi1 := -1, type11 := 67, offset11 := 4096
      spare2 := -4, offset12 := 5000, mmsi2 := some (-7), type21 := 64, spare4 := 6 }
    let sent : Message := .interrogation {
      repeatIndicator := 3, mmsi := 5, mmsi1 := 1073741823, type11 := 3, type12 := some 0
      offset12 := 904, mmsi2 := some 1073741817, spare4 := 2 }
    let payload : Payload := ⟨"?h0001Cwwwwt<000>8?wwwv@008", 160⟩
    encode m = .ok payload ∧ m.normal = sent ∧ encode sent = .ok payload := by
  intro m sent payload
  have h : encode m = .ok payload := by decide +kernel
  have hnormal : m.normal = sent := by decide +kernel
  have hsent := (encode_normal_of_encode h).1
  rw [hnormal] at hsent
  exact ⟨h, hnormal, hsent⟩

end AisStation
