import AisStation.Proofs.Received
import AisStation.Proofs.Validated.Encoding

/-!
# The stations that a message names

The sender of a message and the stations it is meant for or speaks of, under the names of their
fields. Validation knows all of these names but one: the second station of an assigned mode command
and of channel management is not checked. So the stations of a record without findings lie in the
range of identities and are received as they were sent, unless a second station goes beyond its
field; whatever stands for that one, validation does not object.
-/

namespace AisStation

open Validation WireRecord

namespace Message

variable {m : Message} {name : String}

/-- The stations besides the sender that are sent with a message, under the names of their
fields. -/
def otherStations : Message → List (String × Int)
  | addressedBinaryMessage r => [("dest_mmsi", r.destMmsi)]
  | binaryAcknowledge r =>
    (r.acks.take maxGroups).mapIdx fun i ack => (s!"acks[{i}].mmsi", ack.mmsi)
  | utcDateInquiry r => [("dest_mmsi", r.destMmsi)]
  | addressedSafetyMessage r => [("dest_mmsi", r.destMmsi)]
  | interrogation r => ("mmsi1", r.mmsi1) :: r.mmsi2.toList.map fun mmsi2 => ("mmsi2", mmsi2)
  | assignedModeCommand r =>
    ("dest_mmsi_a", r.destMmsiA) :: r.destMmsiB.toList.map fun mmsi => ("dest_mmsi_b", mmsi)
  | channelManagement r =>
    if r.addressed then [("dest_mmsi_a", r.destMmsiA), ("dest_mmsi_b", r.destMmsiB)] else []
  | singleSlotBinaryMessage r => if r.addressed then [("dest_mmsi", r.destMmsi)] else []
  | multipleSlotBinaryMessage r => if r.addressed then [("dest_mmsi", r.destMmsi)] else []
  | _ => []

/-- The stations that are sent with a message, under the names of their fields. -/
def stations (m : Message) : List (String × Int) :=
  ("mmsi", m.header.mmsi) :: m.otherStations

/-- The record with another second station, if it is of a kind that has one. -/
def withSecondStation (m : Message) (mmsi : Int) : Message :=
  match m with
  | assignedModeCommand r => assignedModeCommand { r with destMmsiB := some mmsi }
  | channelManagement r => channelManagement { r with destMmsiB := mmsi }
  | m => m

/-! ## Range -/

/-- A number among the fields of a checked record lies in the range of its name. -/
theorem bounds_of_mem (h : m.Checked) {n low high : Int}
    (hmem : (name, FieldValue.number n) ∈ m.toFields) (hrange : range? name = some (low, high)) :
    low ≤ n ∧ n ≤ high := by
  have hcheck := h.fields (name, .number n) hmem
  simp only [checkField, hrange] at hcheck
  exact bounds_of_checkRange hcheck

theorem wireFields_mmsi (m : Message) :
    m.wireFields[2]? = some ("mmsi", .number m.header.mmsi) := by
  cases m <;> rfl

theorem keptFields_mmsi (m : Message) :
    m.keptFields[2]? = some ("mmsi", .number (unsigned 30 m.header.mmsi)) := by
  cases m <;> rfl

/-- Every acknowledgement is checked, wherever it stands. -/
theorem bounds_of_checkAcknowledgements {acks : List Acknowledgement} {index : Nat}
    (h : checkAcknowledgements index acks = []) :
    ∀ ack ∈ acks, 0 ≤ ack.mmsi ∧ ack.mmsi ≤ maxMmsi := by
  induction acks generalizing index with
  | nil => exact fun ack hack => absurd hack List.not_mem_nil
  | cons first acks ih =>
    rw [checkAcknowledgements, List.append_eq_nil_iff, List.append_eq_nil_iff] at h
    obtain ⟨⟨hmmsi, -⟩, hacks⟩ := h
    intro ack hack
    rcases List.mem_cons.mp hack with rfl | hack
    · exact bounds_of_checkRange hmmsi
    · exact ih hacks ack hack

/-- Where there is a second station to be interrogated, its identity is checked. -/
theorem bounds_of_mmsi2 {r : Interrogation} (h : checkGroups (interrogation r) = []) :
    ∀ mmsi2 ∈ r.mmsi2, 0 ≤ mmsi2 ∧ mmsi2 ≤ maxMmsi := by
  rintro mmsi2 hmmsi2
  have hsome : r.mmsi2 = some mmsi2 := hmmsi2
  rw [checkGroups, hsome] at h
  exact bounds_of_checkRange (List.append_eq_nil_iff.mp h).1

theorem bounds_of_stations (h : m.Checked) {mmsi : Int} (hmem : (name, mmsi) ∈ m.stations)
    (hname : name ≠ "dest_mmsi_b") : 0 ≤ mmsi ∧ mmsi ≤ maxMmsi := by
  rw [stations, List.mem_cons, Prod.mk.injEq] at hmem
  rcases hmem with ⟨rfl, rfl⟩ | hmem
  · have hsender := m.wireFields_subset (List.mem_of_getElem? m.wireFields_mmsi)
    exact bounds_of_mem h hsender rfl
  have hfield {field : String} (i : Nat)
      (hfield : m.toFields[i]? = some (field, .number mmsi))
      (hrange : range? field = some (0, maxMmsi)) : 0 ≤ mmsi ∧ mmsi ≤ maxMmsi :=
    bounds_of_mem h (List.mem_of_getElem? hfield) hrange
  have hgroups := h.groups
  cases m with
  | addressedBinaryMessage r =>
    obtain ⟨-, rfl⟩ := Prod.mk.inj (List.mem_singleton.mp hmem)
    exact hfield 4 rfl rfl
  | utcDateInquiry r =>
    obtain ⟨-, rfl⟩ := Prod.mk.inj (List.mem_singleton.mp hmem)
    exact hfield 4 rfl rfl
  | addressedSafetyMessage r =>
    obtain ⟨-, rfl⟩ := Prod.mk.inj (List.mem_singleton.mp hmem)
    exact hfield 4 rfl rfl
  | binaryAcknowledge r =>
    obtain ⟨i, hi, hentry⟩ := List.mem_mapIdx.mp hmem
    obtain ⟨-, rfl⟩ := Prod.mk.inj hentry
    exact bounds_of_checkAcknowledgements (List.append_eq_nil_iff.mp hgroups).2 _
      (List.mem_of_mem_take (List.getElem_mem hi))
  | interrogation r =>
    rcases List.mem_cons.mp hmem with hentry | hmem
    · obtain ⟨-, rfl⟩ := Prod.mk.inj hentry
      exact hfield 4 rfl rfl
    · obtain ⟨mmsi2, hmmsi2, hentry⟩ := List.mem_map.mp hmem
      obtain ⟨-, rfl⟩ := Prod.mk.inj hentry
      exact bounds_of_mmsi2 hgroups mmsi2 (Option.mem_toList.mp hmmsi2)
  | assignedModeCommand r =>
    rcases List.mem_cons.mp hmem with hentry | hmem
    · obtain ⟨-, rfl⟩ := Prod.mk.inj hentry
      exact hfield 4 rfl rfl
    · obtain ⟨mmsi2, -, hentry⟩ := List.mem_map.mp hmem
      exact absurd (Prod.mk.inj hentry).1.symm hname
  | channelManagement r =>
    rw [otherStations] at hmem
    split at hmem
    · rcases List.mem_cons.mp hmem with hentry | hmem
      · obtain ⟨-, rfl⟩ := Prod.mk.inj hentry
        exact hfield 10 rfl rfl
      · exact absurd (Prod.mk.inj (List.mem_singleton.mp hmem)).1 hname
    · exact absurd hmem List.not_mem_nil
  | singleSlotBinaryMessage r =>
    rw [otherStations] at hmem
    split at hmem
    · obtain ⟨-, rfl⟩ := Prod.mk.inj (List.mem_singleton.mp hmem)
      exact hfield 5 rfl rfl
    · exact absurd hmem List.not_mem_nil
  | multipleSlotBinaryMessage r =>
    rw [otherStations] at hmem
    split at hmem
    · obtain ⟨-, rfl⟩ := Prod.mk.inj (List.mem_singleton.mp hmem)
      exact hfield 5 rfl rfl
    · exact absurd hmem List.not_mem_nil
  | _ => exact absurd hmem List.not_mem_nil

/-! ## The second station -/

/-- No finding depends on the second station. -/
theorem findings_withSecondStation (m : Message) (mmsi : Int) :
    (m.withSecondStation mmsi).findings = m.findings := by
  cases m with
  | assignedModeCommand r => rfl
  | channelManagement r => rfl
  | _ => rfl

/-! ## Reception -/

/-- The station as it is sent. -/
def sentStation (station : String × Int) : String × Int :=
  (station.1, unsigned 30 station.2)

theorem otherStations_normal (m : Message) :
    m.normal.otherStations = m.otherStations.map sentStation := by
  cases m with
  | binaryAcknowledge r =>
    have hsent : (sentGroups Acknowledgement.normal r.acks).take maxGroups =
        (r.acks.take maxGroups).map Acknowledgement.normal := by
      rw [sentGroups, ← List.map_take, List.take_take, min_self]
    show ((sentGroups Acknowledgement.normal r.acks).take maxGroups).mapIdx _ = _
    rw [hsent, otherStations]
    refine List.ext_getElem? fun i => ?_
    simp only [List.getElem?_map, List.getElem?_mapIdx, Option.map_map]
    rfl
  | interrogation r =>
    obtain ⟨header, spare, mmsi1, type11, offset11, spare2, type12, offset12, spare3, mmsi2, type21,
      offset21, spare4⟩ := r
    cases mmsi2 with
    | some mmsi2 => rfl
    | none => cases type12 <;> rfl
  | assignedModeCommand r =>
    obtain ⟨header, spare, destMmsiA, offsetA, incrementA, destMmsiB, offsetB, incrementB,
      spare2⟩ := r
    cases destMmsiB <;> rfl
  | channelManagement r =>
    have hflag : r.normal.addressed = r.addressed := rfl
    simp only [normal, otherStations, hflag]
    cases haddressed : r.addressed with
    | true =>
      simp only [ChannelManagement.normal, haddressed, if_true]
      rfl
    | false => rfl
  | singleSlotBinaryMessage r =>
    have hflag : r.normal.addressed = r.addressed := rfl
    have hmmsi : r.normal.destMmsi = if r.addressed then unsigned 30 r.destMmsi else 0 := rfl
    simp only [normal, otherStations, hflag, hmmsi]
    cases r.addressed <;> rfl
  | multipleSlotBinaryMessage r =>
    have hflag : r.normal.addressed = r.addressed := rfl
    have hmmsi : r.normal.destMmsi = if r.addressed then unsigned 30 r.destMmsi else 0 := rfl
    simp only [normal, otherStations, hflag, hmmsi]
    cases r.addressed <;> rfl
  | _ => rfl

/-- What stands in the bits of a message names the same stations, by their low bits. -/
theorem stations_messageAt {bs : Bits} (h : m.bits = .ok bs) (hfit : ¬m.Misfits)
    (hbare : m.kind ≠ .bareMessage) :
    (m.kind.messageAt bs).stations = m.stations.map sentStation := by
  have hsender : (m.kind.messageAt bs).header.mmsi = unsigned 30 m.header.mmsi := by
    have hfield := congrArg (·[2]?) (wireFields_messageAt h)
    simp only [wireFields_mmsi, keptFields_mmsi] at hfield
    simpa using hfield
  have hothers : (m.kind.messageAt bs).otherStations = m.otherStations.map sentStation := by
    by_cases haid : m.kind = .aidToNavigationReport
    · have hkind := m.kind.kind_messageAt bs
      have hnone {m : Message} (hm : m.kind = .aidToNavigationReport) : m.otherStations = [] := by
        cases m with
        | aidToNavigationReport r => rfl
        | _ => contradiction
      rw [hnone haid, hnone (hkind.trans haid)]
      rfl
    · rw [messageAt_bits h hfit hbare haid, otherStations_normal]
  rw [stations, hsender, hothers, stations, List.map_cons]
  rfl

theorem map_sentStation_eq_self_iff {stations : List (String × Int)} :
    stations.map sentStation = stations ↔ ∀ station ∈ stations, FitsUnsigned 30 station.2 := by
  have hself (station : String × Int) :
      sentStation station = station ↔ FitsUnsigned 30 station.2 := by
    rw [sentStation, Prod.mk.injEq, eq_self_iff_true, true_and, Bits.unsigned_eq_self_iff]
    rfl
  have hid := List.map_id stations
  rw [← forall₂_congr fun station _ => hself station]
  nth_rewrite 2 [← hid]
  exact List.map_inj_left

theorem fitsUnsigned_of_bounds {mmsi : Int} (h : 0 ≤ mmsi ∧ mmsi ≤ maxMmsi) :
    FitsUnsigned 30 mmsi := by
  rw [maxMmsi] at h
  exact ⟨h.1, by omega⟩

/-- In a record without findings every station has an identity in range, which its field holds,
except for a second station: whatever stands there, nothing is found. So a receiver gets the
stations as they were sent if the field of the second one holds it. -/
theorem stations_of_findings (hvalid : m.findings = []) :
    (∀ name mmsi, (name, mmsi) ∈ m.stations → name ≠ "dest_mmsi_b" →
      (0 ≤ mmsi ∧ mmsi ≤ maxMmsi) ∧ unsigned 30 mmsi = mmsi) ∧
    (∀ mmsi, (m.withSecondStation mmsi).findings = []) ∧
    ∀ payload, encode m = .ok payload → m.SendsOwnPart →
      ∃ m', decode payload.text (some payload.bitLength) = .ok m' ∧
        m'.stations = m.stations.map sentStation ∧
        (m'.stations = m.stations ↔
          ∀ mmsi, ("dest_mmsi_b", mmsi) ∈ m.stations → FitsUnsigned 30 mmsi) := by
  have hchecked := checked_of_findings hvalid
  have hbounds : ∀ name mmsi, (name, mmsi) ∈ m.stations → name ≠ "dest_mmsi_b" →
      0 ≤ mmsi ∧ mmsi ≤ maxMmsi :=
    fun name mmsi hmem hname => bounds_of_stations hchecked hmem hname
  refine ⟨fun name mmsi hmem hname => ?_, fun mmsi => ?_, fun payload hencode hpart => ?_⟩
  · have hfits := fitsUnsigned_of_bounds (hbounds name mmsi hmem hname)
    exact ⟨hbounds name mmsi hmem hname, Bits.unsigned_eq_self_iff.mpr hfits⟩
  · rw [findings_withSecondStation, hvalid]
  · obtain ⟨bs, hbits, rfl, htype, hacc⟩ := encode_eq_ok hencode
    have hbare : m.kind ≠ .bareMessage := by
      intro hkind
      rw [types_eq_nil_iff.mpr hkind] at htype
      exact List.not_mem_nil htype
    have hfit : ¬m.Misfits := by
      rw [length_bits hbits] at hacc
      exact (accepts_sentLength htype).mp hacc
    have hstations := stations_messageAt hbits hfit hbare
    have hdecode := (decode_armor_iff hbits htype hacc).mpr ⟨hpart, rfl⟩
    refine ⟨m.kind.messageAt bs, hdecode, hstations, ?_⟩
    rw [hstations, map_sentStation_eq_self_iff]
    constructor
    · intro hall mmsi hmem
      exact hall _ hmem
    · rintro hsecond ⟨name, mmsi⟩ hmem
      by_cases hname : name = "dest_mmsi_b"
      · subst hname
        exact hsecond mmsi hmem
      · exact fitsUnsigned_of_bounds (hbounds name mmsi hmem hname)

/-- The second station of channel management is out of range, but its field holds it: all stations
are received. -/
theorem stations_of_findings_channelManagement :
    let m : Message := .channelManagement {
      mmsi := 2655619, addressed := true, destMmsiA := 999999999, destMmsiB := 1073741823 }
    let payload : Payload := ⟨"F02R5Ph00007LmTwp?wwwwh@0000", 168⟩
    m.findings = [] ∧ encode m = .ok payload ∧ m.SendsOwnPart ∧
      ∃ m', decode payload.text (some payload.bitLength) = .ok m' ∧ m'.stations = m.stations := by
  intro m payload
  have hvalid : m.findings = [] := by decide +kernel
  have hencode : encode m = .ok payload := by decide +kernel
  obtain ⟨-, -, hreceived⟩ := stations_of_findings hvalid
  obtain ⟨m', hdecode, -, hiff⟩ := hreceived payload hencode trivial
  refine ⟨hvalid, hencode, trivial, m', hdecode, hiff.mpr ?_⟩
  have hall : ∀ station ∈ m.stations, FitsUnsigned 30 station.2 := by decide +kernel
  exact fun mmsi hmem => hall _ hmem

/-- An assigned mode command for a station with an identity beyond its field: nothing is found, and
another station is addressed. -/
theorem not_bounded_assignedModeCommand :
    let m : Message := .assignedModeCommand { destMmsiB := some 1073741829 }
    m.findings = [] ∧ ("dest_mmsi_b", 1073741829) ∈ m.stations ∧ ¬(1073741829 : Int) ≤ maxMmsi ∧
      ∃ payload m', encode m = .ok payload ∧
        decode payload.text (some payload.bitLength) = .ok m' ∧
          ("dest_mmsi_b", 5) ∈ m'.stations := by
  intro m
  have hvalid : m.findings = [] := by decide +kernel
  have hencode : encode m = .ok ⟨"@0000000000000000001@000", 144⟩ := by decide +kernel
  have hdecode : decode "@0000000000000000001@000" (some 144) =
      .ok (.assignedModeCommand { destMmsiB := some 5 }) := by decide +kernel
  refine ⟨hvalid, by decide, by decide, _, _, hencode, hdecode, by decide⟩

end Message

end AisStation
