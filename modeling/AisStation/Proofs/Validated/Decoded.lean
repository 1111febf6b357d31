import AisStation.Proofs.FieldPlaces
import AisStation.Proofs.Validated.Encoding

/-!
# What validation can find in a decoded message

A field of some width holds no other numbers than those of its width, and a text that was read has
no other characters than those of the alphabet. So of what validation checks, much cannot be wrong
with a record that was decoded: the ranges as wide as their fields, the texts, the type, the form of
the message. What remains are the identities of stations and those numbers whose range ends below
the width of their field.
-/

namespace AisStation

open Validation WireRecord

namespace Validation

/-- The names of numbers that a field may hold although they are out of range. -/
def wideNames : List String := [
  "mmsi", "dest_mmsi", "dest_mmsi_a", "mmsi1", "mmsi2", "cog", "heading", "month", "eta_month",
  "hour", "eta_hour", "minute", "eta_minute", "maneuver", "epfd"]

/-- The names of what cannot be wrong with a decoded message: its type, the texts, the numbers of
groups, a missing request, and the numbers whose range their fields do not exceed. -/
def narrowNames : List String := [
  "message_type", "callsign", "shipname", "destination", "name", "name_extension", "vendor_id",
  "text", "acks", "reservations", "type1_2", "repeat", "seqno", "sog", "second", "nav_status",
  "day", "eta_day", "ship_type", "aid_type"]

/-! ## Checks -/

theorem eq_nil_of_bounds {name : String} {n low high : Int} (h : low ≤ n ∧ n ≤ high) :
    checkRange name n low high = [] := by
  unfold checkRange
  rw [if_neg]
  omega

theorem field_of_mem_checkRange {name : String} {n low high : Int} {f : Finding}
    (h : f ∈ checkRange name n low high) : f.field = name := by
  unfold checkRange at h
  split at h
  · rw [List.mem_singleton.mp h]
  · exact absurd h List.not_mem_nil

/-- A finding on a field is on its number or on its text, and bears its name. -/
theorem of_mem_checkField {name : String} {value : FieldValue} {f : Finding}
    (h : f ∈ checkField name value) : f.field = name ∧
      ((∃ n low high, value = .number n ∧ range? name = some (low, high) ∧
          ¬(low ≤ n ∧ n ≤ high)) ∨
        ∃ s, value = .text s ∧ SixBit.isText s = false) := by
  unfold checkField at h
  split at h
  · rename_i low high n hrange
    refine ⟨field_of_mem_checkRange h, .inl ⟨n, low, high, rfl, hrange, fun hbounds => ?_⟩⟩
    rw [eq_nil_of_bounds hbounds] at h
    exact List.not_mem_nil h
  · rename_i s hrange
    unfold checkText at h
    split at h
    · exact absurd h List.not_mem_nil
    · rename_i htext
      refine ⟨?_, .inr ⟨s, rfl, Bool.eq_false_iff.mpr htext⟩⟩
      rw [List.mem_singleton.mp h]
  · exact absurd h List.not_mem_nil

/-- A finding on one of the checked numbers is told by its check. -/
theorem exists_of_mem_checkNumber {fields : Fields} {name : String} {check : Int → List Finding}
    {f : Finding} (h : f ∈ checkNumber fields name check) : ∃ n, f ∈ check n := by
  unfold checkNumber at h
  split at h
  · rename_i n hn
    exact ⟨n, h⟩
  · exact absurd h List.not_mem_nil

theorem field_of_mem_checkHeading {n : Int} {f : Finding} (h : f ∈ checkHeading n) :
    f.field = "heading" := by
  unfold checkHeading at h
  split at h
  · rw [List.mem_singleton.mp h]
  · exact absurd h List.not_mem_nil

theorem field_of_mem_checkFix {n : Int} {f : Finding} (h : f ∈ checkFix n) : f.field = "epfd" := by
  unfold checkFix at h
  split at h
  · exact absurd h List.not_mem_nil
  · rw [List.mem_singleton.mp h]

/-- Of acknowledgements whose numbers fit, only the stations can be out of range. -/
theorem field_of_mem_checkAcknowledgements {acks : List Acknowledgement}
    (hfits : ∀ ack ∈ acks, ack.Fits) {index : Nat} {f : Finding}
    (h : f ∈ checkAcknowledgements index acks) :
    ∃ i < index + acks.length, f.field = s!"acks[{i}].mmsi" := by
  induction acks generalizing index with
  | nil => exact absurd h List.not_mem_nil
  | cons ack acks ih =>
    obtain ⟨hack, hacks⟩ := List.forall_mem_cons.mp hfits
    have hsequence : checkRange s!"acks[{index}].seqno" ack.sequence 0 3 = [] := by
      obtain ⟨hlow, hhigh⟩ := hack.2
      exact eq_nil_of_bounds ⟨hlow, by omega⟩
    rw [checkAcknowledgements, hsequence, List.append_nil, List.mem_append] at h
    rw [List.length_cons]
    rcases h with h | h
    · exact ⟨index, by omega, field_of_mem_checkRange h⟩
    · obtain ⟨i, hi, hname⟩ := ih hacks h
      exact ⟨i, by omega, hname⟩

end Validation

/-! ## Heads -/

/-- A field whose range is narrower than its width has one of the wide names. -/
theorem RecordKind.width_of_range? {kind : RecordKind} {field : Field} {low high : Int}
    (hfield : field ∈ kind.layout) (hrange : range? field.name = some (low, high)) :
    field.name ∈ wideNames ∨
      low = 0 ∧ field.kind = .unsigned field.kind.width ∧ 2 ^ field.kind.width ≤ high + 1 := by
  have hall : ∀ kind ∈ RecordKind.all, ∀ field ∈ kind.layout, ∀ b ∈ range? field.name,
      field.name ∈ wideNames ∨ b.1 = 0 ∧ field.kind = .unsigned field.kind.width ∧
        2 ^ field.kind.width ≤ b.2 + 1 := by decide +kernel
  exact hall kind kind.mem_all field hfield (low, high) hrange

/-- The fields of a layout have the values of their kinds. -/
theorem Layout.exists_of_mem_toFields {layout : Layout} {values : layout.Values} {name : String}
    {value : FieldValue} (hfits : layout.Fits values)
    (h : (name, value) ∈ layout.toFields values) :
    ∃ field ∈ layout, field.name = name ∧
      ∃ v, field.kind.Fits v ∧ field.kind.toValue v = value := by
  induction layout with
  | nil => exact absurd h List.not_mem_nil
  | cons field layout ih =>
    obtain ⟨v, values⟩ := values
    rw [toFields] at h
    rcases List.mem_cons.mp h with h | h
    · obtain ⟨rfl, rfl⟩ := Prod.mk.inj h
      exact ⟨field, List.mem_cons_self, rfl, v, hfits.1, rfl⟩
    · obtain ⟨field', hmem, hname, hvalue⟩ := ih hfits.2 h
      exact ⟨field', List.mem_cons_of_mem _ hmem, hname, hvalue⟩

theorem SixBit.isText_of_forall_mem {s : String} (h : ∀ c ∈ s.toList, c ∈ alphabet) :
    isText s = true :=
  isText_iff.mpr fun c hc => coded_of_mem (h c hc)

namespace Message

variable {m : Message} {name : String}

theorem exists_of_mem_wireFields {value : FieldValue} (hhead : m.FitsHead)
    (h : (name, value) ∈ m.wireFields) :
    ∃ field ∈ m.kind.layout, field.name = name ∧
      ∃ v, field.kind.Fits v ∧ field.kind.toValue v = value := by
  obtain ⟨R, _, message, tailAt, r, hrep, rfl⟩ := m.exists_record
  rw [FitsHead, hrep.visit_message] at hhead
  rw [wireFields, hrep.visit_message] at h
  rw [RecordKind.layout, hrep.visit_kind]
  exact Layout.exists_of_mem_toFields hhead h

/-! ## Numbers -/

/-- The names of the fields of a tail are those of its kind. -/
theorem map_fst_tailFields (m : Message) :
    m.tailFields.map Prod.fst = m.kind.blank.tailFields.map Prod.fst := by
  cases m <;> rfl

/-- In a tail only stations have names with a range. -/
theorem range?_of_mem_tailFields {value : FieldValue} (h : (name, value) ∈ m.tailFields) :
    name ∈ wideNames ∨ range? name = none := by
  have hall : ∀ kind ∈ RecordKind.all, ∀ name ∈ kind.blank.tailFields.map Prod.fst,
      name ∈ wideNames ∨ range? name = none := by decide +kernel
  have hname : name ∈ m.tailFields.map Prod.fst := List.mem_map_of_mem h
  rw [map_fst_tailFields] at hname
  exact hall m.kind m.kind.mem_all name hname

/-- A number that fits its field is in the range of its name, or the name is a wide one. -/
theorem bounds_of_fits (hhead : m.FitsHead) {n low high : Int}
    (h : (name, FieldValue.number n) ∈ m.toFields) (hrange : range? name = some (low, high)) :
    name ∈ wideNames ∨ low ≤ n ∧ n ≤ high := by
  rw [toFields_eq_append, List.mem_append] at h
  rcases h with h | h
  · obtain ⟨⟨_, kind⟩, hfield, rfl, v, hv, hvalue⟩ := exists_of_mem_wireFields hhead h
    rcases RecordKind.width_of_range? hfield hrange with hwide | ⟨rfl, hkind, hwidth⟩
    · exact .inl hwide
    · cases kind with
      | unsigned width =>
        obtain rfl : v = n := FieldValue.number.inj hvalue
        have hwidth : (2 : Int) ^ width ≤ high + 1 := hwidth
        exact .inr ⟨hv.1, Int.lt_add_one_iff.mp (hv.2.trans_le hwidth)⟩
      | _ => contradiction
  · rcases range?_of_mem_tailFields h with hwide | hnone
    · exact .inl hwide
    · rw [hnone] at hrange
      contradiction

/-! ## Texts -/

theorem isText_of_mem_tailFields (htail : m.FitsTail) {s : String}
    (h : (name, FieldValue.text s) ∈ m.tailFields) : SixBit.isText s = true := by
  cases m with
  | addressedSafetyMessage r =>
    obtain ⟨-, htext⟩ := Prod.mk.inj (List.mem_singleton.mp h)
    obtain rfl := FieldValue.text.inj htext
    exact SixBit.isText_of_forall_mem htail.2
  | safetyBroadcastMessage r =>
    obtain ⟨-, htext⟩ := Prod.mk.inj (List.mem_singleton.mp h)
    obtain rfl := FieldValue.text.inj htext
    exact SixBit.isText_of_forall_mem htail.2
  | aidToNavigationReport r =>
    obtain ⟨-, htext⟩ := Prod.mk.inj (List.mem_singleton.mp h)
    obtain rfl := FieldValue.text.inj htext
    exact SixBit.isText_of_forall_mem htail.2.1
  | _ => simp [tailFields, visit, WireRecord.tailFields] at h

/-- Every text that fits has characters of the alphabet only. -/
theorem isText_of_fits (hhead : m.FitsHead) (htail : m.FitsTail) {s : String}
    (h : (name, FieldValue.text s) ∈ m.toFields) : SixBit.isText s = true := by
  rw [toFields_eq_append, List.mem_append] at h
  rcases h with h | h
  · obtain ⟨⟨_, kind⟩, -, -, v, hv, hvalue⟩ := exists_of_mem_wireFields hhead h
    cases kind with
    | text chars =>
      obtain rfl : v = s := FieldValue.text.inj hvalue
      exact SixBit.isText_of_forall_mem hv.2.1
    | _ => contradiction
  · exact isText_of_mem_tailFields htail h

/-! ## Groups -/

/-- Of groups and sections that fit, only the stations can be out of range. -/
theorem field_of_mem_checkGroups (htail : m.FitsTail) {f : Finding} (h : f ∈ checkGroups m) :
    f.field = "mmsi2" ∨ ∃ i < maxGroups, f.field = s!"acks[{i}].mmsi" := by
  cases m with
  | binaryAcknowledge r =>
    obtain ⟨hone, hmax, hfits⟩ := htail
    have hcount : isGroupCount r.acks.length = true := isGroupCount_iff.mpr ⟨hone, hmax⟩
    rw [checkGroups, hcount, if_pos rfl, List.nil_append] at h
    obtain ⟨i, hi, hname⟩ := field_of_mem_checkAcknowledgements hfits h
    exact .inr ⟨i, by omega, hname⟩
  | dataLinkManagement r =>
    obtain ⟨hone, hmax, -⟩ := htail
    have hcount : isGroupCount r.reservations.length = true := isGroupCount_iff.mpr ⟨hone, hmax⟩
    rw [checkGroups, hcount, if_pos rfl] at h
    exact absurd h List.not_mem_nil
  | interrogation r =>
    cases hmmsi2 : r.mmsi2 with
    | none =>
      rw [checkGroups, hmmsi2] at h
      exact absurd h List.not_mem_nil
    | some mmsi2 =>
      -- A second station comes with a second request to the first one.
      cases htype12 : r.type12 with
      | none =>
        have hnone : r.FitsTail := htail
        rw [Interrogation.FitsTail, htype12, hmmsi2] at hnone
        exact hnone.elim
      | some type12 =>
        simp only [checkGroups, hmmsi2, htype12, Option.isSome_some, if_true, List.append_nil] at h
        exact .inl (field_of_mem_checkRange h)
  | _ => exact absurd h List.not_mem_nil

/-! ## Messages -/

/-- A finding on a canonical message bears a wide name, or the name of a station in a group. -/
theorem Canonical.field_of_mem_findings (hm : m.Canonical) {f : Finding} (h : f ∈ m.findings) :
    f.field ∈ wideNames ∨ ∃ i < maxGroups, f.field = s!"acks[{i}].mmsi" := by
  have htype : checkRange "message_type" m.messageType 1 27 = [] :=
    eq_nil_of_bounds (m.kind.bounds_of_mem_types hm.type)
  have hcarrier : checkCarrier m = [] := by
    rw [checkCarrier, if_pos (.inr hm.type)]
  rw [findings, htype, hcarrier, List.nil_append, List.nil_append] at h
  simp only [List.mem_append, List.mem_flatMap] at h
  rcases h with ((⟨⟨name, value⟩, hmem, hf⟩ | hf) | hf) | hf
  · left
    obtain ⟨hname, ⟨n, low, high, rfl, hrange, hout⟩ | ⟨s, rfl, htext⟩⟩ := of_mem_checkField hf
    · rcases bounds_of_fits hm.head hmem hrange with hwide | hbounds
      · rwa [hname]
      · exact absurd hbounds hout
    · rw [isText_of_fits hm.head hm.tail hmem] at htext
      contradiction
  · left
    obtain ⟨n, hn⟩ := exists_of_mem_checkNumber hf
    rw [field_of_mem_checkHeading hn]
    decide
  · left
    obtain ⟨n, hn⟩ := exists_of_mem_checkNumber hf
    rw [field_of_mem_checkFix hn]
    decide
  · rcases field_of_mem_checkGroups hm.tail hf with hname | hstation
    · left
      rw [hname]
      decide
    · exact .inr hstation

end Message

/-- No name of a station in a group is among the narrow names, and no wide name is. -/
theorem Validation.notMem_narrowNames {name : String}
    (h : name ∈ wideNames ∨ ∃ i < maxGroups, name = s!"acks[{i}].mmsi") : name ∉ narrowNames := by
  rcases h with hwide | ⟨i, hi, rfl⟩
  · have hall : ∀ name ∈ wideNames, name ∉ narrowNames := by decide
    exact hall name hwide
  · have hall : ∀ i < maxGroups, s!"acks[{i}].mmsi" ∉ narrowNames := by decide +kernel
    exact hall i hi

/-- Whatever was decoded, validation finds nothing wrong with it but the identity of a station, an
angle, a time, the special manoeuvre or the positioning device. Nothing is found about its type, its
texts, the groups and sections it has, and the numbers that fill the range of their fields. -/
theorem field_of_decode {text : String} {declared : Option Int} {m : Message}
    (h : decode text declared = .ok m) :
    ∀ f ∈ m.findings,
      (f.field ∈ wideNames ∨ ∃ i < maxGroups, f.field = s!"acks[{i}].mmsi") ∧
        f.field ∉ narrowNames := by
  obtain ⟨-, -, -, -, -, -, -, -, hcanonical⟩ := exists_of_decode h
  intro f hf
  have hname := hcanonical.field_of_mem_findings hf
  exact ⟨hname, notMem_narrowNames hname⟩

/-- The sender and the second station acknowledged are out of range, the numbers of the
acknowledgements are not. -/
theorem field_of_decode_binaryAcknowledge :
    let text := "7>qc:000`QH?wwwww0"
    let m : Message := .binaryAcknowledge
      { mmsi := 1000000000, acks := [⟨2655619, 3⟩, ⟨1073741823, 0⟩] }
    decode text (some 104) = .ok m ∧ m.findings.map (·.field) = ["mmsi", "acks[1].mmsi"] ∧
      ∀ f ∈ m.findings,
        (f.field ∈ wideNames ∨ ∃ i < maxGroups, f.field = s!"acks[{i}].mmsi") ∧
          f.field ∉ narrowNames := by
  intro text m
  have h : decode text (some 104) = .ok m := by decide +kernel
  have hnames : m.findings.map (·.field) = ["mmsi", "acks[1].mmsi"] := by decide +kernel
  exact ⟨h, hnames, field_of_decode h⟩

end AisStation
