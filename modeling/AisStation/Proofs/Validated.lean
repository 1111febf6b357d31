import AisStation.Validation
import AisStation.Proofs.Reception

/-!
# Validated messages

The ranges that records are validated against go by the names of their fields, the widths on the
wire by the class of the record. A number that validation lets through is received as it was sent,
with one exception: speed and course of a long-range broadcast stand in fields of their own width,
in whole knots and degrees, and the ranges are those of the other reports.
-/

namespace AisStation

namespace Validation

/-- Numbers of this name are checked, wherever they occur. -/
def IsChecked (name : String) : Prop :=
  (range? name).isSome ∨ name = "heading" ∨ name = "epfd"

/-- The least and the greatest number of this name that may pass the checks. -/
def bounds? (name : String) : Option (Int × Int) :=
  if name = "heading" then some (0, 511)
  else if name = "epfd" then some (0, 15)
  else range? name

theorem isSome_bounds? {name : String} (h : IsChecked name) : (bounds? name).isSome := by
  rw [bounds?]
  split
  · rfl
  · split
    · rfl
    · rcases h with h | h | h
      · exact h
      · contradiction
      · contradiction

theorem bounds_of_checkRange {name : String} {n low high : Int}
    (h : checkRange name n low high = []) : low ≤ n ∧ n ≤ high := by
  unfold checkRange at h
  split at h
  · contradiction
  · omega

theorem bounds_of_checkHeading {n : Int} (h : checkHeading n = []) : 0 ≤ n ∧ n ≤ 511 := by
  unfold checkHeading at h
  split at h
  · contradiction
  · omega

theorem bounds_of_checkFix {n : Int} (h : checkFix n = []) : 0 ≤ n ∧ n ≤ 15 := by
  unfold checkFix at h
  split at h
  · omega
  · contradiction

end Validation

open Validation

/-! ## Fields by name -/

/-- A name that stands in a layout has the value of its field, one that does not has none. -/
theorem Layout.lookup_kept (layout : Layout) (values : layout.Values) (name : String) :
    ((layout.toFields values).lookup name = none ∧
      (layout.toFields (layout.kept values)).lookup name = none) ∨
    ∃ field ∈ layout, field.name = name ∧ ∃ value,
      (layout.toFields values).lookup name = some (field.kind.toValue value) ∧
        (layout.toFields (layout.kept values)).lookup name =
          some (field.kind.toValue (field.kind.kept value)) := by
  induction layout with
  | nil => exact .inl ⟨rfl, rfl⟩
  | cons field layout ih =>
    obtain ⟨value, values⟩ := values
    rw [kept, toFields, toFields]
    by_cases hname : field.name = name
    · subst hname
      rw [List.lookup_cons_self, List.lookup_cons_self]
      exact .inr ⟨field, List.mem_cons_self, rfl, value, rfl, rfl⟩
    · have hne : (name == field.name) = false := beq_false_of_ne (Ne.symm hname)
      rw [List.lookup_cons, List.lookup_cons, hne]
      rcases ih values with hnone | ⟨field', hmem, hname', hvalue⟩
      · exact .inl hnone
      · exact .inr ⟨field', List.mem_cons_of_mem _ hmem, hname', hvalue⟩

/-- Every field whose numbers are checked holds all that pass, except for two of a long-range
broadcast. -/
theorem RecordKind.width_of_bounds? {kind : RecordKind} {field : Field} {low high : Int}
    (hfield : field ∈ kind.layout) (hbounds : bounds? field.name = some (low, high)) :
    0 ≤ low ∧ field.kind = .unsigned field.kind.width ∧ (high < 2 ^ field.kind.width ∨
      kind = .longRangeBroadcast ∧ (field.name = "sog" ∧ field.kind.width = 6 ∨
        field.name = "cog" ∧ field.kind.width = 9)) := by
  have hall : ∀ kind ∈ RecordKind.all, ∀ field ∈ kind.layout, ∀ b ∈ bounds? field.name,
      0 ≤ b.1 ∧ field.kind = .unsigned field.kind.width ∧ (b.2 < 2 ^ field.kind.width ∨
        kind = .longRangeBroadcast ∧ (field.name = "sog" ∧ field.kind.width = 6 ∨
          field.name = "cog" ∧ field.kind.width = 9)) := by decide +kernel
  exact hall kind kind.mem_all field hfield (low, high) hbounds

namespace Message

/-- The number of this name is one that a field of a long-range broadcast cannot hold: more than 63
knots, or a course above 511 degrees. -/
def ExceedsLongRange (m : Message) (name : String) : Prop :=
  match m with
  | longRangeBroadcast r => name = "sog" ∧ 63 < r.sog ∨ name = "cog" ∧ 511 < r.cog
  | _ => False

variable {m : Message} {name : String}

/-- The fields that are laid out come first. -/
theorem exists_toFields (m : Message) : ∃ tail, m.toFields = m.wireFields ++ tail := by
  obtain ⟨R, _, message, tailAt, r, h, rfl⟩ := m.exists_record
  rw [toFields, wireFields, h.visit_message, h.visit_message]
  exact ⟨WireRecord.tailFields r, rfl⟩

theorem lookup_keptFields (m : Message) (name : String) :
    (m.wireFields.lookup name = none ∧ m.keptFields.lookup name = none) ∨
    ∃ field ∈ m.kind.layout, field.name = name ∧ ∃ value,
      m.wireFields.lookup name = some (field.kind.toValue value) ∧
        m.keptFields.lookup name = some (field.kind.toValue (field.kind.kept value)) := by
  obtain ⟨R, _, message, tailAt, r, h, rfl⟩ := m.exists_record
  rw [wireFields, keptFields, h.visit_message, h.visit_message, RecordKind.layout, h.visit_kind]
  exact Layout.lookup_kept (WireRecord.layout R) (WireRecord.head r) name

/-- A number that was let through lies within the bounds of its name. -/
theorem bounds_of_findings (hvalid : m.findings = []) {n low high : Int}
    (hbounds : bounds? name = some (low, high))
    (hlookup : m.wireFields.lookup name = some (.number n)) : low ≤ n ∧ n ≤ high := by
  obtain ⟨tail, htail⟩ := m.exists_toFields
  have hfield : m.toFields.lookup name = some (.number n) := by
    rw [htail, List.lookup_append, hlookup, Option.some_or]
  simp only [findings, List.append_eq_nil_iff, List.flatMap_eq_nil_iff] at hvalid
  obtain ⟨⟨⟨⟨-, hfields⟩, hheading⟩, hfix⟩, -⟩ := hvalid
  rw [bounds?] at hbounds
  split at hbounds
  · rename_i hname
    obtain ⟨rfl, rfl⟩ := Prod.mk.inj (Option.some.inj hbounds)
    rw [checkNumber, ← hname, hfield] at hheading
    exact bounds_of_checkHeading hheading
  · split at hbounds
    · rename_i hname
      obtain ⟨rfl, rfl⟩ := Prod.mk.inj (Option.some.inj hbounds)
      rw [checkNumber, ← hname, hfield] at hfix
      exact bounds_of_checkFix hfix
    · obtain ⟨before, after, hsplit, -⟩ := List.lookup_eq_some_iff.mp hfield
      have hmem : (name, FieldValue.number n) ∈ m.toFields := by
        rw [hsplit]
        exact List.mem_append_right _ List.mem_cons_self
      have hcheck := hfields (name, .number n) hmem
      simp only [checkField, hbounds] at hcheck
      exact bounds_of_checkRange hcheck

theorem lookup_sog (r : LongRangeBroadcast) :
    (longRangeBroadcast r).wireFields.lookup "sog" = some (.number r.sog) ∧
      (longRangeBroadcast r).keptFields.lookup "sog" = some (.number (unsigned 6 r.sog)) :=
  ⟨rfl, rfl⟩

theorem lookup_cog (r : LongRangeBroadcast) :
    (longRangeBroadcast r).wireFields.lookup "cog" = some (.number r.cog) ∧
      (longRangeBroadcast r).keptFields.lookup "cog" = some (.number (unsigned 9 r.cog)) :=
  ⟨rfl, rfl⟩

/-- A number that was let through is kept by its field, if it is none of those that a long-range
broadcast cannot hold. -/
theorem lookup_keptFields_iff (hvalid : m.findings = []) (hname : IsChecked name) :
    m.keptFields.lookup name = m.wireFields.lookup name ↔ ¬m.ExceedsLongRange name := by
  by_cases hlong : ∃ r, m = longRangeBroadcast r ∧ (name = "sog" ∨ name = "cog")
  · obtain ⟨r, rfl, rfl | rfl⟩ := hlong
    · obtain ⟨hwire, hkept⟩ := lookup_sog r
      have hbounds := bounds_of_findings hvalid (rfl : bounds? "sog" = some (0, 1023)) hwire
      rw [hwire, hkept, Option.some_inj, FieldValue.number.injEq, Bits.unsigned_eq_self_iff]
      simp only [ExceedsLongRange, String.reduceEq, true_and, false_and, or_false]
      omega
    · obtain ⟨hwire, hkept⟩ := lookup_cog r
      have hbounds := bounds_of_findings hvalid (rfl : bounds? "cog" = some (0, 3600)) hwire
      rw [hwire, hkept, Option.some_inj, FieldValue.number.injEq, Bits.unsigned_eq_self_iff]
      simp only [ExceedsLongRange, String.reduceEq, true_and, false_and, false_or]
      omega
  · have hheld : ¬m.ExceedsLongRange name := by
      intro hexceeds
      cases m with
      | longRangeBroadcast r => exact hlong ⟨r, rfl, hexceeds.imp And.left And.left⟩
      | _ => exact hexceeds
    refine iff_of_true ?_ hheld
    obtain ⟨⟨low, high⟩, hbounds⟩ := Option.isSome_iff_exists.mp (isSome_bounds? hname)
    rcases m.lookup_keptFields name with ⟨hwire, hkept⟩ | ⟨⟨_, kind⟩, hfield, rfl, n, hwire, hkept⟩
    · rw [hwire, hkept]
    · obtain ⟨hlow, hkind, hwidth | ⟨hlrb, hnames⟩⟩ := RecordKind.width_of_bounds? hfield hbounds
      · cases kind with
        | unsigned width =>
          have hn := bounds_of_findings hvalid hbounds hwire
          have hself : unsigned width n = n :=
            Bits.unsigned_of_lt (hlow.trans hn.1) (hn.2.trans_lt hwidth)
          rw [hwire, hkept, FieldKind.kept, hself]
        | _ => contradiction
      · cases m with
        | longRangeBroadcast r => exact absurd ⟨r, rfl, hnames.imp And.left And.left⟩ hlong
        | _ => contradiction

/-- What is received of a record in which validation finds nothing has the same number in every
field that is checked, except for the speed and the course of a long-range broadcast: these are
received as they were sent only up to what their fields can hold. -/
theorem lookup_received_iff {m' : Message} {payload : Payload} (hvalid : m.findings = [])
    (hencode : encode m = .ok payload)
    (hdecode : decode payload.text (some payload.bitLength) = .ok m') (hname : IsChecked name) :
    m'.wireFields.lookup name = m.wireFields.lookup name ↔ ¬m.ExceedsLongRange name := by
  obtain ⟨bs, hbits, rfl, htype, hacc⟩ := encode_eq_ok hencode
  obtain ⟨-, rfl⟩ := (decode_armor_iff hbits htype hacc).mp hdecode
  rw [wireFields_messageAt hbits]
  exact lookup_keptFields_iff hvalid hname

/-- The course of a long-range broadcast is received, although a field that is not checked loses a
bit. -/
theorem lookup_received_longRangeBroadcast :
    let m : Message := .longRangeBroadcast { mmsi := 206914217, sog := 57, cog := 167, spare := 2 }
    let m' : Message := .longRangeBroadcast { mmsi := 206914217, sog := 57, cog := 167 }
    let payload : Payload := ⟨"K35E2bCn`>6bTLbL", 96⟩
    m.findings = [] ∧ encode m = .ok payload ∧
      decode payload.text (some payload.bitLength) = .ok m' ∧ IsChecked "cog" ∧
        (m'.wireFields.lookup "cog" = m.wireFields.lookup "cog" ↔ ¬m.ExceedsLongRange "cog") := by
  intro m m' payload
  have hvalid : m.findings = [] := by decide +kernel
  have hencode : encode m = .ok payload := by decide +kernel
  have hdecode : decode payload.text (some payload.bitLength) = .ok m' := by decide +kernel
  have hname : IsChecked "cog" := .inl rfl
  exact ⟨hvalid, hencode, hdecode, hname, lookup_received_iff hvalid hencode hdecode hname⟩

/-- A long-range broadcast of a hundred knots, in which validation finds nothing, is received as one
of thirty-six. -/
theorem not_received_longRangeBroadcast :
    let m : Message := .longRangeBroadcast { sog := 100 }
    m.findings = [] ∧ ∃ payload m', encode m = .ok payload ∧
      decode payload.text (some payload.bitLength) = .ok m' ∧
        m.wireFields.lookup "sog" = some (.number 100) ∧
          m'.wireFields.lookup "sog" = some (.number 36) := by
  intro m
  have hvalid : m.findings = [] := by decide +kernel
  have hencode : encode m = .ok ⟨"K000003n`>6bTBOt", 96⟩ := by decide +kernel
  have hdecode : decode "K000003n`>6bTBOt" (some 96) =
      .ok (.longRangeBroadcast { sog := 36 }) := by decide +kernel
  exact ⟨hvalid, _, _, hencode, hdecode, rfl, rfl⟩

end Message

end AisStation
