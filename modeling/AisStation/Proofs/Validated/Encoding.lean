import AisStation.Proofs.Validated

/-!
# Validated messages are encoded

Validation and encoding are defined apart: one goes by the names of the fields, the other by the
layouts. They agree as far as encoding can fail at all. A record in which validation finds nothing
has a type of its own, characters with codes and groups to send, so it is encoded unless its opaque
data are too long for a message; the length of data is not validated. Bare messages pass too, and
belong to no type. So a gateway that validates what it sends has no other encoding errors.
-/

namespace AisStation

open Validation WireRecord

/-! ## Texts -/

theorem SixBit.isText_iff {s : String} : isText s = true ↔ ∀ c ∈ s.toList, Coded c := by
  rw [isText, List.all_eq_true]
  refine forall₂_congr fun c _ => ?_
  rw [Coded, Option.isSome_iff_ne_none]

theorem Validation.coded_of_checkText {name s : String} (h : checkText name s = []) :
    ∀ c ∈ s.toList, SixBit.Coded c := by
  unfold checkText at h
  split at h
  · rename_i htext
    exact SixBit.isText_iff.mp htext
  · contradiction

/-- A text whose name has no range is checked for its characters. -/
theorem Validation.coded_of_checkField {name s : String} (hname : range? name = none)
    (h : checkField name (.text s) = []) : ∀ c ∈ s.toList, SixBit.Coded c := by
  simp only [checkField, hname] at h
  exact coded_of_checkText h

/-- The ranges are those of numbers: no text has the name of one. -/
theorem RecordKind.range?_of_text {kind : RecordKind} {field : Field} {chars : Nat}
    (hfield : field ∈ kind.layout) (htext : field.kind = .text chars) :
    range? field.name = none := by
  have hall : ∀ kind ∈ RecordKind.all, ∀ field ∈ kind.layout,
      field.kind = .text (field.kind.width / 6) → range? field.name = none := by decide +kernel
  have hwidth : chars = (FieldKind.text chars).width / 6 := by
    rw [FieldKind.width]
    omega
  refine hall kind kind.mem_all field hfield ?_
  rw [htext, ← hwidth]

/-- What is written of checked texts has codes. -/
theorem Layout.coded_of_checked {layout : Layout} {values : layout.Values}
    (hnames : ∀ field ∈ layout, ∀ chars, field.kind = .text chars → range? field.name = none)
    (h : ∀ entry ∈ layout.toFields values, checkField entry.1 entry.2 = []) :
    ∀ c ∈ layout.writtenText values, SixBit.Coded c := by
  induction layout with
  | nil => simp [writtenText]
  | cons field layout ih =>
    obtain ⟨value, values⟩ := values
    rw [toFields] at h
    obtain ⟨hfield, hfields⟩ := List.forall_mem_cons.mp h
    obtain ⟨hname, hothers⟩ := List.forall_mem_cons.mp hnames
    rw [writtenText, List.forall_mem_append]
    refine ⟨?_, ih hothers hfields⟩
    obtain ⟨name, kind⟩ := field
    cases kind with
    | text chars =>
      intro c hc
      exact coded_of_checkField (hname chars rfl) hfield c (List.mem_of_mem_take hc)
    | _ => simp [FieldKind.writtenText]

namespace Message

variable {m : Message}

/-- What validation has looked at in a record without findings. -/
structure Checked (m : Message) : Prop where
  type : 1 ≤ m.messageType ∧ m.messageType ≤ 27
  carrier : m.kind = .bareMessage ∨ m.messageType ∈ m.kind.types
  fields : ∀ entry ∈ m.toFields, checkField entry.1 entry.2 = []
  heading : checkNumber m.toFields "heading" checkHeading = []
  fix : checkNumber m.toFields "epfd" checkFix = []
  groups : checkGroups m = []

theorem types_eq_nil_iff {kind : RecordKind} : kind.types = [] ↔ kind = .bareMessage := by
  cases kind <;> simp [RecordKind.types]

theorem checked_of_findings (hvalid : m.findings = []) : m.Checked := by
  simp only [findings, List.append_eq_nil_iff, List.flatMap_eq_nil_iff] at hvalid
  obtain ⟨⟨⟨⟨⟨htype, hcarrier⟩, hfields⟩, hheading⟩, hfix⟩, hgroups⟩ := hvalid
  refine ⟨bounds_of_checkRange htype, ?_, hfields, hheading, hfix, hgroups⟩
  unfold checkCarrier at hcarrier
  split at hcarrier
  · rename_i h
    exact h.imp_left types_eq_nil_iff.mp
  · contradiction

/-- The fields of the head are among those that are checked. -/
theorem wireFields_subset (m : Message) : m.wireFields ⊆ m.toFields := by
  obtain ⟨tail, htail⟩ := m.exists_toFields
  rw [htail]
  exact List.subset_append_left _ _

theorem coded_tailText (h : m.Checked) : ∀ c ∈ m.tailText, SixBit.Coded c := by
  intro c hc
  have hfields := h.fields
  cases m with
  | addressedSafetyMessage r =>
    have hmem : ("text", FieldValue.text r.text) ∈ (addressedSafetyMessage r).toFields :=
      List.mem_append_right _ List.mem_cons_self
    exact coded_of_checkField rfl (hfields _ hmem) c (List.mem_of_mem_take hc)
  | safetyBroadcastMessage r =>
    have hmem : ("text", FieldValue.text r.text) ∈ (safetyBroadcastMessage r).toFields :=
      List.mem_append_right _ List.mem_cons_self
    exact coded_of_checkField rfl (hfields _ hmem) c (List.mem_of_mem_take hc)
  | aidToNavigationReport r =>
    have hmem : ("name_extension", FieldValue.text r.nameExtension) ∈
        (aidToNavigationReport r).toFields := List.mem_append_right _ List.mem_cons_self
    exact coded_of_checkField rfl (hfields _ hmem) c (List.mem_of_mem_take hc)
  | _ => exact absurd hc List.not_mem_nil

/-- Every character that is written of a record without findings has a code. -/
theorem coded_writtenText (h : m.Checked) : ∀ c ∈ m.writtenText, SixBit.Coded c := by
  rw [writtenText, List.forall_mem_append]
  refine ⟨?_, coded_tailText h⟩
  have hfields := fun entry hentry => h.fields entry (m.wireFields_subset hentry)
  have hnames := fun field hfield chars => @RecordKind.range?_of_text m.kind field chars hfield
  obtain ⟨R, _, message, tailAt, r, hrep, rfl⟩ := m.exists_record
  rw [wireFields, hrep.visit_message] at hfields
  rw [RecordKind.layout, hrep.visit_kind] at hnames
  rw [hrep.visit_message]
  exact Layout.coded_of_checked hnames hfields

end Message

/-! ## Lengths -/

/-- The greatest length. -/
def Lengths.greatest : Lengths → Nat
  | exactly lengths => lengths.foldr max 0
  | between _ greatest => greatest

namespace Message

variable {m : Message}

/-- The opaque data of a binary message. -/
def data? : Message → Option Blob
  | addressedBinaryMessage r => some r.data
  | binaryBroadcastMessage r => some r.data
  | dgnssBroadcast r => some r.data
  | singleSlotBinaryMessage r => some r.data
  | multipleSlotBinaryMessage r => some r.data
  | _ => none

/-- The message carries opaque data, and with them it is longer than a message of its kind. -/
def Oversize (m : Message) : Prop :=
  m.data?.isSome ∧ m.kind.lengths.greatest < m.sentLength

instance (m : Message) : Decidable m.Oversize :=
  inferInstanceAs (Decidable (_ ∧ _))

theorem isGroupCount_iff {n : Nat} : isGroupCount n = true ↔ 1 ≤ n ∧ n ≤ maxGroups := by
  rw [isGroupCount, Bool.and_eq_true, decide_eq_true_iff, decide_eq_true_iff]

/-- Groups were counted: there is one to send. -/
theorem ne_nil_of_checkGroups {α : Type} {groups : List α} {finding : Finding}
    (h : (if isGroupCount groups.length then [] else [finding]) = []) : groups ≠ [] := by
  split at h
  · rename_i hcount
    have hone := (isGroupCount_iff.mp hcount).1
    exact List.ne_nil_of_length_pos hone
  · contradiction

/-- After validation a message of a wrong length is one with too many data. -/
theorem misfits_iff_oversize (h : m.Checked) : m.Misfits ↔ m.Oversize := by
  have hgroups := h.groups
  cases m with
  | addressedBinaryMessage r => exact ⟨fun hlong => ⟨rfl, hlong⟩, And.right⟩
  | binaryBroadcastMessage r => exact ⟨fun hlong => ⟨rfl, hlong⟩, And.right⟩
  | dgnssBroadcast r => exact ⟨fun hlong => ⟨rfl, hlong⟩, And.right⟩
  | singleSlotBinaryMessage r =>
    rw [Oversize, sentLength_singleSlotBinaryMessage]
    exact ⟨fun hlong => ⟨rfl, hlong⟩, And.right⟩
  | multipleSlotBinaryMessage r =>
    rw [Oversize, sentLength_multipleSlotBinaryMessage]
    exact ⟨fun hlong => ⟨rfl, hlong⟩, And.right⟩
  | binaryAcknowledge r =>
    have hsome := ne_nil_of_checkGroups (List.append_eq_nil_iff.mp hgroups).1
    exact iff_of_false hsome fun hover => Bool.false_ne_true hover.1
  | dataLinkManagement r =>
    have hsome := ne_nil_of_checkGroups hgroups
    exact iff_of_false hsome fun hover => Bool.false_ne_true hover.1
  | _ => exact iff_of_false id fun hover => Bool.false_ne_true hover.1

/-! ## Encoding -/

theorem encode_of_checked (h : m.Checked) :
    (m.kind = .bareMessage → encode m = .error (.wrongCarrier m.kind m.messageType)) ∧
    (m.kind ≠ .bareMessage → m.Oversize →
      encode m = .error (.codec (.wrongLength m.messageType m.sentLength m.kind.lengths))) ∧
    (m.kind ≠ .bareMessage → ¬m.Oversize →
      ∃ payload, encode m = .ok payload ∧ payload.bitLength = m.sentLength) := by
  obtain ⟨bs, hbits⟩ := m.bits_ok_iff.mpr (coded_writtenText h)
  have hlen := length_bits hbits
  have htype (hkind : m.kind ≠ .bareMessage) : m.messageType ∈ m.kind.types :=
    h.carrier.resolve_left hkind
  have hacc (hkind : m.kind ≠ .bareMessage) :
      m.kind.lengths.accepts bs.length = true ↔ ¬m.Oversize := by
    rw [hlen, accepts_sentLength (htype hkind), misfits_iff_oversize h]
  refine ⟨fun hkind => ?_, fun hkind hover => ?_, fun hkind hover => ?_⟩
  · cases hc : Carrier.ofType? m.messageType with
    | none =>
      have hbounds := h.type
      have hnone := Carrier.ofType?_eq_none_iff.mp hc
      omega
    | some carrier =>
      have hforeign : m.messageType ∉ m.kind.types := by
        rw [types_eq_nil_iff.mpr hkind]
        exact List.not_mem_nil
      exact encode_wrongCarrier hc hforeign
  · rw [encode_wrongLength (htype hkind) hbits fun hok => (hacc hkind).mp hok hover, hlen]
  · refine ⟨Armor.encode bs, encode_ok (htype hkind) hbits ((hacc hkind).mpr hover), ?_⟩
    rw [Armor.bitLength_encode, hlen]

end Message

end AisStation
