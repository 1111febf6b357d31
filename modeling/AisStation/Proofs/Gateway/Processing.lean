import AisStation.Proofs.Accounting
import AisStation.Proofs.Gateway.Sending
import AisStation.Proofs.Sentence.Grammar
import AisStation.Proofs.Validated.Decoded

/-!
# No exception escapes from a line

A line is parsed, decoded and validated, and each of these may raise exceptions. Those of parsing
and decoding are caught, with one exception: a number that is too long to be told. But the declared
length of a sentence is never out of place, and a message that was decoded holds no number that is
wider than its field. So every line has an outcome, and processing lines always returns.
-/

namespace AisStation

open Text Validation

/-! ## Decoded messages can be reported -/

theorem isWritable_of_fitsUnsigned {width : Nat} {n : Int} (h : FitsUnsigned width n)
    (hwidth : width ≤ 58) : IsWritable n := by
  have hpow : (2 : Int) ^ width ≤ 2 ^ 58 := pow_le_pow_right₀ (by decide) hwidth
  obtain ⟨hlow, hhigh⟩ := h
  exact isWritable_of_lt (by omega)

theorem isWritable_of_fitsSigned {width : Nat} {n : Int} (h : FitsSigned width n)
    (hwidth : width ≤ 58) : IsWritable n := by
  have hpow : (2 : Int) ^ (width - 1) ≤ 2 ^ 58 :=
    pow_le_pow_right₀ (by decide) (by omega)
  obtain ⟨hlow, hhigh⟩ := h
  exact isWritable_of_lt (by omega)

/-- The fields of numbers are narrow. -/
def FieldKind.IsNarrow : FieldKind → Prop
  | unsigned width | signed width | spare width => width ≤ 58
  | _ => True

instance : (kind : FieldKind) → Decidable kind.IsNarrow
  | .unsigned _ | .signed _ | .spare _ => inferInstanceAs (Decidable (_ ≤ _))
  | .flag | .text _ | .position _ => inferInstanceAs (Decidable True)

theorem RecordKind.isNarrow {kind : RecordKind} {field : Field} (h : field ∈ kind.layout) :
    field.kind.IsNarrow := by
  have hall : ∀ kind ∈ RecordKind.all, ∀ field ∈ kind.layout, field.kind.IsNarrow := by
    decide +kernel
  exact hall kind kind.mem_all field h

/-! ## Numbers of findings -/

namespace Validation

variable {name : String} {n k : Int} {f : Finding}

theorem number_of_mem_ite {p : Prop} [Decidable p] {g : Finding} (h : f ∈ if p then [g] else [])
    (hk : k ∈ f.problem.number?) : k ∈ g.problem.number? := by
  split at h
  · exact List.mem_singleton.mp h ▸ hk
  · exact absurd h List.not_mem_nil

theorem number_of_mem_checkRange {low high : Int} (h : f ∈ checkRange name n low high)
    (hk : k ∈ f.problem.number?) : k = n :=
  (Option.some.inj (number_of_mem_ite h hk)).symm

theorem number_of_mem_checkHeading (h : f ∈ checkHeading n) (hk : k ∈ f.problem.number?) :
    k = n :=
  (Option.some.inj (number_of_mem_ite h hk)).symm

theorem number_of_mem_checkFix (h : f ∈ checkFix n) (hk : k ∈ f.problem.number?) : k = n := by
  rw [checkFix, ← ite_not] at h
  exact (Option.some.inj (number_of_mem_ite h hk)).symm

/-- Of a field a finding tells the number, and only if its name has a range. -/
theorem number_of_mem_checkField {value : FieldValue} (h : f ∈ checkField name value)
    (hk : k ∈ f.problem.number?) : value = .number k ∧ (range? name).isSome = true := by
  unfold checkField at h
  split at h
  · rename_i low high n hrange
    rw [number_of_mem_checkRange h hk, hrange]
    exact ⟨rfl, rfl⟩
  · unfold checkText at h
    split at h
    · exact absurd h List.not_mem_nil
    · rw [List.mem_singleton.mp h] at hk
      exact absurd hk (Option.not_mem_none k)
  · exact absurd h List.not_mem_nil

theorem mem_of_mem_checkNumber {fields : Fields} {check : Int → List Finding}
    (h : f ∈ checkNumber fields name check) :
    ∃ n, (name, FieldValue.number n) ∈ fields ∧ f ∈ check n := by
  unfold checkNumber at h
  split at h
  · rename_i n hlookup
    obtain ⟨before, after, hsplit, -⟩ := List.lookup_eq_some_iff.mp hlookup
    refine ⟨n, ?_, h⟩
    rw [hsplit]
    exact List.mem_append_right _ List.mem_cons_self
  · exact absurd h List.not_mem_nil

/-- Of acknowledgements that fit, a finding tells a number that can be written. -/
theorem isWritable_of_mem_checkAcknowledgements {acks : List Acknowledgement}
    (hfits : ∀ ack ∈ acks, ack.Fits) {index : Nat} (h : f ∈ checkAcknowledgements index acks)
    (hk : k ∈ f.problem.number?) : IsWritable k := by
  induction acks generalizing index with
  | nil => exact absurd h List.not_mem_nil
  | cons ack acks ih =>
    obtain ⟨hack, hacks⟩ := List.forall_mem_cons.mp hfits
    rw [checkAcknowledgements, List.mem_append, List.mem_append] at h
    rcases h with (h | h) | h
    · rw [number_of_mem_checkRange h hk]
      exact isWritable_of_fitsUnsigned hack.1 (by decide)
    · rw [number_of_mem_checkRange h hk]
      exact isWritable_of_fitsUnsigned hack.2 (by decide)
    · exact ih hacks h

end Validation

namespace Message

variable {m : Message} {name : String} {n : Int}

theorem isWritable_of_mem_wireFields (hhead : m.FitsHead)
    (h : (name, FieldValue.number n) ∈ m.wireFields) : IsWritable n := by
  obtain ⟨field, hfield, -, v, hv, hvalue⟩ := exists_of_mem_wireFields hhead h
  have hnarrow := RecordKind.isNarrow hfield
  obtain ⟨fieldName, kind⟩ := field
  cases kind with
  | unsigned width =>
    obtain rfl : v = n := FieldValue.number.inj hvalue
    exact isWritable_of_fitsUnsigned hv hnarrow
  | spare width =>
    obtain rfl : v = n := FieldValue.number.inj hvalue
    exact isWritable_of_fitsUnsigned hv hnarrow
  | signed width =>
    obtain rfl : v = n := FieldValue.number.inj hvalue
    exact isWritable_of_fitsSigned hv hnarrow
  | _ => contradiction

/-- Only three kinds of messages have numbers with a range in their tails. -/
theorem kind_of_mem_tailFields {value : FieldValue} (hrange : (range? name).isSome = true)
    (h : (name, value) ∈ m.tailFields) :
    m.kind ∈ [.channelManagement, .singleSlotBinaryMessage, .multipleSlotBinaryMessage] := by
  have hall : ∀ kind ∈ RecordKind.all, ∀ name ∈ kind.blank.tailFields.map Prod.fst,
      (range? name).isSome = true → kind ∈ [RecordKind.channelManagement,
        .singleSlotBinaryMessage, .multipleSlotBinaryMessage] := by decide +kernel
  have hname : name ∈ m.tailFields.map Prod.fst := List.mem_map_of_mem h
  rw [map_fst_tailFields] at hname
  exact hall m.kind m.kind.mem_all name hname hrange

/-- Numbers of a tail that have a range are stations, and these fit 30 bits where there are any. -/
theorem isWritable_of_mem_tailFields (htail : m.FitsTail) (hrange : (range? name).isSome = true)
    (h : (name, FieldValue.number n) ∈ m.tailFields) : IsWritable n := by
  have hkind := kind_of_mem_tailFields hrange h
  have hstation {b : Bool} {k : Int} (hk : if b then FitsUnsigned 30 k else k = 0) :
      IsWritable k := by
    cases b with
    | true => exact isWritable_of_fitsUnsigned hk (by decide)
    | false => exact hk ▸ isWritable_of_lt (by decide)
  cases m with
  | singleSlotBinaryMessage r =>
    simp only [tailFields, visit, WireRecord.tailFields, List.mem_cons, Prod.mk.injEq, reduceCtorEq,
      FieldValue.number.injEq, and_false, List.not_mem_nil, or_false, or_self] at h
    rcases h with ⟨rfl, rfl⟩ | ⟨rfl, rfl⟩ | ⟨rfl, rfl⟩
    · exact hstation htail.1.destMmsi
    · contradiction
    · contradiction
  | multipleSlotBinaryMessage r =>
    simp only [tailFields, visit, WireRecord.tailFields, List.mem_cons, Prod.mk.injEq, reduceCtorEq,
      FieldValue.number.injEq, and_false, List.not_mem_nil, or_false, false_or] at h
    rcases h with ⟨rfl, rfl⟩ | ⟨rfl, rfl⟩ | ⟨rfl, rfl⟩ | ⟨rfl, rfl⟩
    · exact hstation htail.1.destMmsi
    · contradiction
    · contradiction
    · contradiction
  | channelManagement r =>
    have hfirst : if r.addressed then FitsUnsigned 30 r.destMmsiA else r.destMmsiA = 0 := by
      have harea := htail.area
      split at harea
      · rw [if_pos ‹_›]
        exact harea.destMmsiA
      · rw [if_neg ‹_›]
        exact harea.destMmsiA
    simp only [tailFields, visit, WireRecord.tailFields, List.mem_cons, Prod.mk.injEq, reduceCtorEq,
      FieldValue.number.injEq, and_false, List.not_mem_nil, or_false, false_or] at h
    rcases h with ⟨rfl, rfl⟩ | ⟨rfl, rfl⟩ | ⟨rfl, rfl⟩ | ⟨rfl, rfl⟩ | ⟨rfl, rfl⟩ | ⟨rfl, rfl⟩
    · exact hstation hfirst
    all_goals contradiction
  | _ => contradiction

theorem isWritable_of_mem_checkGroups (htail : m.FitsTail) {f : Finding} (h : f ∈ checkGroups m)
    (hn : n ∈ f.problem.number?) : IsWritable n := by
  cases m with
  | binaryAcknowledge r =>
    obtain ⟨hone, hmax, hfits⟩ := htail
    have hcount : isGroupCount r.acks.length = true := isGroupCount_iff.mpr ⟨hone, hmax⟩
    rw [checkGroups, hcount, if_pos rfl, List.nil_append] at h
    exact isWritable_of_mem_checkAcknowledgements hfits h hn
  | dataLinkManagement r =>
    obtain ⟨hone, hmax, -⟩ := htail
    have hcount : isGroupCount r.reservations.length = true := isGroupCount_iff.mpr ⟨hone, hmax⟩
    rw [checkGroups, hcount, if_pos rfl] at h
    exact absurd h List.not_mem_nil
  | interrogation r =>
    have hfits : r.FitsTail := htail
    rw [Interrogation.FitsTail] at hfits
    split at hfits
    · rename_i htype12 hmmsi2
      rw [checkGroups, hmmsi2] at h
      exact absurd h List.not_mem_nil
    · rename_i htype12 hmmsi2
      rw [checkGroups, hmmsi2] at h
      exact absurd h List.not_mem_nil
    · rename_i htype12 hmmsi2
      simp only [checkGroups, hmmsi2, htype12, Option.isSome_some, if_true, List.append_nil] at h
      rw [number_of_mem_checkRange h hn]
      exact isWritable_of_fitsUnsigned hfits.2.mmsi2 (by decide)
    · exact hfits.elim
  | _ => exact absurd h List.not_mem_nil

/-- The names of the numbers that are checked apart from their range are names of heads. -/
theorem mem_wireFields_of_name {value : FieldValue} (hname : name = "heading" ∨ name = "epfd")
    (h : (name, value) ∈ m.toFields) : (name, value) ∈ m.wireFields := by
  rw [toFields_eq_append, List.mem_append] at h
  refine h.resolve_right fun htail => ?_
  have hall : ∀ kind ∈ RecordKind.all, ∀ name ∈ kind.blank.tailFields.map Prod.fst,
      ¬(name = "heading" ∨ name = "epfd") := by decide +kernel
  have hmem : name ∈ m.tailFields.map Prod.fst := List.mem_map_of_mem htail
  rw [map_fst_tailFields] at hmem
  exact hall m.kind m.kind.mem_all name hmem hname

/-- Whatever validation finds wrong with a canonical message, it can tell. -/
theorem Canonical.isReportable (hm : m.Canonical) : m.IsReportable := by
  intro f h n hn
  have htype : checkRange "message_type" m.messageType 1 27 = [] :=
    eq_nil_of_bounds (m.kind.bounds_of_mem_types hm.type)
  have hcarrier : checkCarrier m = [] := by
    rw [checkCarrier, if_pos (.inr hm.type)]
  rw [findings, htype, hcarrier, List.nil_append, List.nil_append] at h
  simp only [List.mem_append, List.mem_flatMap] at h
  rcases h with ((⟨⟨name, value⟩, hmem, hf⟩ | hf) | hf) | hf
  · obtain ⟨rfl, hrange⟩ := number_of_mem_checkField hf hn
    rw [toFields_eq_append, List.mem_append] at hmem
    rcases hmem with hmem | hmem
    · exact isWritable_of_mem_wireFields hm.head hmem
    · exact isWritable_of_mem_tailFields hm.tail hrange hmem
  · obtain ⟨k, hk, hf⟩ := mem_of_mem_checkNumber hf
    rw [number_of_mem_checkHeading hf hn]
    exact isWritable_of_mem_wireFields hm.head (mem_wireFields_of_name (.inl rfl) hk)
  · obtain ⟨k, hk, hf⟩ := mem_of_mem_checkNumber hf
    rw [number_of_mem_checkFix hf hn]
    exact isWritable_of_mem_wireFields hm.head (mem_wireFields_of_name (.inr rfl) hk)
  · exact isWritable_of_mem_checkGroups hm.tail hf hn

end Message

/-! ## Lines -/

/-- The declared length of a sentence is never out of place. -/
theorem Sentence.not_untold {line : String} {s : Sentence} (h : parse line = .ok s) :
    ¬Untold s.payload (some s.bitLength) := by
  obtain ⟨f, high, low, -, -, hwrite⟩ := parseTrimmed_eq_ok_iff_isWritten.mp h
  obtain ⟨hnonneg, hle⟩ := hwrite.bitLength_mem
  rintro ⟨-, houtside, -⟩
  rw [Option.getD_some] at houtside
  omega

/-- Every line has an outcome: what its steps raise, the gateway catches. -/
theorem GatewayConfig.attempt_eq (config : GatewayConfig) (line : String) :
    config.attempt line = .ok (config.receive line) := by
  rw [attempt, takeIn, receive]
  cases hparse : Sentence.parse line with
  | error e => rfl
  | ok s =>
    simp only [Except.mapError, bind, Except.bind]
    split
    · rfl
    · split
      · rfl
      · rw [decode_eq_of_told (Sentence.not_untold hparse)]
        cases hresult : Decode.result s.payload (some s.bitLength) with
        | error e => rfl
        | ok m =>
          obtain ⟨-, -, -, -, -, -, -, -, hcanonical⟩ :=
            exists_of_decode (decode_eq_ok_iff_result.mpr hresult)
          obtain ⟨reports, hreports, hempty⟩ := Message.validate_ok hcanonical.isReportable
          have hvalid : m.isValid = reports.isEmpty := by
            rw [Bool.eq_iff_iff, hempty, Message.isValid, List.isEmpty_iff]
          simp only [Except.mapError, hreports, hvalid]
          cases config.validateInbound <;> cases reports.isEmpty <;> rfl

namespace Gateway

theorem tryLine_eq (g : Gateway) (line : String) :
    g.tryLine line = (.ok (g.processLine line).1, (g.processLine line).2) := by
  rw [tryLine, GatewayConfig.attempt_eq]
  rfl

/-- Processing lines returns the records of all of them. -/
theorem tryLines_eq (g : Gateway) (lines : List String) :
    g.tryLines lines = (.ok (g.processLines lines).1, (g.processLines lines).2) := by
  induction lines generalizing g with
  | nil => rfl
  | cons line lines ih =>
    rw [tryLines, processLines]
    split
    · exact ih g
    · rw [tryLine_eq]
      simp only [ih]
      rfl

end Gateway

end AisStation
