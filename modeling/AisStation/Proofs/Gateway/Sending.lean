import AisStation.Gateway.Basic
import AisStation.Proofs.Validated

/-!
# What becomes of a record to be sent

A gateway that is given a record validates it, if it is configured to, and encodes it. Validation
raises an exception if it finds fault with a number that is too long to be told; encoding raises one
for every failure, and the gateway catches all of these but the one for a type that is too long to
be told. So a record has an outcome unless it holds such a number.
-/

namespace AisStation

open Text

/-! ## Reports -/

/-- The number that the wording of a problem repeats. -/
def Problem.number? : Problem → Option Int
  | outOfRange value _ _ | undefinedHeading value | undefinedFix value => some value
  | wrongCarrier _ messageType => some messageType
  | _ => none

/-- A finding is reported if its number can be written. -/
theorem Finding.report_cases (f : Finding) :
    ((∀ n ∈ f.problem.number?, IsWritable n) ∧ ∃ r, f.report = .ok r) ∨
      ((∃ n ∈ f.problem.number?, ¬IsWritable n) ∧ f.report = .error .tooManyDigits) := by
  obtain ⟨field, problem⟩ := f
  have hnumber {n : Int} {g : String → String} (hmessage : message ⟨field, problem⟩ =
      (decimal n).map g) (hn : problem.number? = some n) :
      ((∀ n ∈ problem.number?, IsWritable n) ∧ ∃ r, report ⟨field, problem⟩ = .ok r) ∨
        ((∃ n ∈ problem.number?, ¬IsWritable n) ∧
          report ⟨field, problem⟩ = .error .tooManyDigits) := by
    by_cases h : IsWritable n
    · left
      rw [report, hmessage, decimal_of_isWritable h, hn]
      exact ⟨fun _ heq => Option.some.inj heq ▸ h, _, rfl⟩
    · right
      rw [report, hmessage, decimal_of_not_isWritable h, hn]
      exact ⟨⟨n, rfl, h⟩, rfl⟩
  cases problem with
  | outOfRange value low high => exact hnumber rfl rfl
  | undefinedHeading value => exact hnumber rfl rfl
  | undefinedFix value => exact hnumber rfl rfl
  | wrongCarrier kind messageType => exact hnumber rfl rfl
  | _ => exact .inl ⟨fun _ h => absurd h (Option.not_mem_none _), _, rfl⟩

namespace Message

/-- Every number that validation finds fault with can be written. -/
def IsReportable (m : Message) : Prop :=
  ∀ f ∈ m.findings, ∀ n ∈ f.problem.number?, IsWritable n

instance (m : Message) : Decidable m.IsReportable :=
  inferInstanceAs (Decidable (∀ f ∈ m.findings, _))

variable {m : Message}

/-- Findings are reported one for one, up to the first that cannot be. -/
theorem mapM_report (findings : List Finding) :
    ((∀ f ∈ findings, ∀ n ∈ f.problem.number?, IsWritable n) ∧ ∃ reports,
        findings.mapM Finding.report = .ok reports ∧ reports.length = findings.length) ∨
      ((∃ f ∈ findings, ∃ n ∈ f.problem.number?, ¬IsWritable n) ∧
        findings.mapM Finding.report = .error .tooManyDigits) := by
  induction findings with
  | nil => exact .inl ⟨by simp, [], rfl, rfl⟩
  | cons f findings ih =>
    rw [List.mapM_cons]
    rcases f.report_cases with ⟨hf, r, hr⟩ | ⟨hf, hr⟩
    · rw [hr]
      rcases ih with ⟨hall, reports, hreports, hlength⟩ | ⟨hsome, herror⟩
      · refine .inl ⟨List.forall_mem_cons.mpr ⟨hf, hall⟩, r :: reports, ?_, ?_⟩
        · rw [hreports]
          rfl
        · rw [List.length_cons, List.length_cons, hlength]
      · refine .inr ⟨?_, by rw [herror]; rfl⟩
        obtain ⟨g, hg, hn⟩ := hsome
        exact ⟨g, List.mem_cons_of_mem _ hg, hn⟩
    · exact .inr ⟨⟨f, List.mem_cons_self, hf⟩, by rw [hr]; rfl⟩

/-- What can be reported is, and there are reports exactly if there are findings. -/
theorem validate_ok (h : m.IsReportable) :
    ∃ reports, m.validate = .ok reports ∧ (reports.isEmpty = true ↔ m.findings = []) := by
  rcases mapM_report m.findings with ⟨-, reports, hreports, hlength⟩ | ⟨⟨f, hf, n, hn, hlong⟩, -⟩
  · refine ⟨reports, hreports, ?_⟩
    rw [List.isEmpty_iff, ← List.length_eq_zero_iff, hlength, List.length_eq_zero_iff]
  · exact absurd (h f hf n hn) hlong

theorem validate_error (h : ¬m.IsReportable) : m.validate = .error .tooManyDigits := by
  rcases mapM_report m.findings with ⟨hall, -⟩ | ⟨-, herror⟩
  · exact absurd hall h
  · exact herror

theorem isReportable_of_findings (h : m.findings = []) : m.IsReportable := by
  intro f hf
  rw [h] at hf
  exact absurd hf List.not_mem_nil

end Message

/-! ## Outcomes -/

namespace GatewayConfig

variable {config : GatewayConfig} {m : Message} {channel : Option String}

/-- A record passes validation, or there is none. -/
def Passes (config : GatewayConfig) (m : Message) : Prop :=
  config.validateOutbound = true → m.findings = []

/-- What sending a record can come to. -/
inductive Sending (config : GatewayConfig) (m : Message) (channel : Option String) :
    Except Exception Outbound → Prop
  | unreportable (hvalidate : config.validateOutbound = true) (hlong : ¬m.IsReportable) :
    Sending config m channel (.error .unwritable)
  | invalid (hvalidate : config.validateOutbound = true) (htold : m.IsReportable)
      (hfindings : m.findings ≠ []) : Sending config m channel (.ok .invalid)
  | overlong (hpasses : config.Passes m) (hlong : ¬IsWritable m.messageType) :
    Sending config m channel (.error .unwritable)
  | encodeError (hpasses : config.Passes m) {error : EncodeError} (hne : error ≠ .unwritable)
      (hencode : encode m = .error error) :
    Sending config m channel (.ok (.encodeError error))
  | encoded (hpasses : config.Passes m) {payload : Payload} (hencode : encode m = .ok payload) :
    Sending config m channel (.ok (.encoded
      (Sentence.build payload (config.effectiveChannel channel) config.talker .vdm)))

/-- A record that passes is encoded, and the gateway catches what it can of what encoding raises. -/
theorem send_of_passes (h : config.Passes m) (channel : Option String) :
    config.send m channel = Exception.handle Outbound.ofException?
      ((encode m).mapError .ofEncode >>= fun payload => .ok (.encoded
        (Sentence.build payload (config.effectiveChannel channel) config.talker .vdm))) := by
  rw [send, giveOut]
  by_cases hvalidate : config.validateOutbound = true
  · obtain ⟨reports, hreports, hempty⟩ :=
      Message.validate_ok (Message.isReportable_of_findings (h hvalidate))
    rw [if_pos hvalidate, hreports]
    simp [Except.mapError, bind, Except.bind, pure, Except.pure, hempty.mpr (h hvalidate)]
  · rw [if_neg hvalidate]
    simp [bind, Except.bind, pure, Except.pure]

theorem sending (config : GatewayConfig) (m : Message) (channel : Option String) :
    Sending config m channel (config.send m channel) := by
  by_cases hpasses : config.Passes m
  · rw [send_of_passes hpasses]
    cases hencode : encode m with
    | ok payload => exact .encoded hpasses hencode
    | error error => cases error with
      | unwritable => exact .overlong hpasses (encode_eq_unwritable_iff.mp hencode)
      | codec error => exact .encodeError hpasses EncodeError.noConfusion hencode
      | wrongCarrier kind messageType =>
        exact .encodeError hpasses EncodeError.noConfusion hencode
  · obtain ⟨hvalidate, hfindings⟩ := Classical.not_imp.mp hpasses
    rw [send, giveOut, if_pos hvalidate]
    by_cases htold : m.IsReportable
    · obtain ⟨reports, hreports, hempty⟩ := Message.validate_ok htold
      rw [hreports]
      have hsome : reports.isEmpty = false := Bool.eq_false_iff.mpr (mt hempty.mp hfindings)
      simp only [Except.mapError, bind, Except.bind, hsome]
      exact .invalid hvalidate htold hfindings
    · rw [Message.validate_error htold]
      exact .unreportable hvalidate htold

theorem send_eq_encoded {line : String} (h : config.send m channel = .ok (.encoded line)) :
    ∃ payload, encode m = .ok payload ∧
      line = Sentence.build payload (config.effectiveChannel channel) config.talker .vdm := by
  have hsending := config.sending m channel
  rw [h] at hsending
  cases hsending with
  | encoded hpasses hencode => exact ⟨_, hencode, rfl⟩

/-- A number that the gateway would have to tell is too long: one that validation finds fault with,
or, without validation, the type. -/
def Overlong (config : GatewayConfig) (m : Message) : Prop :=
  if config.validateOutbound then ¬m.IsReportable else ¬IsWritable m.messageType

instance (config : GatewayConfig) (m : Message) : Decidable (config.Overlong m) :=
  inferInstanceAs (Decidable (ite ..))

/-- A record that passes has a type that can be told, unless it was not validated. -/
theorem overlong_iff_of_passes (h : config.Passes m) :
    config.Overlong m ↔ ¬IsWritable m.messageType := by
  rw [Overlong]
  split
  · rename_i hvalidate
    have hfindings := h hvalidate
    have htold : IsWritable m.messageType := by
      simp only [Message.findings, List.append_eq_nil_iff] at hfindings
      obtain ⟨⟨⟨⟨⟨htype, -⟩, -⟩, -⟩, -⟩, -⟩ := hfindings
      have hbounds := Validation.bounds_of_checkRange htype
      exact isWritable_of_lt (by omega)
    exact iff_of_false (not_not.mpr (Message.isReportable_of_findings hfindings))
      (not_not.mpr htold)
  · exact Iff.rfl

/-- Sending a record raises an exception if it holds a number that is too long to be told. -/
theorem send_overlong (h : config.Overlong m) (channel : Option String) :
    config.send m channel = .error .unwritable := by
  have hsending := config.sending m channel
  generalize config.send m channel = result at hsending ⊢
  cases hsending with
  | unreportable hvalidate hlong => rfl
  | overlong hpasses hlong => rfl
  | invalid hvalidate htold hfindings =>
    rw [Overlong, if_pos hvalidate] at h
    exact absurd htold h
  | encodeError hpasses hne hencode =>
    exact absurd (encode_overlong ((overlong_iff_of_passes hpasses).mp h))
      (hencode ▸ fun herror => hne (Except.error.inj herror))
  | encoded hpasses hencode =>
    rw [encode_overlong ((overlong_iff_of_passes hpasses).mp h)] at hencode
    contradiction

/-- Any other record has an outcome. -/
theorem exists_send_ok (h : ¬config.Overlong m) (channel : Option String) :
    ∃ outcome, config.send m channel = .ok outcome := by
  have hsending := config.sending m channel
  generalize config.send m channel = result at hsending ⊢
  cases hsending with
  | unreportable hvalidate hlong =>
    rw [Overlong, if_pos hvalidate] at h
    exact absurd hlong h
  | overlong hpasses hlong => exact absurd ((overlong_iff_of_passes hpasses).mpr hlong) h
  | _ => exact ⟨_, rfl⟩

end GatewayConfig

end AisStation
