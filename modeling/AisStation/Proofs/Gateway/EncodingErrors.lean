import AisStation.Proofs.Gateway.Accounts
import AisStation.Proofs.Validated.Encoding

/-!
# The errors of encoding that a gateway counts

A record in which validation finds nothing is encoded unless it is a bare message or its opaque data
are too long for a message. So a gateway that validates what it sends counts just these two as
errors of encoding.
-/

namespace AisStation

open Validation WireRecord

namespace Message

/-- No payload is made of the record, although validation finds nothing in it. -/
def Unsendable (m : Message) : Prop :=
  m.findings = [] ∧ (m.kind = .bareMessage ∨ m.Oversize)

instance (m : Message) : Decidable m.Unsendable :=
  inferInstanceAs (Decidable (_ ∧ _))

end Message

/-! ## Gateways -/

theorem Inbound.disposition_ne_encodeError (result : Inbound) :
    result.disposition ≠ .encodeError := by
  cases result with
  | codecError error => cases error <;> exact Disposition.noConfusion
  | _ => exact Disposition.noConfusion

/-- If records are validated before they are sent, only those fail to be encoded that pass. -/
theorem GatewayConfig.disposition_send_iff {config : GatewayConfig}
    (hvalidate : config.validateOutbound = true) (m : Message) (channel : Option String) :
    (config.send m channel).toOption.map Outbound.disposition = some .encodeError ↔
      m.Unsendable := by
  have hsending := config.sending m channel
  generalize config.send m channel = result at hsending
  cases hsending with
  | unreportable _ hlong =>
    exact iff_of_false (by simp [Except.toOption]) fun h =>
      hlong (Message.isReportable_of_findings h.1)
  | invalid _ _ hfindings =>
    exact iff_of_false (by simp [Except.toOption, Outbound.disposition]) fun h => hfindings h.1
  | overlong hpasses hlong =>
    refine iff_of_false (by simp [Except.toOption]) fun h => ?_
    have hoverlong := (overlong_iff_of_passes hpasses).mpr hlong
    rw [Overlong, if_pos hvalidate] at hoverlong
    exact hoverlong (Message.isReportable_of_findings h.1)
  | encodeError hpasses hne hencode =>
    have hvalid := hpasses hvalidate
    obtain ⟨-, -, hencoded⟩ := Message.encode_of_checked (Message.checked_of_findings hvalid)
    refine iff_of_true rfl ⟨hvalid, ?_⟩
    by_contra hsendable
    obtain ⟨hkind, hlong⟩ := not_or.mp hsendable
    obtain ⟨payload, hpayload, -⟩ := hencoded hkind hlong
    rw [hencode] at hpayload
    contradiction
  | encoded hpasses hencode =>
    have hvalid := hpasses hvalidate
    obtain ⟨hbare, hover, -⟩ := Message.encode_of_checked (Message.checked_of_findings hvalid)
    refine iff_of_false (by simp [Except.toOption, Outbound.disposition]) fun h => ?_
    by_cases hkind : m.kind = .bareMessage
    · rw [hbare hkind] at hencode
      contradiction
    · rw [hover hkind (h.2.resolve_left hkind)] at hencode
      contradiction

namespace Gateway

/-- A record is to be encoded of which no payload is made although it is valid. -/
def Exchange.isUnsendable : Exchange → Bool
  | encode m _ _ => decide m.Unsendable
  | _ => false

theorem count_encodeError_dispositions (config : GatewayConfig) (lines : List String) :
    (dispositions config lines).count .encodeError = 0 := by
  rw [List.count_eq_zero]
  intro hmem
  obtain ⟨line, -, hline⟩ := List.mem_map.mp hmem
  exact Inbound.disposition_ne_encodeError _ hline

theorem Exchange.count_encodeError {config : GatewayConfig}
    (hvalidate : config.validateOutbound = true) (e : Exchange) :
    (e.dispositions config).count .encodeError = if e.isUnsendable then 1 else 0 := by
  cases e with
  | line text record? => exact count_encodeError_dispositions config [text]
  | lines texts records => exact count_encodeError_dispositions config (handed texts)
  | resetStats => rfl
  | encode m channel answer =>
    have hsend := config.disposition_send_iff hvalidate m channel
    rw [dispositions, isUnsendable]
    cases hresult : (config.send m channel).toOption.map Outbound.disposition with
    | none =>
      rw [hresult] at hsend
      simpa using hsend
    | some o =>
      rw [hresult, Option.some_inj] at hsend
      rw [Option.toList_some, List.count_singleton]
      simp only [beq_iff_eq, decide_eq_true_iff, hsend]

theorem count_encodeError_flatMap {config : GatewayConfig}
    (hvalidate : config.validateOutbound = true) (es : List Exchange) :
    (es.flatMap (·.dispositions config)).count .encodeError = es.countP (·.isUnsendable) := by
  induction es with
  | nil => rfl
  | cons e es ih =>
    rw [List.flatMap_cons, List.count_append, ih, Exchange.count_encodeError hvalidate,
      List.countP_cons, Nat.add_comm]

end Gateway

/-- A record in which validation finds nothing is encoded, or its opaque data make it too long, or
it is a bare message. A gateway that validates what it sends counts just the latter two as errors of
encoding. -/
theorem encode_of_findings :
    (∀ m : Message, m.findings = [] →
      (m.kind = .bareMessage → encode m = .error (.wrongCarrier m.kind m.messageType)) ∧
      (m.kind ≠ .bareMessage → m.Oversize →
        encode m = .error (.codec (.wrongLength m.messageType m.sentLength m.kind.lengths))) ∧
      (m.kind ≠ .bareMessage → ¬m.Oversize →
        ∃ payload, encode m = .ok payload ∧ payload.bitLength = m.sentLength)) ∧
    ∀ (config : GatewayConfig) (calls : List Gateway.Call), config.validateOutbound = true →
      (Gateway.run { config } calls).2.stats.encodeErrors =
        (Gateway.sinceReset (Gateway.run { config } calls).1).countP (·.isUnsendable) := by
  constructor
  · intro m hvalid
    exact Message.encode_of_checked (Message.checked_of_findings hvalid)
  · intro config calls hvalidate
    have hcounter := Gateway.counter_run config calls .encodeError
    rw [Gateway.count_encodeError_flatMap hvalidate] at hcounter
    exact hcounter

/-- Letters outside ASCII that are folded into the alphabet pass and are sent; of two records that
cannot be sent, the gateway counts the one with too many data. -/
theorem encode_of_findings_safetyBroadcastMessage :
    let m : Message := .safetyBroadcastMessage { mmsi := 2655619, text := "m\u0131\u017F" }
    let long : Message := .binaryBroadcastMessage { data := ⟨List.replicate 960 true⟩ }
    let calls : List Gateway.Call := [.encode m none, .encode long none]
    m.findings = [] ∧ m.kind ≠ .bareMessage ∧ ¬m.Oversize ∧
      (∃ payload, encode m = .ok payload ∧ payload.bitLength = m.sentLength) ∧
      (Gateway.run {} calls).2.stats.encodeErrors =
        (Gateway.sinceReset (Gateway.run {} calls).1).countP (·.isUnsendable) := by
  intro m long calls
  have hvalid : m.findings = [] := by decide +kernel
  have hkind : m.kind ≠ .bareMessage := RecordKind.noConfusion
  have hover : ¬m.Oversize := by decide +kernel
  exact ⟨hvalid, hkind, hover, (encode_of_findings.1 m hvalid).2.2 hkind hover,
    encode_of_findings.2 {} calls rfl⟩

/-- A bare message of the first type passes, but nothing carries it: the gateway counts an error of
encoding, and no data are too long. -/
theorem not_encoded_bareMessage :
    let m : Message := .bareMessage { messageType := 1 }
    m.findings = [] ∧ ¬m.Oversize ∧ encode m = .error (.wrongCarrier .bareMessage 1) ∧
      (Gateway.run {} [.encode m none]).2.stats.encodeErrors = 1 := by
  intro m
  have hvalid : m.findings = [] := by decide +kernel
  have hover : ¬m.Oversize := by decide +kernel
  have herror : encode m = .error (.wrongCarrier .bareMessage 1) := by decide +kernel
  have hcount : (Gateway.run {} [.encode m none]).2.stats.encodeErrors = 1 := by decide +kernel
  exact ⟨hvalid, hover, herror, hcount⟩

end AisStation
