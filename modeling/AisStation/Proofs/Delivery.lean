import AisStation.Proofs.Framing
import AisStation.Proofs.RoundTrip
import AisStation.Proofs.Gateway.Sending

/-!
# Delivery from gateway to gateway

What one gateway sends another one receives: a canonical message without findings is framed in a
sentence from which every gateway gets the message back.
-/

namespace AisStation

namespace Sentence

variable {bs : Bits} {channel talker : String}

/-- The length of the payload is declared by its text and the fill bits. -/
theorem bitLength_ofPayload (kind : SentenceKind) :
    (ofPayload (Armor.encode bs) channel talker kind).bitLength = bs.length := by
  have hlen := Armor.length_text_encode bs
  show 6 * ((Armor.encode bs).text.length : Int) - (AisStation.fillBits 6 bs.length : Nat) =
    bs.length
  omega

/-- A sentence that carries armored bits is parsed as it was built. -/
theorem parse_build_encode (kind : SentenceKind) (hbs : 40 ≤ bs.length)
    (htalker : talker.length = 2) (htalkerChars : ∀ c ∈ talker.toList, IsFieldChar c)
    (hchannelChars : ∀ c ∈ channel.toList, IsFieldChar c) {before after : String}
    (hbefore : Text.isBlankLine before = true) (hafter : Text.isBlankLine after = true) :
    parse (before ++ build (Armor.encode bs) channel talker kind ++ after) =
      .ok (ofPayload (Armor.encode bs) channel talker kind) := by
  have hlen := Armor.length_text_encode bs
  have hne : (Armor.encode bs).text ≠ "" := by
    intro hempty
    rw [hempty, String.length_empty] at hlen
    omega
  have hfill : (Armor.encode bs).fillBits ≤ 5 :=
    Nat.lt_succ_iff.mp (fillBits_lt (by decide : 0 < 6) (bs.length : Int))
  exact parse_build htalker htalkerChars hchannelChars
    (fun c hc => Armor.mem_alphabet_of_mem_encode hc) hne hfill kind hbefore hafter

end Sentence

namespace GatewayConfig

/-- A message without findings that can be encoded is sent, on its channel. -/
theorem send_eq (config : GatewayConfig) {m : Message} (hvalid : m.isValid = true)
    {payload : Payload} (hencode : encode m = .ok payload) (channel : Option String) :
    config.send m channel = .ok (.encoded
      (Sentence.build payload (config.effectiveChannel channel) config.talker .vdm)) := by
  rw [send_of_passes fun _ => List.isEmpty_iff.mp hvalid, hencode]
  rfl

/-- A sentence that carries a message without findings is received. -/
theorem receive_eq (config : GatewayConfig) {m : Message} (hvalid : m.isValid = true)
    {line channel talker : String} {payload : Payload}
    (hparse : Sentence.parse line = .ok (.ofPayload payload channel talker .vdm))
    (hdecode : decode payload.text
      (some (Sentence.ofPayload payload channel talker .vdm).bitLength) = .ok m) :
    config.receive line = .decoded m := by
  have hdecode := decode_eq_ok_iff_result.mp hdecode
  have hwhole : (Sentence.ofPayload payload channel talker .vdm).isFragmented = false := rfl
  have hother : (Sentence.ofPayload payload channel talker .vdm).isOwnShip = false := rfl
  have hpayload : (Sentence.ofPayload payload channel talker .vdm).payload = payload.text := rfl
  simp only [receive, hparse, hwhole, hother, hpayload, hdecode, hvalid, Bool.not_true,
    Bool.and_false, Bool.false_and, Bool.false_eq_true, if_false]

end GatewayConfig

/-- A canonical message without findings is delivered: the sending gateway gives a line, and every
gateway that processes it, with any blanks around, gets the message. -/
theorem Message.Canonical.delivered {m : Message} (h : m.Canonical) (hfindings : m.findings = [])
    (sender : Gateway) (channel : Option String) (htalker : sender.config.talker.length = 2)
    (htalkerChars : ∀ c ∈ sender.config.talker.toList, Sentence.IsFieldChar c)
    (hchannelChars :
      ∀ c ∈ (sender.config.effectiveChannel channel).toList, Sentence.IsFieldChar c) :
    ∃ line, (sender.encodeLine m channel).1 = .ok (some line) ∧
      ∀ (receiver : Gateway) (before after : String), Text.isBlankLine before = true →
        Text.isBlankLine after = true →
          (receiver.processLine (before ++ line ++ after)).1 = some m := by
  have hvalid : m.isValid = true := by rw [isValid, hfindings]; rfl
  obtain ⟨bs, hencode, hbs, hdecode⟩ := h.exists_armor
  refine ⟨Sentence.build (Armor.encode bs) (sender.config.effectiveChannel channel)
    sender.config.talker .vdm, ?_, fun receiver before after hbefore hafter => ?_⟩
  · rw [Gateway.encodeLine, sender.config.send_eq hvalid hencode]
    rfl
  · have hparse := Sentence.parse_build_encode .vdm hbs htalker htalkerChars hchannelChars hbefore
      hafter
    rw [Gateway.processLine, receiver.config.receive_eq hvalid hparse
      (by rw [Sentence.bitLength_ofPayload]; exact hdecode)]
    rfl

/-- A text that ends in the filling character, between two gateways as they are by default. -/
theorem Message.delivered_safetyBroadcastMessage :
    let m : Message := .safetyBroadcastMessage { mmsi := 351809000, text := "KEEP CLEAR@" }
    m.Canonical ∧ m.findings = [] ∧ ∃ line, (Gateway.encodeLine {} m none).1 = .ok (some line) ∧
      (Gateway.processLine {} (line ++ "\r\n")).1 = some m := by
  intro m
  have hm : m.Canonical := by decide
  have hfindings : m.findings = [] := by decide
  obtain ⟨line, hsent, hreceived⟩ :=
    hm.delivered hfindings {} none (by decide) (by decide) (by decide)
  have hline := hreceived {} "" "\r\n" (by decide) (by decide)
  rw [String.empty_append] at hline
  exact ⟨hm, hfindings, line, hsent, hline⟩

end AisStation
