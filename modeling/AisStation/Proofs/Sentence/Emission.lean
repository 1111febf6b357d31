import AisStation.Proofs.Config.Agreement
import AisStation.Proofs.Delivery
import AisStation.Proofs.Encoding
import AisStation.Proofs.Sentence.Corruption

/-!
# Emitted sentences

What a gateway emits is parsed again exactly if neither the talker nor the channel of its
configuration holds a comma, an asterisk or a character beyond ASCII. The schema looks at the
lengths of the two texts only, so a configuration may be valid and yet let the gateway emit lines
that nobody can parse, without any of them being counted as an error.
-/

namespace AisStation

namespace Config

section

variable {path : List String} {members : List (String × Json)}

theorem length_of_textOfLength {least most : Nat} {value : Json} {s : String}
    (h : Reading.textOfLength least most value = .ok s) : least ≤ s.length ∧ s.length ≤ most := by
  obtain ⟨t, -, hs⟩ := bind_eq_ok_iff.mp h
  split at hs
  · contradiction
  · split at hs
    · contradiction
    · obtain rfl := Except.ok.inj hs
      omega

theorem length_of_setting {least most : Nat} {name default s : String}
    (hdefault : least ≤ default.length ∧ default.length ≤ most)
    (h : Scope.setting ⟨path, members⟩ name default (Reading.textOfLength least most) = .valid s) :
    least ≤ s.length ∧ s.length ≤ most := by
  rcases setting_eq_valid h with ⟨-, rfl⟩ | ⟨value, -, hvalue⟩
  · exact hdefault
  · exact length_of_textOfLength hvalue

theorem length_of_checkCodec {c : GatewayConfig} (h : checkCodec ⟨path, members⟩ = .valid c) :
    c.talker.length = 2 ∧ c.channel.length ≤ 1 := by
  obtain ⟨_, channel, hfour, hchannel, rfl⟩ := Checked.ap_eq_valid h
  obtain ⟨_, talker, hthree, htalker, rfl⟩ := Checked.ap_eq_valid hfour
  obtain ⟨_, acceptVdo, htwo, -, rfl⟩ := Checked.ap_eq_valid hthree
  obtain ⟨_, outbound, hone, -, rfl⟩ := Checked.ap_eq_valid htwo
  obtain ⟨inbound, -, rfl⟩ := Checked.map_eq_valid hone
  have htwo := length_of_setting (by decide) htalker
  have hone := length_of_setting (by decide) hchannel
  exact ⟨Nat.le_antisymm htwo.2 htwo.1, hone.2⟩

theorem exists_gateway {c : GatewayConfig} (h : checkCodec ⟨path, members⟩ = .valid c) :
    ∃ g, Gateway.ofConfig (.object members) = .ok g ∧ g.config.talker = c.talker ∧
      g.config.channel = c.channel := by
  rw [Gateway.ofConfig, (ofConfig_of_checkCodec h).1]
  exact ⟨_, rfl, rfl, rfl⟩

end

end Config

/-- What a gateway emits is the payload of the record between its talker and the channel. -/
theorem Gateway.exists_of_encodeLine {g : Gateway} {m : Message} {line : String}
    (h : (g.encodeLine m none).1 = .ok (some line)) :
    ∃ bs, encode m = .ok (Armor.encode bs) ∧ m.kind.lengths.accepts bs.length = true ∧
      line = Sentence.build (Armor.encode bs) g.config.channel g.config.talker .vdm := by
  rw [encodeLine] at h
  cases hsend : g.config.send m none with
  | error e =>
    rw [hsend] at h
    contradiction
  | ok outcome =>
    rw [hsend] at h
    have hline : outcome.line? = some line := Except.ok.inj h
    cases outcome with
    | encoded sent =>
      obtain rfl := Option.some.inj hline
      obtain ⟨payload, hencode, rfl⟩ := GatewayConfig.send_eq_encoded hsend
      obtain ⟨bs, -, rfl, -, haccepts⟩ := encode_eq_ok hencode
      exact ⟨bs, hencode, haccepts, rfl⟩
    | _ => contradiction

namespace Sentence

/-! ## Separators -/

theorem length_splitAt (mark : Char) (cs : List Char) :
    (splitAt mark cs).length = cs.count mark + 1 := by
  induction cs with
  | nil => rfl
  | cons c cs ih =>
    rw [splitAt]
    split
    · rename_i hc
      rw [hc, List.length_cons, ih, List.count_cons_self]
    · rename_i hc
      rw [List.count_cons_of_ne hc, ← ih]
      cases hpieces : splitAt mark cs with
      | nil =>
        rw [hpieces] at ih
        contradiction
      | cons piece pieces => rfl

/-- Parsing takes from a frame the body that is framed, or nothing. -/
theorem of_parse_frame {body : List Char} {s : Sentence} (h : parse (frame body) = .ok s) :
    (∀ c ∈ body, c.toNat < 128) ∧ '*' ∉ body ∧ body.count ',' = 6 := by
  rw [frame] at h
  obtain ⟨before, body', high, low, after, hapart⟩ := exists_apart h
  -- the frame starts with the mark, so no blanks stand before the body that is taken
  have hbefore : before = [] := by
    cases before with
    | nil => rfl
    | cons c cs =>
      obtain ⟨rfl, -⟩ := List.cons.inj hapart.line_eq
      exact absurd (hapart.before_blank _ List.mem_cons_self) (by decide)
  obtain ⟨hbody', htail⟩ := hapart.star_not_mem
  obtain ⟨f, hpieces, -⟩ := hapart.fields
  have hframe := hapart.line_eq
  rw [hbefore] at hframe hbody'
  obtain ⟨hbody, -, -⟩ := (List.append_cons_inj_of_notMem hbody' htail).mp hframe.symm
  obtain rfl := (List.cons.inj hbody).2
  have hcount := length_splitAt ',' body'
  rw [hpieces] at hcount
  exact ⟨hapart.frames.isAscii, hapart.frames.unmarked, (Nat.succ.inj hcount).symm⟩

/-- Between the fields of a body there are six commas; any other belongs to a field. -/
theorem le_count_bodyOf (payload : Payload) (channel talker : String) (kind : SentenceKind) :
    6 + (talker.toList ++ channel.toList).count ',' ≤
      (bodyOf payload channel talker kind).count ',' := by
  have hbetween : ",1,1,,".toList.count ',' = 4 := by decide
  simp only [bodyOf, List.count_append, List.count_cons_self, hbetween]
  omega

theorem isFieldChar_of_parse_build {payload : Payload} {channel talker : String}
    {kind : SentenceKind} {s : Sentence} (h : parse (build payload channel talker kind) = .ok s) :
    ∀ c ∈ talker.toList ++ channel.toList, IsFieldChar c := by
  obtain ⟨hascii, hstar, hcount⟩ := of_parse_frame h
  have hcommas := le_count_bodyOf payload channel talker kind
  have hnone : ',' ∉ talker.toList ++ channel.toList := by
    rw [← List.count_eq_zero]
    omega
  intro c hc
  have hmem : c ∈ bodyOf payload channel talker kind := by
    rcases List.mem_append.mp hc with hc | hc <;> simp [bodyOf, hc]
  refine ⟨hascii c hmem, ?_, ?_⟩
  · rintro rfl
    exact hnone hc
  · rintro rfl
    exact hstar hmem

end Sentence

/-- What the gateway of a valid section emits for a record is parsed as the record's payload between
the configured talker and channel, if these hold no separators and are ASCII; otherwise it is not
parsed at all. -/
theorem Gateway.parse_of_encodeLine {path : List String} {members : List (String × Json)}
    {c : GatewayConfig} (h : Config.checkCodec ⟨path, members⟩ = .valid c) :
    ∃ g, Gateway.ofConfig (.object members) = .ok g ∧
      ∀ m line, (g.encodeLine m none).1 = .ok (some line) → ∃ payload, encode m = .ok payload ∧
        ((∀ char ∈ c.talker.toList ++ c.channel.toList, Sentence.IsFieldChar char) →
          Sentence.parse line = .ok (.ofPayload payload c.channel c.talker .vdm) ∧
            (Sentence.ofPayload payload c.channel c.talker .vdm).bitLength = payload.bitLength) ∧
        (∀ s, Sentence.parse line = .ok s →
          ∀ char ∈ c.talker.toList ++ c.channel.toList, Sentence.IsFieldChar char) := by
  obtain ⟨htalker, -⟩ := Config.length_of_checkCodec h
  obtain ⟨g, hg, hgTalker, hgChannel⟩ := Config.exists_gateway h
  refine ⟨g, hg, fun m line hline => ?_⟩
  obtain ⟨bs, hencode, haccepts, rfl⟩ := g.exists_of_encodeLine hline
  rw [hgTalker, hgChannel]
  refine ⟨_, hencode, fun hchars => ⟨?_, Sentence.bitLength_ofPayload .vdm⟩,
    fun s => Sentence.isFieldChar_of_parse_build⟩
  obtain ⟨htalkerChars, hchannelChars⟩ := List.forall_mem_append.mp hchars
  have hblank : Text.isBlankLine "" = true := by decide
  have hparse := Sentence.parse_build_encode .vdm (RecordKind.le_of_accepts haccepts) htalker
    htalkerChars hchannelChars hblank hblank
  rwa [String.empty_append, String.append_empty] at hparse

/-- A base station that names no channel is understood. -/
theorem Gateway.parse_of_encodeLine_base_station :
    let c : GatewayConfig := { talker := "BS", channel := "" }
    let members := [("talker", Json.text "BS"), ("channel", Json.text "")]
    let m : Message := .utcDateInquiry { mmsi := 2655619, destMmsi := 2655654 }
    Config.checkCodec ⟨[], members⟩ = .valid c ∧
      ∃ g line, Gateway.ofConfig (.object members) = .ok g ∧
        (g.encodeLine m none).1 = .ok (some line) ∧
        ∃ payload, encode m = .ok payload ∧
          Sentence.parse line = .ok (.ofPayload payload "" "BS" .vdm) := by
  intro c members m
  have hvalid : Config.checkCodec ⟨[], members⟩ = .valid c := by rfl
  have hofConfig : Gateway.ofConfig (.object members) = .ok { config := c } := by rfl
  have hsent : (Gateway.encodeLine { config := c } m none).1 =
      .ok (some "!BSVDM,1,1,,,:02R5Ph0`QJH,0*1A") := by decide +kernel
  obtain ⟨g, hg, hline⟩ := Gateway.parse_of_encodeLine hvalid
  obtain rfl := Except.ok.inj (hofConfig.symm.trans hg)
  obtain ⟨payload, hencode, hparsed, -⟩ := hline m _ hsent
  obtain ⟨hparse, -⟩ := hparsed (by decide)
  exact ⟨hvalid, _, _, hofConfig, hsent, payload, hencode, hparse⟩

/-- A comma is a valid channel, but with it every sentence has a field too many; the gateway counts
the message as encoded all the same. -/
theorem Gateway.not_parsed_comma_channel :
    let c : GatewayConfig := { channel := "," }
    let members := [("channel", Json.text ",")]
    let m : Message := .utcDateInquiry { mmsi := 2655619, destMmsi := 2655654 }
    let line := "!AIVDM,1,1,,,,:02R5Ph0`QJH,0*2F"
    Config.checkCodec ⟨[], members⟩ = .valid c ∧
      ∃ g, Gateway.ofConfig (.object members) = .ok g ∧
        g.encodeLine m none = (.ok (some line), { g with stats := { messagesEncoded := 1 } }) ∧
          ¬∃ s, Sentence.parse line = .ok s := by
  intro c members m line
  refine ⟨by rfl, { config := c }, by rfl, by decide +kernel, ?_⟩
  rintro ⟨s, hparse⟩
  have herror : Sentence.parse line = .error (.fieldCount 8) := by decide +kernel
  rw [herror] at hparse
  contradiction

end AisStation
